import CloudImages.Proofs.Batch.Loading
import CloudImages.Proofs.Json.RoundTrip

set_option autoImplicit false

/-! # Loaded images keep to their own names

Whatever the properties hold, an image that is loaded has a name of its own, a positive count of
instances, and a container in which no environment entry and no label is reserved
(`isolated_of_load`). The container is looked at as a whole: keys are distinct, so the member that
was checked is the only one there is under its key. -/

namespace CloudImages

open Json

/-! ## Isolated containers -/

/-- Under a key of an object there is nothing, or null, or what `P` asks for. -/
def AbsentOr (P : Value → Prop) (members : Members Value) (key : String) : Prop :=
  ∀ v, (key, v) ∈ members → v = .null ∨ P v

/-- A string, a number or a boolean whose text does not begin as reserved environment entries do. -/
def IsFreeEntry (v : Value) : Prop :=
  (v.kind = .string ∨ v.kind = .number ∨ v.kind = .boolean) ∧
    ∃ text, v.asA .text = .ok text ∧ ¬ ∃ rest, text = Reserved.envStart ++ rest

/-- An object with distinct keys in which neither the environment nor the labels use reserved
names. -/
def Isolated (container : Value) : Prop :=
  ∃ members, container = .object members ∧ Members.Distinct members ∧
    AbsentOr (fun env => ∃ entries, env = .array entries ∧ ∀ v ∈ entries, IsFreeEntry v)
      members "Env" ∧
    AbsentOr (fun labels => ∃ inner, labels = .object inner ∧
        ∀ key ∈ Members.names inner, ¬ ∃ rest, key = Reserved.labelStart ++ rest)
      members "Labels"

/-- What holds of a member that is neither absent nor null holds of the only one under its key. -/
theorem absentOr_of_field? {P : Value → Prop} {members : Members Value} {key : String}
    (distinct : Members.Distinct members)
    (h : (Value.object members).field? key = .ok none ∨
      ∃ found, (Value.object members).field? key = .ok (some found) ∧ P found) :
    AbsentOr P members key := by
  intro v there
  have only := (Members.lookup_eq_some_iff_mem distinct).2 there
  rcases h with absent | ⟨found, member, holds⟩
  · obtain ⟨_, same, absent | null⟩ := Value.field?_eq_none_iff.1 absent
    · cases same
      exact absurd (only.symm.trans absent) (by simp)
    · cases same
      exact Or.inl (Option.some.inj (only.symm.trans null))
  · obtain ⟨_, same, member, -⟩ := Value.field?_eq_some_iff.1 member
    cases same
    obtain rfl := Option.some.inj (only.symm.trans member)
    exact Or.inr holds

theorem isFreeEntry_of_freeEntry {v : Value} (h : Definition.FreeEntry v) : IsFreeEntry v := by
  obtain ⟨text, read, free⟩ := h
  refine ⟨Coercion.kind_of_text_read? (Value.asA_eq_ok_iff.1 read), text, read, ?_⟩
  intro reserved
  exact free (Reserved.begins_iff.2 reserved)

theorem isolated_of_free {members : Members Value} (distinct : Members.Distinct members)
    (env : Definition.FreeEnv (.object members))
    (labels : Definition.FreeLabels (.object members)) : Isolated (.object members) := by
  refine ⟨members, rfl, distinct, absentOr_of_field? distinct ?_, absentOr_of_field? distinct ?_⟩
  · rcases env with absent | ⟨entries, there, free⟩
    · exact Or.inl absent
    · refine Or.inr ⟨_, there, entries, rfl, ?_⟩
      intro v member
      exact isFreeEntry_of_freeEntry (free v member)
  · rcases labels with absent | ⟨inner, there, free⟩
    · exact Or.inl absent
    · refine Or.inr ⟨_, there, inner, rfl, ?_⟩
      intro key member reserved
      exact free key member (Reserved.begins_iff.2 reserved)

/-! ## Loaded images -/

namespace Definition

variable {definition administration : Value} {count : Int64}
  {pools : Option (List PoolAssignment)} {image : Image}

/-- The container of an image is an object, and stands in its definition as it is. -/
theorem Accepted.container_mem (h : Accepted definition administration count pools image)
    (distinct : definition.DistinctKeys) :
    ∃ outer members, definition = .object outer ∧ ("Container", image.container) ∈ outer ∧
      image.container = .object members := by
  obtain ⟨found, member, kept⟩ := Value.get_eq_ok_iff.1 h.container
  obtain ⟨members, rfl, same⟩ := Coercion.object_read?_eq_some_iff.1 kept
  obtain ⟨outer, rfl, there, -⟩ := Value.field?_eq_some_iff.1 member
  obtain ⟨keys, -⟩ := Value.distinctKeys_object_iff.1 distinct
  exact ⟨outer, members, rfl, same ▸ (Members.lookup_eq_some_iff_mem keys).1 there, same⟩

/-- The container has distinct keys if the definition does. -/
theorem Accepted.isolated (h : Accepted definition administration count pools image)
    (distinct : definition.DistinctKeys) : Isolated image.container := by
  obtain ⟨outer, members, rfl, there, same⟩ := h.container_mem distinct
  have free := (Value.distinctKeys_object_iff.1 distinct).2 _ there
  have env := h.env
  have labels := h.labels
  simp only [same] at free env labels ⊢
  exact isolated_of_free (Value.distinctKeys_object_iff.1 free).1 env labels

theorem Accepted.maxInstances_toNat (h : Accepted definition administration count pools image) :
    (image.maxInstances.toNat : Int) = count.toInt := by
  rw [h.maxInstances]
  exact Image.toNat_ofNat_of_within h.positive h.within

end Definition

namespace Batch

/-- The images of a batch come from definitions with distinct keys, which nest less deep than the
text for the images. -/
theorem accepted_of_mem {properties : Properties} {images : List Image}
    (h : Gives properties images) {image : Image} (member : image ∈ images) :
    ∃ definition administration count, definition.DistinctKeys ∧ definition.depth ≤ 126 ∧
      Definition.Accepted definition administration count (pools? properties) image := by
  obtain ⟨text, definitions, definition, parsed, there, read⟩ := definition_of_mem h member
  obtain ⟨distinct, fits⟩ := Value.of_ofText (Value.parse_eq_ok_iff.1 parsed)
  obtain ⟨administration, count, accepted⟩ :=
    Definition.read_eq_ok_iff.1 (Image.ofDefinition_eq_ok_iff.1 read)
  exact ⟨definition, administration, count, Value.distinctKeys_array_iff.1 distinct _ there,
    Value.depth_array_le_iff.1 fits _ there, accepted⟩

/-- The images of a batch have different names, none of them empty, a count of instances between
one and the greatest of a word of 32 bits, and isolated containers. -/
theorem isolated_of_load {properties : Properties} {images : List Image}
    (h : (load properties).result = .ok images) :
    (∀ image ∈ images, image.profile ≠ "") ∧ (images.map Image.profile).Nodup ∧
      (∀ image ∈ images, 1 ≤ image.maxInstances.toNat ∧ image.maxInstances.toNat ≤ 4294967295) ∧
      ∀ image ∈ images, Isolated image.container := by
  obtain ⟨gives, distinct⟩ := gives_of_load_eq_ok h
  refine ⟨?_, distinct, ?_, ?_⟩
  · intro image member
    obtain ⟨_, _, _, -, -, accepted⟩ := accepted_of_mem gives member
    exact accepted.named
  · intro image member
    obtain ⟨_, _, count, -, -, accepted⟩ := accepted_of_mem gives member
    have kept := accepted.maxInstances_toNat
    have positive := accepted.positive
    have within := accepted.within
    simp only [Image.instanceLimit] at within
    omega
  · intro image member
    obtain ⟨_, _, _, keys, -, accepted⟩ := accepted_of_mem gives member
    exact accepted.isolated keys

/-- A batch with a repeated and an escaped key, quoted scalars, a number for a name and null for the
labels: of its two environments the last one counts, and that one is free. -/
def respelled : Properties :=
  [(imagesKey, "[\x7b\"Administration\":\x7b\"Version\":\"1\",\"Profile\":7,\"RmOnExit\":true," ++
    "\"UseOfficialTCAgentImage\":\"false\",\"MaxInstanceCount\":\"2\"\x7d,\"Container\":\x7b" ++
    "\"Env\":[\"DOCKER_CLOUD_A=1\"],\"\\u0045nv\":[\"X=1\",5],\"Labels\":null\x7d\x7d]")]

theorem isolated_of_load_respelled :
    ∃ image, (load respelled).result = .ok [image] ∧ image.profile = "7" ∧
      image.container.render = "\x7b\"Env\":[\"X=1\",5],\"Labels\":null\x7d" ∧
      image.maxInstances.toNat = 2 ∧ Isolated image.container := by
  have seen : (load respelled).result.toOption.map (fun images => images.map fun image =>
      (image.profile, image.container.render, image.maxInstances.toNat))
        = some [("7", "\x7b\"Env\":[\"X=1\",5],\"Labels\":null\x7d", 2)] := by decide +kernel
  cases loaded : (load respelled).result with
  | error error => exact absurd seen (by simp [loaded, Except.toOption])
  | ok images =>
    have isolated := isolated_of_load loaded
    rw [loaded, Except.toOption, Option.map_some, Option.some.injEq] at seen
    obtain ⟨image, rfl, same⟩ := List.map_eq_singleton_iff.1 seen
    simp only [Prod.mk.injEq] at same
    obtain ⟨name, container, count⟩ := same
    exact ⟨image, rfl, name, container, count, isolated.2.2.2 image List.mem_cons_self⟩

end Batch

end CloudImages
