import CloudImages.Proofs.Batch.Drafts
import CloudImages.Proofs.Batch.Isolation
import CloudImages.Proofs.Pool.Trees

set_option autoImplicit false

/-! # What is written of a loaded image

The text of a loaded image is read back as an object that says the same as the image
(`Image.Persists`), and the reads that a definition is read with give its parts
(`Image.ReadBack`). So images with one text are the same image (`persists_of_load`).

The container is not looked into. It stood two levels deep in the text for the images and stands one
level deep in the text of its image, so there is room for it at any depth it can have. -/

namespace CloudImages

open Json

namespace Image

/-- The members say the same as the image: these keys in this order, and under each of them the
value that the image has, null for a pool that is missing. -/
structure Persists (image : Image) (members : Members Value) : Prop where
  keys : members.names = ["profile_name", "container_spec", "rm_on_exit",
    "use_official_agent_image", "max_instance_count", "agent_pool_id"]
  profile : members.lookup "profile_name" = some (.string image.profile)
  container : members.lookup "container_spec" = some image.container
  removeOnExit : members.lookup "rm_on_exit" = some (.boolean image.removeOnExit)
  officialImage : members.lookup "use_official_agent_image" = some (.boolean image.officialImage)
  maxInstances : ∃ count : Integer, members.lookup "max_instance_count"
    = some (.number (.integer count)) ∧ count.val = image.maxInstances.toNat
  pool : ∃ v, members.lookup "agent_pool_id" = some v ∧ PoolAssignment.IsPool v image.pool

/-- The reads of a document give the parts of the image. -/
structure ReadBack (image : Image) (v : Value) : Prop where
  profile : v.get .text "profile_name" = .ok image.profile
  container : v.get .object "container_spec" = .ok image.container
  removeOnExit : v.get .boolean "rm_on_exit" = .ok image.removeOnExit
  officialImage : v.get .boolean "use_official_agent_image" = .ok image.officialImage
  maxInstances : ∃ count, v.get .integer "max_instance_count" = .ok count ∧
    count.toInt = image.maxInstances.toNat
  pool : image.pool = none ∧ v.field? "agent_pool_id" = .ok none ∨
    ∃ pool, image.pool = some pool ∧ v.get .integer "agent_pool_id" = .ok pool

theorem exists_members_toValue (image : Image) :
    ∃ members, image.toValue = .object members ∧ image.Persists members := by
  refine ⟨_, rfl, ?_⟩
  exact {
    keys := rfl
    profile := rfl
    container := rfl
    removeOnExit := rfl
    officialImage := rfl
    maxInstances := ⟨_, rfl, rfl⟩
    pool := ⟨_, rfl, PoolAssignment.isPool_ofInt64? image.pool⟩ }

/-- Members say the same as one image at most. -/
theorem eq_of_persists {image other : Image} {members : Members Value}
    (h : image.Persists members) (h' : other.Persists members) : image = other := by
  have profile := Value.string.inj (Option.some.inj (h.profile.symm.trans h'.profile))
  have container := Option.some.inj (h.container.symm.trans h'.container)
  have removeOnExit :=
    Value.boolean.inj (Option.some.inj (h.removeOnExit.symm.trans h'.removeOnExit))
  have officialImage :=
    Value.boolean.inj (Option.some.inj (h.officialImage.symm.trans h'.officialImage))
  have maxInstances : image.maxInstances = other.maxInstances := by
    obtain ⟨count, there, same⟩ := h.maxInstances
    obtain ⟨count', there', same'⟩ := h'.maxInstances
    cases there.symm.trans there'
    exact UInt32.toNat_inj.1 (Int.ofNat.inj (same.symm.trans same'))
  have pool : image.pool = other.pool := by
    obtain ⟨v, there, isPool⟩ := h.pool
    obtain ⟨v', there', isPool'⟩ := h'.pool
    cases there.symm.trans there'
    exact PoolAssignment.isPool_unique isPool isPool'
  cases image
  cases other
  rw [mk.injEq]
  exact ⟨profile, container, removeOnExit, officialImage, maxInstances, pool⟩

theorem Persists.readBack {image : Image} {members : Members Value} (h : image.Persists members)
    (isObject : ∃ inner, image.container = .object inner) : image.ReadBack (.object members) := by
  obtain ⟨inner, isObject⟩ := isObject
  refine {
    profile := Value.get_of_lookup h.profile (by simp) rfl
    container := Value.get_of_lookup h.container (by simp [isObject])
      (Coercion.object_read?_eq_some_iff.2 ⟨inner, isObject, isObject⟩)
    removeOnExit := Value.get_of_lookup h.removeOnExit (by simp) rfl
    officialImage := Value.get_of_lookup h.officialImage (by simp) rfl
    maxInstances := ?_
    pool := ?_ }
  · obtain ⟨count, there, same⟩ := h.maxInstances
    -- the greatest count is that of a word of 32 bits, far within a signed word of 64
    have within := image.maxInstances.toNat_lt
    have kept : (Int64.ofInt count.val).toInt = count.val :=
      Int64.toInt_ofInt_of_le (by omega) (by omega)
    have read := Coercion.integer_read?_eq_some_iff.2 kept
    exact ⟨_, Value.get_of_lookup there (by simp) read, kept.trans same⟩
  · obtain ⟨v, there, isPool⟩ := h.pool
    generalize image.pool = pool at isPool ⊢
    cases isPool with
    | none => exact Or.inl ⟨rfl, Value.field?_eq_none_iff.2 ⟨members, rfl, Or.inr there⟩⟩
    | some same =>
      have read := Coercion.integer_read?_eq_some_iff.2 same.symm
      exact Or.inr ⟨_, rfl, Value.get_of_lookup there (by simp) read⟩

theorem writable_toValue {image : Image} (h : image.container.Writable 126) :
    image.toValue.Writable depthLimit := by
  have count : (Value.number (.ofUInt32 image.maxInstances)).Writable 126 :=
    ⟨⟨_, rfl⟩, trivial, Nat.zero_le 126⟩
  refine Value.Writable.object_iff.2 ⟨by simp [Members.Distinct, Members.names], ?_⟩
  simp [h, count, Value.Writable.string, Value.Writable.boolean, Value.Writable.ofInt64?]

/-- The text of an image is read back, if its container can be. -/
theorem parse_render {image : Image} (h : image.container.Writable 126) :
    Value.parse image.render = .ok image.toValue :=
  Value.parse_render (writable_toValue h)

/-- Images with one text are the same image, if their containers can be read back. -/
theorem eq_of_render_eq {image other : Image} (h : image.container.Writable 126)
    (h' : other.container.Writable 126) (same : image.render = other.render) : image = other := by
  obtain ⟨members, written, persists⟩ := image.exists_members_toValue
  obtain ⟨members', written', persists'⟩ := other.exists_members_toValue
  have read := parse_render h
  rw [same, parse_render h', written, written', Except.ok.injEq, Value.object.injEq] at read
  rw [read] at persists'
  exact eq_of_persists persists persists'

end Image

/-! ## Loaded images -/

/-- In a definition with distinct keys, the container has distinct keys and nests less deep. -/
theorem Definition.Accepted.writable_container {definition administration : Value} {count : Int64}
    {pools : Option (List PoolAssignment)} {image : Image} {bound : Nat}
    (h : Accepted definition administration count pools image) (distinct : definition.DistinctKeys)
    (fits : definition.depth ≤ bound + 1) (integers : image.container.NoDoubles) :
    image.container.Writable bound := by
  obtain ⟨outer, -, rfl, there, -⟩ := h.container_mem distinct
  exact ⟨integers, (Value.distinctKeys_object_iff.1 distinct).2 _ there,
    Value.depth_object_le_iff.1 fits _ there⟩

namespace Batch

theorem writable_container_of_load {properties : Properties} {images : List Image}
    (h : (load properties).result = .ok images) {image : Image} (member : image ∈ images)
    (integers : image.container.NoDoubles) :
    image.container.Writable 126 ∧ ∃ inner, image.container = .object inner := by
  obtain ⟨gives, -⟩ := gives_of_load_eq_ok h
  obtain ⟨definition, administration, count, distinct, fits, accepted⟩ :=
    accepted_of_mem gives member
  obtain ⟨-, inner, -, -, isObject⟩ := accepted.container_mem distinct
  exact ⟨(accepted.writable_container distinct fits integers).mono (by decide), inner, isObject⟩

/-- The text of a loaded image whose container has no doubles is read back as an object that says
the same as the image, and whose parts are read as those of the image. Two such images with one text
are the same, whatever properties they were loaded from. -/
theorem persists_of_load {properties : Properties} {images : List Image}
    (h : (load properties).result = .ok images) {image : Image} (member : image ∈ images)
    (integers : image.container.NoDoubles) :
    (∃ members, Value.parse image.render = .ok (.object members) ∧ image.Persists members ∧
      image.ReadBack (.object members)) ∧
    ∀ {others : Properties} {images' : List Image} {other : Image},
      (load others).result = .ok images' → other ∈ images' → other.container.NoDoubles →
        image.render = other.render → image = other := by
  obtain ⟨writable, isObject⟩ := writable_container_of_load h member integers
  refine ⟨?_, ?_⟩
  · obtain ⟨members, written, persists⟩ := image.exists_members_toValue
    exact ⟨members, written ▸ Image.parse_render writable, persists, persists.readBack isObject⟩
  · intro others images' other h' member' integers' same
    obtain ⟨writable', -⟩ := writable_container_of_load h' member' integers'
    exact Image.eq_of_render_eq writable writable' same

/-- A draft whose profile and image have to be escaped where they are written. -/
def quoted : Draft := { profile := "a\"\n", image := "\\\u0001" }

/-- Loaded alone and together with another draft, its image is the same. -/
theorem persists_of_load_quoted : ∃ image images,
    (reload [quoted]).result = .ok [image] ∧ (reload [quoted, {}]).result = .ok images ∧
      (∃ members, Value.parse image.render = .ok (.object members) ∧ image.Persists members ∧
        image.ReadBack (.object members)) ∧
      ∃ other ∈ images, image.render = other.render ∧ image = other := by
  have acceptable : quoted.Acceptable := Draft.acceptable_defaults (by decide)
  have alone : ∀ draft ∈ [quoted], draft.Acceptable := List.forall_mem_singleton.2 acceptable
  have both : ∀ draft ∈ [quoted, {}], draft.Acceptable := by
    simp [acceptable, Draft.acceptable_defaults]
  have loaded := reload_of_acceptable alone
  have loaded' := reload_of_acceptable both
  rw [if_pos (by decide)] at loaded loaded'
  have integers : quoted.toImage.container.NoDoubles := quoted.writable_container.integers
  obtain ⟨back, only⟩ := persists_of_load loaded List.mem_cons_self integers
  exact ⟨quoted.toImage, _, loaded, loaded', back, quoted.toImage, List.mem_cons_self, rfl,
    only loaded' List.mem_cons_self integers rfl⟩

end Batch

end CloudImages
