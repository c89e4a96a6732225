import CloudImages.Proofs.Batch.Drafts
import CloudImages.Proofs.Definition.Reordered

set_option autoImplicit false

/-! # Batches with their members in another order

Two texts for the images that are the same but for the order of members load alike: with the same
failures, or with images that are the same one by one but for that order inside of their containers
(`Batch.ofDefinition_and_load_of_reordered`). Of a rejected definition another label may be named
then (`Definition.SameCause`), but which definition is rejected, and why, is no failure of a batch:
its text is unreadable as a whole. -/

namespace CloudImages

open Json Outcome

variable {pools : Option (List PoolAssignment)}

theorem Image.ofDefinition_alike_of_reordered {definition other : Value}
    (reordered : Value.Reordered definition other) (distinct : definition.DistinctKeys)
    (pools : Option (List PoolAssignment)) :
    Alike (fun error error' => Definition.SameCause definition other error.cause error'.cause)
      Image.Reordered (ofDefinition definition pools) (ofDefinition other pools) :=
  ofDefinition_alike (Definition.read_alike_of_rearranged ⟨reordered, distinct⟩ pools)

namespace Batch

theorem readDefinitions_alike {definitions others : List Value}
    (each : List.Forall₂ Value.Reordered definitions others)
    (distinct : ∀ definition ∈ definitions, definition.DistinctKeys) :
    Alike (fun _ _ => True) (List.Forall₂ Image.Reordered)
      (readDefinitions pools definitions) (readDefinitions pools others) := by
  induction each with
  | nil => exact .ok .nil
  | cons first _ ih =>
    obtain ⟨keys, later⟩ := List.forall_mem_cons.1 distinct
    have read := (Image.ofDefinition_alike_of_reordered first keys pools).mono
      (fun _ _ _ => trivial) fun _ _ related => related
    refine read.bind fun image image' _ _ related => ?_
    refine (ih later).bind fun images images' _ _ relatedLater => ?_
    exact .ok (.cons related relatedLater)

theorem readImages_alike {text text' : String} {v v' : Value} (parsed : Value.parse text = .ok v)
    (parsed' : Value.parse text' = .ok v') (reordered : Value.Reordered v v') :
    Alike (fun _ _ => True) (List.Forall₂ Image.Reordered)
      (readImages pools text) (readImages pools text') := by
  have distinct := (Value.of_ofText (Value.parse_eq_ok_iff.1 parsed)).1
  unfold readImages
  rw [parsed, parsed']
  cases reordered with
  | @array definitions others each =>
    have read : Alike (fun _ _ => True) (List.Forall₂ Image.Reordered)
        (readDefinitions pools definitions) (readDefinitions pools others) :=
      readDefinitions_alike each (Value.distinctKeys_array_iff.1 distinct)
    simp only [bind, Except.bind, Value.elements]
    generalize readDefinitions pools definitions = x, readDefinitions pools others = y at read
    cases read with
    | error _ => exact .error trivial
    | ok related => exact .ok related
  | null | boolean | number | string | object => exact .error trivial

theorem profiles_of_reordered {images images' : List Image}
    (h : List.Forall₂ Image.Reordered images images') :
    images.map Image.profile = images'.map Image.profile := by
  induction h with
  | nil => rfl
  | cons first _ ih => rw [List.map_cons, List.map_cons, first.profile, ih]

theorem loadText_alike {text text' : String}
    (h : Alike (fun _ _ => True) (List.Forall₂ Image.Reordered)
      (readImages pools text) (readImages pools text')) :
    Alike Eq (List.Forall₂ Image.Reordered)
      (loadText pools text).result (loadText pools text').result := by
  unfold loadText
  generalize readImages pools text = x, readImages pools text' = y at h
  cases h with
  | error _ => exact .error rfl
  | ok related =>
    -- the same profiles stand in both lists, so the same of them are repeated
    simp only [repeats_eq_recurring, profiles_of_reordered related]
    split
    · exact .ok related
    · exact .error rfl

/-- A text that can be parsed is not empty. -/
theorem provided_of_parse {properties : Properties} {text : String} {v : Value}
    (given : properties.lookup imagesKey = some text) (parsed : Value.parse text = .ok v) :
    Provided properties text := by
  refine ⟨given, ?_⟩
  rintro rfl
  have unread : (Value.parse "").toOption.isSome = false := by decide +kernel
  exact absurd unread (by rw [parsed]; simp [Except.toOption])

/-- Definitions whose keys are distinct, as they are in every document, and that are the same but
for the order of members are both accepted, with images that are the same but for that order in
their containers, or both rejected, and for the same cause: only of the reserved ones among their
labels each may name another. Texts for the images that are the same but for the order of members
are loaded with the same failures, or with images that are the same one by one, but for that
order. -/
theorem ofDefinition_and_load_of_reordered :
    (∀ {definition other : Value}, Value.Reordered definition other → definition.DistinctKeys →
      ∀ pools, Alike
        (fun error error' => Definition.SameCause definition other error.cause error'.cause)
        Image.Reordered (Image.ofDefinition definition pools) (Image.ofDefinition other pools)) ∧
    ∀ {properties others : Properties} {text text' : String} {v v' : Value},
      properties.lookup imagesKey = some text → others.lookup imagesKey = some text' →
      Value.parse text = .ok v → Value.parse text' = .ok v' → Value.Reordered v v' →
      properties.lookup poolsKey = others.lookup poolsKey →
      Alike Eq (List.Forall₂ Image.Reordered) (load properties).result (load others).result := by
  refine ⟨Image.ofDefinition_alike_of_reordered, ?_⟩
  intro properties others text text' v v' given given' parsed parsed' reordered same
  have pools : pools? properties = pools? others := by rw [pools?, pools?, same]
  rw [load_of_provided (provided_of_parse given parsed),
    load_of_provided (provided_of_parse given' parsed'), pools]
  exact loadText_alike (readImages_alike parsed parsed' reordered)

/-- A definition with labels of the given keys. -/
def labelled (keys : List String) : Value :=
  .object [
    ("Administration", .object [("Version", .ofInt64 1)]),
    ("Container", .object [("Labels", .object (keys.map fun key => (key, .null)))])]

theorem reordered_labelled {keys keys' : List String} (order : keys.Perm keys') :
    Value.Reordered (labelled keys) (labelled keys') := by
  have labels := Value.Reordered.of_perm (order.map fun key => (key, Value.null))
  have container : Value.Reordered
      (.object [("Labels", .object (keys.map fun key => (key, .null)))])
      (.object [("Labels", .object (keys'.map fun key => (key, .null)))]) :=
    .object (.cons (.mk labels) .nil) (.refl _)
  exact .object (.cons (.mk (.refl _)) (.cons (.mk container) .nil)) (.refl _)

/-- A draft with labels. -/
def owned : Draft where
  env := ["A=1", "B=2"]
  labels := LabelMap.ofList [("owner", "a"), ("team", "b")]

/-- The container of that draft, with the members of each object the other way round. -/
def turnedContainer : Value :=
  .object [
    ("Labels", .object [("team", .string "b"), ("owner", .string "a")]),
    ("Env", .array [.string "A=1", .string "B=2"]),
    ("Image", .string "jetbrains/teamcity-agent")]

/-- The definition of that draft, with the members of each object the other way round. -/
def turned : Value :=
  .object [
    ("Container", turnedContainer),
    ("Administration", .object [
      ("MaxInstanceCount", .ofInt64 2),
      ("UseOfficialTCAgentImage", .boolean false),
      ("RmOnExit", .boolean true),
      ("Profile", .string "agent1"),
      ("Version", .ofInt64 1)])]

theorem reordered_turned : Value.Reordered owned.toValue turned := by
  have administration := Value.Reordered.of_perm (List.reverse_perm [
    ("Version", .ofInt64 1), ("Profile", .string "agent1"), ("RmOnExit", .boolean true),
    ("UseOfficialTCAgentImage", .boolean false), ("MaxInstanceCount", .ofInt64 2)]).symm
  have labels := Value.Reordered.of_perm (List.reverse_perm [
    ("owner", .string "a"), ("team", .string "b")]).symm
  have container : Value.Reordered owned.container turnedContainer :=
    .object (.cons (.mk (.refl _)) (.cons (.mk (.refl _)) (.cons (.mk labels) .nil)))
      (List.reverse_perm _).symm
  exact .object (.cons (.mk administration) (.cons (.mk container) .nil)) (List.reverse_perm _).symm

theorem writable_turned : turned.Writable 3 := by
  simp [turned, turnedContainer, Value.Writable.object_iff, Value.Writable.array_iff,
    Value.Writable.ofInt64, Value.Writable.string, Value.Writable.boolean, Members.Distinct,
    Members.names]

theorem acceptable_owned : owned.Acceptable where
  version := rfl
  profile := by decide
  maxInstances := ⟨2, rfl, by decide, by decide⟩
  env := by
    simp only [← Reserved.begins_iff]
    decide
  labels := by
    simp only [← Reserved.begins_iff]
    decide

/-- Of two reserved labels the first one is named, and it is another one in the other order. The
draft is loaded in either order. -/
theorem ofDefinition_and_load_of_reordered_turned :
    (∃ error error',
      Image.ofDefinition (labelled ["teamcity.docker.a", "teamcity.docker.b"]) none
        = .error error ∧
      Image.ofDefinition (labelled ["teamcity.docker.b", "teamcity.docker.a"]) none
        = .error error' ∧
      error.cause ≠ error'.cause ∧
      Definition.SameCause (labelled ["teamcity.docker.a", "teamcity.docker.b"])
        (labelled ["teamcity.docker.b", "teamcity.docker.a"]) error.cause error'.cause) ∧
    ∃ image, (load (properties (some (Value.array [turned]).render) none)).result = .ok [image] ∧
      owned.toImage.Reordered image := by
  refine ⟨⟨⟨_, .reservedLabel "teamcity.docker.a"⟩, ⟨_, .reservedLabel "teamcity.docker.b"⟩,
    rfl, rfl, by simp, ?_⟩, ?_⟩
  · have distinct : (labelled ["teamcity.docker.a", "teamcity.docker.b"]).DistinctKeys := by
      simp [labelled, Value.DistinctKeys, Value.DistinctKeysInMembers, Value.ofInt64,
        Members.Distinct, Members.names]
    have swapped := reordered_labelled
      (List.Perm.swap "teamcity.docker.b" "teamcity.docker.a" [])
    cases ofDefinition_and_load_of_reordered.1 swapped distinct none with
    | error same => exact same
  · have writable : (Value.array [turned]).Writable 4 := by
      rw [Value.Writable.array_iff, List.forall_mem_singleton]
      exact writable_turned
    have loaded : (load (properties (some (Draft.renderAll [owned])) none)).result
        = .ok [owned.toImage] := by
      have acceptable : ∀ draft ∈ [owned], draft.Acceptable :=
        List.forall_mem_singleton.2 acceptable_owned
      exact reload_of_acceptable acceptable
    have same (text text' : String) : (properties (some text) none).lookup poolsKey
        = (properties (some text') none).lookup poolsKey := by
      rw [lookup_poolsKey, lookup_poolsKey]
    have alike := ofDefinition_and_load_of_reordered.2 (lookup_imagesKey _) (lookup_imagesKey _)
      (Draft.parse_renderAll [owned]) (Value.parse_render (writable.mono (by decide)))
      (.array (.cons reordered_turned .nil)) (same _ _)
    rw [loaded] at alike
    generalize (load (properties (some (Value.array [turned]).render) none)).result = outcome
      at alike ⊢
    cases alike with
    | ok related =>
      cases related with
      | cons related none =>
        cases none
        exact ⟨_, rfl, related⟩

end Batch

end CloudImages
