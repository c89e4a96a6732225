import CloudImages.Proofs.Definition.Alike
import CloudImages.Proofs.Json.Reordered

set_option autoImplicit false

/-! # Definitions with their members in another order

A definition comes out alike whatever the order of its members
(`Definition.read_alike_of_rearranged`). There is one place where the order shows: of several
reserved labels it is the first one that a definition is rejected for (`Definition.SameCause`). -/

namespace CloudImages

open Json Value Outcome

/-- Two images are the same but for the order of the members in their containers. -/
structure Image.Reordered (a b : Image) : Prop extends SameButContainer a b where
  container : Value.Reordered a.container b.container

namespace Definition

variable {definition other container container' : Value}

/-- The container of a definition has labels, and these are their keys. -/
def LabelKeys (definition : Value) (keys : List String) : Prop :=
  ∃ container labels, definition.Has "Container" container ∧
    container.Has "Labels" (.object labels) ∧ Members.names labels = keys

/-- Two definitions are rejected for the same cause, or each for a reserved one among the keys of
the labels, which both have in common. -/
inductive SameCause (definition other : Value) : DefinitionError → DefinitionError → Prop where
  | same (cause : DefinitionError) : SameCause definition other cause cause
  | reservedLabel {keys keys' : List String} {key key' : String}
      (labels : LabelKeys definition keys) (labels' : LabelKeys other keys')
      (common : keys.Perm keys') (there : key ∈ keys) (there' : key' ∈ keys')
      (reserved : ∃ rest, key = "teamcity.docker." ++ rest)
      (reserved' : ∃ rest, key' = "teamcity.docker." ++ rest) :
      SameCause definition other (.reservedLabel key) (.reservedLabel key')

/-! ## Rules -/

theorem sameReadings_of_rearranged {administration administration' : Value}
    (h : Rearranged administration administration') :
    SameReadings administration administration' where
  version := h.get_eq Coercion.integer_ofScalars _
  profile := h.get_eq Coercion.text_ofScalars _
  removeOnExit := h.get_eq Coercion.boolean_ofScalars _
  officialImage := h.get_eq Coercion.boolean_ofScalars _
  count := h.getOr_eq Coercion.integer_ofScalars _ _

theorem checkEnvEntry_eq {v w : Value} (h : Value.Reordered v w) :
    checkEnvEntry v = checkEnvEntry w := by
  rw [checkEnvEntry, checkEnvEntry, h.asA_eq Coercion.text_ofScalars]

theorem forM_checkEnvEntry_eq {entries entries' : List Value}
    (each : List.Forall₂ Value.Reordered entries entries') :
    entries.forM checkEnvEntry = entries'.forM checkEnvEntry := by
  induction each with
  | nil => rfl
  | cons first _ ih =>
    change (checkEnvEntry _ >>= fun _ => List.forM _ checkEnvEntry)
      = (checkEnvEntry _ >>= fun _ => List.forM _ checkEnvEntry)
    rw [checkEnvEntry_eq first, ih]

theorem checkEnv_eq (h : Rearranged container container') :
    checkEnv container = checkEnv container' := by
  have read := getOr_alike Coercion.array_respects rearranged_emptyArray (h.field?_alike "Env")
  refine ((lift_alike (fun _ => rfl) read).bind fun env env' _ _ related => ?_).eq
  refine (lift_alike (fun _ => rfl) related.elements_alike).bind fun entries entries' _ _ each => ?_
  rw [forM_checkEnvEntry_eq each]
  exact .refl (fun _ => rfl) _

/-- Keys that are read from the labels of a container, if there are any, are its labels' keys. -/
theorem labelKeys_of_read {labels : Value} {keys : List String} {key : String}
    (found : definition.get .object "Container" = .ok container)
    (taken : container.getOr .object "Labels" emptyObject = .ok labels)
    (listed : labels.keys = .ok keys) (there : key ∈ keys) : LabelKeys definition keys := by
  obtain ⟨_, -, part⟩ := get_object_eq_ok_iff.1 found
  rcases (getOr_eq_ok_iff_reads Coercion.object_read?_eq_some_iff).1 taken with
    ⟨-, rfl⟩ | ⟨_, has, members, rfl, rfl⟩
  · cases listed
    exact absurd there List.not_mem_nil
  · cases listed
    exact ⟨container, members, part, has, rfl⟩

theorem checkLabels_alike (h : Containers Rearranged definition other container container') :
    Alike (SameCause definition other) Eq (checkLabels container) (checkLabels container') := by
  obtain ⟨found, found', rearranged⟩ := h
  have read := getOr_alike Coercion.object_respects rearranged_emptyObject
    (rearranged.field?_alike "Labels")
  refine (lift_alike .same read).bind fun labels labels' taken taken' related => ?_
  refine (lift_alike .same related.keys_alike).bind fun keys keys' listed listed' common => ?_
  rw [lift_eq_ok_iff] at taken taken' listed listed'
  -- a reserved key is found in both orders or in neither, but not always the same one
  cases first : keys.find? Reserved.isLabel with
  | none =>
    have none' : keys'.find? Reserved.isLabel = none :=
      List.find?_eq_none.2 fun key there => List.find?_eq_none.1 first key (common.mem_iff.2 there)
    rw [none']
    exact .ok rfl
  | some key =>
    have there := List.mem_of_find?_eq_some first
    have reserved : Reserved.isLabel key := List.find?_some first
    obtain ⟨key', first'⟩ : ∃ key', keys'.find? Reserved.isLabel = some key' :=
      Option.isSome_iff_exists.1 (List.find?_isSome.2 ⟨key, common.mem_iff.1 there, reserved⟩)
    have there' := List.mem_of_find?_eq_some first'
    rw [first']
    exact .error (.reservedLabel (labelKeys_of_read found taken listed there)
      (labelKeys_of_read found' taken' listed' there') common there there'
      (Reserved.begins_iff.1 reserved) (Reserved.begins_iff.1 (List.find?_some first')))

/-! ## The whole -/

theorem read_alike_of_rearranged (h : Rearranged definition other)
    (pools : Option (List PoolAssignment)) :
    Alike (SameCause definition other) Image.Reordered
      (read definition pools) (read other pools) := by
  have administrations := get_alike Coercion.object_respects (h.field?_alike "Administration")
  have containers := get_alike Coercion.object_respects (h.field?_alike "Container")
  have alike := read_alike .same
    (administrations.imp fun _ _ same => (sameReadings_of_rearranged same).alike .same)
    containers checkEnv_eq checkLabels_alike pools
  refine alike.imp ?_
  rintro image image' ⟨same, -, -, rearranged⟩
  exact ⟨same, rearranged.reordered⟩

end Definition

end CloudImages
