import CloudImages.Definition.Draft
import CloudImages.Proofs.Definition.Rules
import CloudImages.Proofs.Json.RoundTrip

set_option autoImplicit false

/-! # Drafts as definitions

A draft is read back member by member, so the rules of a definition turn into conditions on the
draft itself (`Acceptable`), and the image that is read from it can be told from the draft
(`ofDefinition_of_acceptable`). -/

namespace CloudImages.Draft

open Json Value Definition

variable {draft : Draft}

/-- The rules of a definition, as conditions on a draft. -/
structure Acceptable (draft : Draft) : Prop where
  version : draft.version = 1
  profile : draft.profile ≠ ""
  maxInstances : ∃ count, draft.maxInstances = some count ∧
    1 ≤ count.toInt ∧ count.toInt ≤ 4294967295
  env : ∀ entry ∈ draft.env, ¬ ∃ rest, entry = Reserved.envStart ++ rest
  labels : ∀ key ∈ Members.names draft.labels.val, ¬ ∃ rest, key = Reserved.labelStart ++ rest

/-- Whatever is not set in a draft is acceptable. -/
theorem acceptable_defaults {profile image : String} (named : profile ≠ "") :
    ({ profile, image } : Draft).Acceptable where
  version := rfl
  profile := named
  maxInstances := ⟨2, rfl, by decide, by decide⟩
  env := by simp
  labels := by simp [LabelMap.ofList, Members.ofList, Members.names]

/-- An image takes over what a draft says of it, and has no pool. -/
structure Carries (draft : Draft) (image : Image) : Prop where
  profile : image.profile = draft.profile
  container : draft.toValue.get .object "Container" = .ok image.container
  removeOnExit : image.removeOnExit = draft.removeOnExit
  officialImage : image.officialImage = draft.officialImage
  maxInstances : ∃ count, draft.maxInstances = some count ∧
    (image.maxInstances.toNat : Int) = count.toInt
  pool : image.pool = none

/-- The image of an acceptable draft. -/
def toImage (draft : Draft) : Image where
  profile := draft.profile
  container := draft.container
  removeOnExit := draft.removeOnExit
  officialImage := draft.officialImage
  maxInstances := UInt32.ofNat (draft.maxInstances.getD unsetCount).toInt.toNat
  pool := none

/-! ## The parts of a draft -/

theorem get_administration (draft : Draft) :
    draft.toValue.get .object "Administration" = .ok draft.administration :=
  get_eq_ok_iff.2 ⟨draft.administration, rfl, rfl⟩

theorem get_container (draft : Draft) :
    draft.toValue.get .object "Container" = .ok draft.container :=
  get_eq_ok_iff.2 ⟨draft.container, rfl, rfl⟩

theorem get_version (draft : Draft) :
    draft.administration.get .integer "Version" = .ok draft.version :=
  get_eq_ok_iff.2 ⟨.ofInt64 draft.version, rfl, Text.int64?_toInt _⟩

theorem get_profile (draft : Draft) :
    draft.administration.get .text "Profile" = .ok draft.profile :=
  get_eq_ok_iff.2 ⟨.string draft.profile, rfl, rfl⟩

theorem get_removeOnExit (draft : Draft) :
    draft.administration.get .boolean "RmOnExit" = .ok draft.removeOnExit :=
  get_eq_ok_iff.2 ⟨.boolean draft.removeOnExit, rfl, rfl⟩

theorem get_officialImage (draft : Draft) :
    draft.administration.get .boolean "UseOfficialTCAgentImage" = .ok draft.officialImage :=
  get_eq_ok_iff.2 ⟨.boolean draft.officialImage, rfl, rfl⟩

theorem getOr_maxInstances (draft : Draft) :
    draft.administration.getOr .integer "MaxInstanceCount" unsetCount
      = .ok (draft.maxInstances.getD unsetCount) := by
  unfold administration
  cases draft.maxInstances with
  | none => exact getOr_of_field?_none rfl
  | some count => exact getOr_eq_ok_iff.2 (Or.inr ⟨.ofInt64 count, rfl, Text.int64?_toInt _⟩)

theorem field?_env (draft : Draft) : draft.container.field? "Env"
    = .ok (if draft.env = [] then none else some (.array (draft.env.map .string))) := by
  unfold container
  split
  · split <;> rfl
  · rfl

theorem field?_labels (draft : Draft) : draft.container.field? "Labels"
    = .ok (if draft.labels.val = [] then none
        else some (.object (draft.labels.val.map fun (key, value) => (key, .string value)))) := by
  unfold container
  split <;> split <;> rfl

/-! ## Reserved names in a draft -/

theorem freeEntry_string_iff {entry : String} :
    FreeEntry (.string entry) ↔ ¬ ∃ rest, entry = Reserved.envStart ++ rest := by
  rw [← Reserved.begins_iff]
  constructor
  · intro h
    obtain ⟨text, read, free⟩ := h
    obtain rfl : entry = text := Option.some.inj (asA_eq_ok_iff.1 read)
    exact free
  · exact fun free => ⟨entry, asA_eq_ok_iff.2 rfl, free⟩

theorem freeEnv_container_iff : FreeEnv draft.container ↔
    ∀ entry ∈ draft.env, ¬ ∃ rest, entry = Reserved.envStart ++ rest := by
  rw [FreeEnv, field?_env]
  split
  · next none => simp [none]
  · simp [freeEntry_string_iff]

/-- Labels keep their keys when they are written. -/
theorem names_labels (labels : Members String) :
    Members.names (labels.map fun (key, value) => (key, Value.string value))
      = Members.names labels := by
  rw [Members.names, List.map_map]
  rfl

theorem freeLabels_container_iff : FreeLabels draft.container ↔
    ∀ key ∈ Members.names draft.labels.val, ¬ ∃ rest, key = Reserved.labelStart ++ rest := by
  simp only [← Reserved.begins_iff]
  rw [FreeLabels, field?_labels]
  split
  · next none => simp [none, Members.names]
  · simp only [Except.ok.injEq, reduceCtorEq, false_or, Option.some.injEq, object.injEq,
      exists_eq_left', names_labels]
    rfl

/-! ## Reading a draft back -/

theorem acceptable_of_accepted {administration : Value} {count : Int64} {image : Image}
    (h : Accepted draft.toValue administration count none image) : draft.Acceptable := by
  have part := Except.ok.inj (h.administration_eq.symm.trans draft.get_administration)
  have container := Except.ok.inj (h.container.symm.trans draft.get_container)
  obtain ⟨-, version, -, env, labels, profile, -, -, count_eq, named, positive, within, -, -⟩ := h
  rw [part, get_version] at version
  rw [part, get_profile] at profile
  rw [part, getOr_maxInstances] at count_eq
  rw [container] at env labels
  refine {
    version := Except.ok.inj version
    profile := (Except.ok.inj profile) ▸ named
    maxInstances := ?_
    env := freeEnv_container_iff.1 env
    labels := freeLabels_container_iff.1 labels }
  cases given : draft.maxInstances with
  | none =>
    -- a count that is left out reads as one that no image may have
    rw [given, Option.getD_none, Except.ok.injEq] at count_eq
    rw [← count_eq] at positive
    exact absurd positive (by decide)
  | some count' =>
    rw [given, Option.getD_some, Except.ok.injEq] at count_eq
    exact ⟨count', rfl, count_eq ▸ positive, count_eq ▸ within⟩

theorem Acceptable.accepted (h : draft.Acceptable) : Accepted draft.toValue draft.administration
    (draft.maxInstances.getD unsetCount) none draft.toImage := by
  obtain ⟨version, named, ⟨count, given, positive, within⟩, env, labels⟩ := h
  exact {
    administration_eq := draft.get_administration
    version := by rw [get_version, version]; rfl
    container := draft.get_container
    env := freeEnv_container_iff.2 env
    labels := freeLabels_container_iff.2 labels
    profile := draft.get_profile
    removeOnExit := draft.get_removeOnExit
    officialImage := draft.get_officialImage
    count_eq := draft.getOr_maxInstances
    named
    positive := by rw [given]; exact positive
    within := by rw [given]; exact within
    maxInstances := rfl
    pool := rfl }

theorem ofDefinition_of_acceptable (h : draft.Acceptable) :
    Image.ofDefinition draft.toValue none = .ok draft.toImage :=
  Image.ofDefinition_eq_ok_iff.2 (read_eq_ok_iff.2 ⟨_, _, h.accepted⟩)

theorem ofDefinition_of_not_acceptable (h : ¬ draft.Acceptable) :
    ∃ error, Image.ofDefinition draft.toValue none = .error error := by
  cases read : Image.ofDefinition draft.toValue none with
  | error error => exact ⟨error, rfl⟩
  | ok image =>
    obtain ⟨_, _, accepted⟩ := read_eq_ok_iff.1 (Image.ofDefinition_eq_ok_iff.1 read)
    exact absurd (acceptable_of_accepted accepted) h

theorem Acceptable.carries (h : draft.Acceptable) : draft.Carries draft.toImage where
  profile := rfl
  container := draft.get_container
  removeOnExit := rfl
  officialImage := rfl
  maxInstances := by
    obtain ⟨count, given, positive, within⟩ := h.maxInstances
    refine ⟨count, given, ?_⟩
    rw [toImage, given, Option.getD_some]
    exact Image.toNat_ofNat_of_within positive within
  pool := rfl

/-! ## Writing a draft -/

theorem writable_administration (draft : Draft) : draft.administration.Writable 1 := by
  unfold administration
  cases draft.maxInstances <;>
    simp [Writable.object_iff, Writable.ofInt64, Writable.string, Writable.boolean,
      Members.Distinct, Members.names]

theorem writable_env (env : List String) : (Value.array (env.map .string)).Writable 1 := by
  rw [Writable.array_iff]
  intro v there
  obtain ⟨entry, -, rfl⟩ := List.mem_map.1 there
  exact Writable.string entry

theorem writable_labels (labels : LabelMap) : (Value.object
    (labels.val.map fun (key, value) => (key, Value.string value))).Writable 1 := by
  refine Writable.object_iff.2 ⟨?_, ?_⟩
  · rw [Members.Distinct, names_labels]
    exact labels.property
  · intro m there
    obtain ⟨label, -, rfl⟩ := List.mem_map.1 there
    exact Writable.string label.2

theorem writable_container (draft : Draft) : draft.container.Writable 2 := by
  refine Writable.object_iff.2 ⟨?_, ?_⟩
  · split <;> split <;> simp [Members.Distinct, Members.names]
  · split <;> split <;> simp [Writable.string, writable_env, writable_labels]

theorem writable_toValue (draft : Draft) : draft.toValue.Writable 3 := by
  have administration : draft.administration.Writable 2 :=
    draft.writable_administration.mono (by decide)
  simp [toValue, Writable.object_iff, administration, writable_container, Members.Distinct,
    Members.names]

/-- The text of drafts is read as the array of their definitions. -/
theorem parse_renderAll (drafts : List Draft) :
    Value.parse (renderAll drafts) = .ok (.array (drafts.map toValue)) := by
  have each : (Value.array (drafts.map toValue)).Writable 4 := by
    rw [Writable.array_iff]
    intro v there
    obtain ⟨draft, -, rfl⟩ := List.mem_map.1 there
    exact draft.writable_toValue
  exact parse_render (each.mono (by decide))

end CloudImages.Draft
