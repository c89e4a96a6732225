import CloudImages.Proofs.Definition.Rules
import CloudImages.Proofs.Json.Readings
import CloudImages.Proofs.Pool.Resolution

set_option autoImplicit false

/-! # What is read from a definition

The conditions on a definition in no particular order, told by the document alone: what has to be
found in it, and what that reads as (`Reading.Of`). A definition is accepted exactly when all of
them hold, and its image carries what was read, nothing else (`Image.ofDefinition_iff_reading`). -/

namespace CloudImages

open Json Definition

/-! ## Rules by the document alone -/

namespace Definition

theorem freeEntry_iff {v : Value} :
    FreeEntry v ↔ ∃ text, v.HasText text ∧ ¬ ∃ rest, text = "DOCKER_CLOUD_" ++ rest := by
  refine exists_congr fun text => and_congr ?_ (not_congr Reserved.begins_iff)
  rw [Value.asA_eq_ok_iff, Coercion.text_read?_eq_some_iff]

theorem freeEnv_iff {container : Value} :
    FreeEnv container ↔ container.Lacks "Env" ∨
      ∃ entries, container.Has "Env" (.array entries) ∧
        ∀ v ∈ entries, ∃ text, v.HasText text ∧ ¬ ∃ rest, text = "DOCKER_CLOUD_" ++ rest := by
  refine or_congr Value.field?_eq_none_iff (exists_congr fun entries => ?_)
  exact and_congr Value.field?_eq_some_iff (forall₂_congr fun _ _ => freeEntry_iff)

theorem freeLabels_iff {container : Value} :
    FreeLabels container ↔ container.Lacks "Labels" ∨
      ∃ labels, container.Has "Labels" (.object labels) ∧
        ∀ key ∈ Members.names labels, ¬ ∃ rest, key = "teamcity.docker." ++ rest := by
  refine or_congr Value.field?_eq_none_iff (exists_congr fun labels => ?_)
  exact and_congr Value.field?_eq_some_iff (forall₂_congr fun _ _ => not_congr Reserved.begins_iff)

/-- A count that is left out is none that an image may have. -/
theorem getOr_count_iff {administration : Value} {count : Int64} (positive : 1 ≤ count.toInt) :
    administration.getOr .integer "MaxInstanceCount" unsetCount = .ok count ↔
      ∃ v, administration.Has "MaxInstanceCount" v ∧ v.ReadsInteger count := by
  refine Value.getOr_integer_eq_ok_iff.trans (or_iff_right ?_)
  rintro ⟨-, rfl⟩
  exact absurd positive (by decide)

end Definition

/-! ## Readings -/

/-- What is read from a definition. -/
structure Reading where
  administration : Members Value
  container : Members Value
  profile : String
  removeOnExit : Bool
  officialImage : Bool
  count : Int64

namespace Reading

/-- A definition reads in the given way, and breaks no rule. -/
structure Of (reading : Reading) (definition : Value) : Prop where
  administration : definition.Has "Administration" (.object reading.administration)
  container : definition.Has "Container" (.object reading.container)
  version : ∃ v, (Value.object reading.administration).Has "Version" v ∧ v.ReadsInteger 1
  env : (Value.object reading.container).Lacks "Env" ∨
    ∃ entries, (Value.object reading.container).Has "Env" (.array entries) ∧
      ∀ v ∈ entries, ∃ text, v.HasText text ∧ ¬ ∃ rest, text = "DOCKER_CLOUD_" ++ rest
  labels : (Value.object reading.container).Lacks "Labels" ∨
    ∃ labels, (Value.object reading.container).Has "Labels" (.object labels) ∧
      ∀ key ∈ Members.names labels, ¬ ∃ rest, key = "teamcity.docker." ++ rest
  profile : ∃ v, (Value.object reading.administration).Has "Profile" v ∧ v.HasText reading.profile
  removeOnExit : ∃ v, (Value.object reading.administration).Has "RmOnExit" v ∧
    v.ReadsBoolean reading.removeOnExit
  officialImage : ∃ v, (Value.object reading.administration).Has "UseOfficialTCAgentImage" v ∧
    v.ReadsBoolean reading.officialImage
  count : ∃ v, (Value.object reading.administration).Has "MaxInstanceCount" v ∧
    v.ReadsInteger reading.count
  named : reading.profile ≠ ""
  positive : 1 ≤ reading.count.toInt
  within : reading.count.toInt ≤ 4294967295

/-- An image carries what was read, and the pool of the first assignment for its profile. -/
structure Carried (reading : Reading) (pools : Option (List PoolAssignment)) (image : Image) :
    Prop where
  profile : image.profile = reading.profile
  container : image.container = .object reading.container
  removeOnExit : image.removeOnExit = reading.removeOnExit
  officialImage : image.officialImage = reading.officialImage
  maxInstances : (image.maxInstances.toNat : Int) = reading.count.toInt
  pool : PoolAssignment.FirstPool reading.profile pools image.pool

/-- The image that carries a reading. -/
def toImage (reading : Reading) (pools : Option (List PoolAssignment)) : Image where
  profile := reading.profile
  container := .object reading.container
  removeOnExit := reading.removeOnExit
  officialImage := reading.officialImage
  maxInstances := UInt32.ofNat reading.count.toInt.toNat
  pool := PoolAssignment.resolve reading.profile pools

variable {reading : Reading} {definition : Value} {pools : Option (List PoolAssignment)}
  {image : Image}

theorem Of.carried_toImage (h : reading.Of definition) :
    reading.Carried pools (reading.toImage pools) where
  profile := rfl
  container := rfl
  removeOnExit := rfl
  officialImage := rfl
  maxInstances := Image.toNat_ofNat_of_within h.positive h.within
  pool := PoolAssignment.firstPool_resolve reading.profile pools

theorem exists_reading_of_accepted {administration : Value} {count : Int64}
    (h : Accepted definition administration count pools image) :
    ∃ reading : Reading, reading.Of definition ∧ reading.Carried pools image := by
  obtain ⟨members, rfl, part⟩ := Value.get_object_eq_ok_iff.1 h.administration_eq
  obtain ⟨described, same, container⟩ := Value.get_object_eq_ok_iff.1 h.container
  have env := h.env
  have labels := h.labels
  rw [same] at container env labels
  let reading : Reading :=
    ⟨members, described, image.profile, image.removeOnExit, image.officialImage, count⟩
  refine ⟨reading, ?_, ?_⟩
  · exact {
      administration := part
      container
      version := Value.get_integer_eq_ok_iff.1 h.version
      env := freeEnv_iff.1 env
      labels := freeLabels_iff.1 labels
      profile := Value.get_text_eq_ok_iff.1 h.profile
      removeOnExit := Value.get_boolean_eq_ok_iff.1 h.removeOnExit
      officialImage := Value.get_boolean_eq_ok_iff.1 h.officialImage
      count := (getOr_count_iff h.positive).1 h.count_eq
      named := h.named
      positive := h.positive
      within := h.within }
  · exact {
      profile := rfl
      container := same
      removeOnExit := rfl
      officialImage := rfl
      maxInstances := h.maxInstances ▸ Image.toNat_ofNat_of_within h.positive h.within
      pool := PoolAssignment.firstPool_iff.2 h.pool }

theorem Of.accepted (h : reading.Of definition) (carried : reading.Carried pools image) :
    Accepted definition (.object reading.administration) reading.count pools image where
  administration_eq := Value.get_object_eq_ok_iff.2 ⟨_, rfl, h.administration⟩
  version := Value.get_integer_eq_ok_iff.2 h.version
  container := Value.get_object_eq_ok_iff.2 ⟨_, carried.container, carried.container ▸ h.container⟩
  env := freeEnv_iff.2 (carried.container ▸ h.env)
  labels := freeLabels_iff.2 (carried.container ▸ h.labels)
  profile := Value.get_text_eq_ok_iff.2 (carried.profile ▸ h.profile)
  removeOnExit := Value.get_boolean_eq_ok_iff.2 (carried.removeOnExit ▸ h.removeOnExit)
  officialImage := Value.get_boolean_eq_ok_iff.2 (carried.officialImage ▸ h.officialImage)
  count_eq := (getOr_count_iff h.positive).2 h.count
  named := carried.profile ▸ h.named
  positive := h.positive
  within := h.within
  maxInstances := by
    refine UInt32.toNat_inj.1 (Int.ofNat_inj.1 ?_)
    exact carried.maxInstances.trans (Image.toNat_ofNat_of_within h.positive h.within).symm
  pool := carried.profile ▸ carried.pool.eq_resolve

end Reading

/-- A definition is accepted exactly when it reads without breaking a rule, and the image is the one
that carries the reading. -/
theorem Image.ofDefinition_iff_reading (definition : Value) (pools : Option (List PoolAssignment)) :
    ((∃ image, Image.ofDefinition definition pools = .ok image) ↔
      ∃ reading : Reading, reading.Of definition) ∧
    ∀ image, Image.ofDefinition definition pools = .ok image ↔
      ∃ reading : Reading, reading.Of definition ∧ reading.Carried pools image := by
  have each : ∀ image, Image.ofDefinition definition pools = .ok image ↔
      ∃ reading : Reading, reading.Of definition ∧ reading.Carried pools image := by
    intro image
    rw [Image.ofDefinition_eq_ok_iff, read_eq_ok_iff]
    constructor
    · rintro ⟨administration, count, accepted⟩
      exact Reading.exists_reading_of_accepted accepted
    · rintro ⟨reading, reads, carried⟩
      exact ⟨_, _, reads.accepted carried⟩
  refine ⟨⟨?_, ?_⟩, each⟩
  · rintro ⟨image, accepted⟩
    obtain ⟨reading, reads, -⟩ := (each image).1 accepted
    exact ⟨reading, reads⟩
  · rintro ⟨reading, reads⟩
    exact ⟨reading.toImage pools, (each _).2 ⟨reading, reads, reads.carried_toImage⟩⟩

end CloudImages
