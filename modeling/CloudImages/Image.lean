import CloudImages.Definition.Error

set_option autoImplicit false

/-! # Images

An image is a checked profile: what the agents of one name are started from, and how many of them
there may be. -/

namespace CloudImages

/-- A profile that agents are started from. -/
structure Image where
  profile : String
  /-- The container's own description, passed on as it is. -/
  container : Json.Value
  /-- Whether a container is discarded once it has stopped. -/
  removeOnExit : Bool
  /-- Whether the official agent image takes the place of the described one. -/
  officialImage : Bool
  maxInstances : UInt32
  pool : Option Int64

namespace Image

/-- The greatest count of instances. -/
def instanceLimit : Int :=
  0xFFFFFFFF

/-- Builds an image if its profile has a name and its count of instances is positive and not beyond
the limit. -/
def create (profile : String) (container : Json.Value) (removeOnExit officialImage : Bool)
    (count : Int64) (pool : Option Int64) : Except DefinitionError Image :=
  if profile = "" then .error .emptyProfile
  else if count.toInt < 1 then .error (.noInstance count)
  else if instanceLimit < count.toInt then .error (.tooManyInstances count)
  else .ok {
    profile, container, removeOnExit, officialImage, pool
    maxInstances := UInt32.ofNat count.toInt.toNat }

/-- Whether two images are the same, the order of members in their containers aside. -/
def same (a b : Image) : Bool :=
  a.profile == b.profile && a.container.same b.container && a.removeOnExit == b.removeOnExit &&
    a.officialImage == b.officialImage && a.maxInstances == b.maxInstances && a.pool == b.pool

/-! ## Writing -/

/-- The JSON of an image, its container in it as it is. -/
def toValue (image : Image) : Json.Value :=
  .object [
    ("profile_name", .string image.profile),
    ("container_spec", image.container),
    ("rm_on_exit", .boolean image.removeOnExit),
    ("use_official_agent_image", .boolean image.officialImage),
    ("max_instance_count", .number (.ofUInt32 image.maxInstances)),
    ("agent_pool_id", .ofInt64? image.pool)]

/-- The text of an image. -/
def render (image : Image) : String :=
  image.toValue.render

/-! ## What `create` lets through -/

theorem create_eq_ok_iff {profile : String} {container : Json.Value}
    {removeOnExit officialImage : Bool} {count : Int64} {pool : Option Int64} {image : Image} :
    create profile container removeOnExit officialImage count pool = .ok image ↔
      profile ≠ "" ∧ 1 ≤ count.toInt ∧ count.toInt ≤ instanceLimit ∧
        image = { profile, container, removeOnExit, officialImage, pool
                  maxInstances := UInt32.ofNat count.toInt.toNat } := by
  constructor
  · intro h
    unfold create at h
    split at h
    · exact absurd h (by simp)
    · next named =>
      split at h
      · exact absurd h (by simp)
      · next positive =>
        split at h
        · exact absurd h (by simp)
        · next within =>
          cases h
          exact ⟨named, by omega, by omega, rfl⟩
  · rintro ⟨named, positive, within, rfl⟩
    rw [create, if_neg named, if_neg (by omega), if_neg (by omega)]

/-- A count within the limits is kept as it is. -/
theorem toNat_ofNat_of_within {count : Int64} (positive : 1 ≤ count.toInt)
    (within : count.toInt ≤ instanceLimit) :
    ((UInt32.ofNat count.toInt.toNat).toNat : Int) = count.toInt := by
  simp only [instanceLimit] at within
  simp only [UInt32.toNat_ofNat']
  omega

end Image

end CloudImages
