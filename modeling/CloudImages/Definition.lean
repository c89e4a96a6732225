import CloudImages.Image
import CloudImages.Pool
import CloudImages.Reserved

set_option autoImplicit false

/-! # Image definitions

A definition is an object with two parts. `Administration` says what the profile is called, how its
containers are kept and how many there may be; `Container` describes the container. Of the container
only the environment entries and the labels are looked at, to keep the user's names apart from the
reserved ones; all of it is passed on as it is.

The rules are checked in a fixed order, and the first one that is broken rejects the definition:
version, environment, labels, then the other members of `Administration`, then what `Image.create`
asks for. -/

namespace CloudImages

open Json

/-- A failed read breaks the definition. -/
instance : MonadLift (Except AccessError) (Except DefinitionError) where
  monadLift
    | .ok a => .ok a
    | .error error => .error (.access error)

namespace Definition

/-- The only version of a definition that is understood. -/
def supportedVersion : Int64 :=
  1

/-- The count of instances of a definition that gives none; no image may have it. -/
def unsetCount : Int64 :=
  -1

/-- The version has to be the supported one. -/
def checkVersion (administration : Value) : Except DefinitionError Unit := do
  let version ← administration.get .integer "Version"
  if version = supportedVersion then return () else .error (.unsupportedVersion version)

/-- An environment entry has to have a text, and one that is not reserved. -/
def checkEnvEntry (v : Value) : Except DefinitionError Unit := do
  let entry ← v.asA .text
  if Reserved.isEnv entry then .error (.reservedEnv entry) else return ()

/-- No entry of the environment may be reserved. -/
def checkEnv (container : Value) : Except DefinitionError Unit := do
  let env ← container.getOr .array "Env" Value.emptyArray
  let entries ← env.elements
  entries.forM checkEnvEntry

/-- No label may be reserved. -/
def checkLabels (container : Value) : Except DefinitionError Unit := do
  let labels ← container.getOr .object "Labels" Value.emptyObject
  let keys ← labels.keys
  match keys.find? Reserved.isLabel with
  | some key => .error (.reservedLabel key)
  | none => return ()

/-- The image that a definition describes. -/
def read (definition : Value) (pools : Option (List PoolAssignment)) :
    Except DefinitionError Image := do
  let administration ← definition.get .object "Administration"
  checkVersion administration
  let container ← definition.get .object "Container"
  checkEnv container
  checkLabels container
  let profile ← administration.get .text "Profile"
  let removeOnExit ← administration.get .boolean "RmOnExit"
  let officialImage ← administration.get .boolean "UseOfficialTCAgentImage"
  let count ← administration.getOr .integer "MaxInstanceCount" unsetCount
  Image.create profile container removeOnExit officialImage count
    (PoolAssignment.resolve profile pools)

end Definition

/-- The image that a definition describes, with the pool that is assigned to its profile; a
definition that is rejected goes into the error as its text. -/
def Image.ofDefinition (definition : Value) (pools : Option (List PoolAssignment)) :
    Except ImageError Image :=
  match Definition.read definition pools with
  | .ok image => .ok image
  | .error cause => .error { definition := definition.render, cause }

end CloudImages
