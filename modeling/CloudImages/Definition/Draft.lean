import CloudImages.Batch

set_option autoImplicit false

/-! # Drafts of definitions

A draft holds the parts of an image definition that can be set, and writes itself as one. A part
that is not set takes a value with which the definition is accepted. -/

namespace CloudImages

open Json

/-- Labels under distinct keys, in order. -/
abbrev LabelMap := { labels : Members String // labels.Distinct }

/-- The labels left when pairs of key and value are put one after the other. -/
def LabelMap.ofList (pairs : List (String × String)) : LabelMap :=
  ⟨Members.ofList pairs, Members.ofList_distinct pairs⟩

/-- A definition that is being put together. -/
structure Draft where
  profile : String := "agent1"
  image : String := "jetbrains/teamcity-agent"
  version : Int64 := Definition.supportedVersion
  removeOnExit : Bool := true
  officialImage : Bool := false
  /-- The count of instances; a definition may lack it. -/
  maxInstances : Option Int64 := some 2
  env : List String := []
  labels : LabelMap := LabelMap.ofList []

namespace Draft

/-- The `Administration` part; a missing count is left out. -/
def administration (draft : Draft) : Value :=
  .object <| [
    ("Version", .ofInt64 draft.version),
    ("Profile", .string draft.profile),
    ("RmOnExit", .boolean draft.removeOnExit),
    ("UseOfficialTCAgentImage", .boolean draft.officialImage)] ++
    match draft.maxInstances with
    | none => []
    | some count => [("MaxInstanceCount", .ofInt64 count)]

/-- The `Container` part; an empty environment and empty labels are left out. -/
def container (draft : Draft) : Value :=
  .object <| [("Image", .string draft.image)] ++
    (if draft.env = [] then [] else [("Env", .array (draft.env.map .string))]) ++
    if draft.labels.val = [] then []
    else [("Labels", .object (draft.labels.val.map fun (key, value) => (key, .string value)))]

/-- The definition that a draft stands for. -/
def toValue (draft : Draft) : Value :=
  .object [("Administration", draft.administration), ("Container", draft.container)]

/-- The text of a list of definitions. -/
def renderAll (drafts : List Draft) : String :=
  (Value.array (drafts.map toValue)).render

end Draft

/-- Properties that hold the given definitions and pools. -/
def Batch.properties (images pools : Option String) : Batch.Properties :=
  (images.map fun text => (Batch.imagesKey, text)).toList ++
    (pools.map fun text => (Batch.poolsKey, text)).toList

end CloudImages
