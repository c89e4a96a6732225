set_option autoImplicit false

/-! # Reserved names

Agent containers carry environment variables and labels with which the cloud keeps track of them.
The names of these begin in a way that is not free for the user's own names. -/

namespace CloudImages.Reserved

/-- How reserved environment entries begin. -/
def envStart : String :=
  "DOCKER_CLOUD_"

/-- How reserved label keys begin. -/
def labelStart : String :=
  "teamcity.docker."

/-- Whether a text begins with another. -/
def begins (start text : String) : Bool :=
  start.toList.isPrefixOf text.toList

/-- Whether an environment entry, `NAME=VALUE`, is reserved. -/
def isEnv (entry : String) : Bool :=
  begins envStart entry

/-- Whether a label key is reserved. -/
def isLabel (key : String) : Bool :=
  begins labelStart key

theorem begins_iff {start text : String} : begins start text ↔ ∃ rest, text = start ++ rest := by
  rw [begins, List.isPrefixOf_iff_prefix]
  constructor
  · rintro ⟨rest, same⟩
    refine ⟨String.ofList rest, ?_⟩
    rw [← String.toList_inj, String.toList_append, String.toList_ofList, same]
  · rintro ⟨rest, rfl⟩
    exact ⟨rest.toList, by rw [String.toList_append]⟩

end CloudImages.Reserved
