import CloudImages.Json.Writer

set_option autoImplicit false

/-! # Agent pools

The server keeps agents in pools, and may say beside the images which pool the agents of a profile
go to. -/

namespace CloudImages

/-- The pool of a profile, `none` for no pool. -/
structure PoolAssignment where
  profile : String
  pool : Option Int64
deriving DecidableEq, Repr

namespace PoolAssignment

/-- The pool of a profile: that of the first assignment for it, even if that one has no pool. Where
there are no assignments at all there is no pool. -/
def resolve (profile : String) (assignments? : Option (List PoolAssignment)) : Option Int64 :=
  assignments?.bind fun assignments => (assignments.find? fun a => a.profile = profile).bind pool

/-! ## Writing -/

/-- The key of the profile's name. -/
def profileKey : String :=
  "id"

/-- The key of the pool. -/
def poolKey : String :=
  "agentPoolId"

/-- The JSON of an assignment. -/
def toValue (a : PoolAssignment) : Json.Value :=
  .object [(profileKey, .string a.profile), (poolKey, .ofInt64? a.pool)]

/-- The text of a list of assignments. -/
def render (assignments : List PoolAssignment) : String :=
  (Json.Value.array (assignments.map toValue)).render

end PoolAssignment

end CloudImages
