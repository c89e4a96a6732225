import CloudImages.Members

set_option autoImplicit false

/-! # JSON values

A document as a tree. Objects keep their members in order, and an integer is told apart from a
double: `1` and `1.0` are different numbers. Two sizes of a tree matter later: how deep it nests
(`Value.depth`) and whether every object in it has distinct keys (`Value.DistinctKeys`). -/

namespace CloudImages.Json

/-! ## Numbers -/

/-- The integers that a document keeps exactly: those of a word of 64 bits, signed or not. -/
abbrev Integer := { n : Int // -0x8000000000000000 ≤ n ∧ n < 0x10000000000000000 }

/-- A number of a document. -/
inductive Number where
  | integer (n : Integer)
  | double (x : Float)
deriving DecidableEq

/-- The integer `n` as a number of a document, if it can be kept exactly. -/
def Number.ofInt? (n : Int) : Option Number :=
  if h : -0x8000000000000000 ≤ n ∧ n < 0x10000000000000000 then some (.integer ⟨n, h⟩) else none

/-- A signed word as a number of a document. -/
def Number.ofInt64 (n : Int64) : Number :=
  .integer ⟨n.toInt, n.le_toInt, by have := n.toInt_lt; omega⟩

/-- An unsigned word of 32 bits as a number of a document. -/
def Number.ofUInt32 (n : UInt32) : Number :=
  .integer ⟨n.toNat, by omega, by have := n.toNat_lt; omega⟩

/-- Whether two numbers are the same for a reader: integers by value, doubles as doubles compare
(so `0.0` equals `-0.0`), and never an integer with a double. -/
def Number.same : Number → Number → Bool
  | .integer m, .integer n => m == n
  | .double x, .double y => x == y
  | _, _ => false

/-! ## Trees -/

/-- A JSON value. -/
inductive Value where
  | null
  | boolean (b : Bool)
  | number (n : Number)
  | string (s : String)
  | array (elements : List Value)
  | object (members : List (String × Value))

namespace Value

/-- A signed word as a value. -/
def ofInt64 (n : Int64) : Value :=
  .number (.ofInt64 n)

/-- A signed word that may be missing, as a value: null stands for none. -/
def ofInt64? : Option Int64 → Value
  | none => .null
  | some n => .ofInt64 n

mutual

/-- How many arrays and objects stand around the innermost value, that value included if it is
one itself. -/
def depth : Value → Nat
  | .null | .boolean _ | .number _ | .string _ => 0
  | .array elements => depthOfElements elements + 1
  | .object members => depthOfMembers members + 1
termination_by structural v => v

/-- The greatest depth among the elements of an array. -/
def depthOfElements : List Value → Nat
  | [] => 0
  | v :: rest => max v.depth (depthOfElements rest)
termination_by structural vs => vs

/-- The greatest depth among the members of an object. -/
def depthOfMembers : List (String × Value) → Nat
  | [] => 0
  | (_, v) :: rest => max v.depth (depthOfMembers rest)
termination_by structural ms => ms

end

mutual

/-- No object of the tree has two members of one key. -/
def DistinctKeys : Value → Prop
  | .null | .boolean _ | .number _ | .string _ => True
  | .array elements => DistinctKeysInElements elements
  | .object members => Members.Distinct members ∧ DistinctKeysInMembers members
termination_by structural v => v

/-- No object in an element of an array has two members of one key. -/
def DistinctKeysInElements : List Value → Prop
  | [] => True
  | v :: rest => v.DistinctKeys ∧ DistinctKeysInElements rest
termination_by structural vs => vs

/-- No object in a member of an object has two members of one key. -/
def DistinctKeysInMembers : List (String × Value) → Prop
  | [] => True
  | (_, v) :: rest => v.DistinctKeys ∧ DistinctKeysInMembers rest
termination_by structural ms => ms

end

mutual

/-- No number of the tree is a double. -/
def NoDoubles : Value → Prop
  | .null | .boolean _ | .string _ => True
  | .number n => ∃ i, n = .integer i
  | .array elements => NoDoublesInElements elements
  | .object members => NoDoublesInMembers members
termination_by structural v => v

/-- No number in an element of an array is a double. -/
def NoDoublesInElements : List Value → Prop
  | [] => True
  | v :: rest => v.NoDoubles ∧ NoDoublesInElements rest
termination_by structural vs => vs

/-- No number in a member of an object is a double. -/
def NoDoublesInMembers : List (String × Value) → Prop
  | [] => True
  | (_, v) :: rest => v.NoDoubles ∧ NoDoublesInMembers rest
termination_by structural ms => ms

end

mutual

/-- Whether two values are the same for a reader who does not mind the order of members. -/
def same : Value → Value → Bool
  | .null, .null => true
  | .boolean a, .boolean b => a == b
  | .number m, .number n => m.same n
  | .string s, .string t => s == t
  | .array vs, .array ws => sameElements vs ws
  | .object ms, .object ns => ms.length == ns.length && sameMembers ms ns
  | _, _ => false
termination_by structural v => v

/-- Whether two arrays have the same elements in the same order. -/
def sameElements : List Value → List Value → Bool
  | [], [] => true
  | v :: vs, w :: ws => v.same w && sameElements vs ws
  | _, _ => false
termination_by structural vs => vs

/-- Whether every member of the first object is found in the second. -/
def sameMembers : List (String × Value) → List (String × Value) → Bool
  | [], _ => true
  | (key, v) :: rest, ns =>
    (match ns.lookup key with
      | some w => v.same w
      | none => false) && sameMembers rest ns
termination_by structural ms => ms

end

/-! ## What holds of a tree by way of its parts -/

/-- What holds of the scalars, and of every array and object if it holds of the values in them,
holds of every value. -/
@[elab_as_elim]
theorem induction {motive : Value → Prop} (null : motive .null)
    (boolean : ∀ b, motive (.boolean b)) (number : ∀ n, motive (.number n))
    (string : ∀ s, motive (.string s))
    (array : ∀ vs, (∀ v ∈ vs, motive v) → motive (.array vs))
    (object : ∀ ms, (∀ m ∈ ms, motive m.2) → motive (.object ms)) (v : Value) : motive v := by
  refine @Value.rec motive (fun vs => ∀ v ∈ vs, motive v) (fun ms => ∀ m ∈ ms, motive m.2)
    (fun m => motive m.2) null boolean number string array object ?_ ?_ ?_ ?_ (fun _ _ h => h) v
  case refine_1 => exact fun v h => absurd h List.not_mem_nil
  case refine_2 => exact fun v vs hv hvs => List.forall_mem_cons.2 ⟨hv, hvs⟩
  case refine_3 => exact fun m h => absurd h List.not_mem_nil
  case refine_4 => exact fun m ms hm hms => List.forall_mem_cons.2 ⟨hm, hms⟩

theorem distinctKeys_array_iff {vs : List Value} :
    (array vs).DistinctKeys ↔ ∀ v ∈ vs, v.DistinctKeys := by
  rw [DistinctKeys]
  induction vs with
  | nil => simp [DistinctKeysInElements]
  | cons v rest ih => rw [DistinctKeysInElements, ih, List.forall_mem_cons]

theorem distinctKeys_object_iff {ms : List (String × Value)} :
    (object ms).DistinctKeys ↔ Members.Distinct ms ∧ ∀ m ∈ ms, m.2.DistinctKeys := by
  have members : DistinctKeysInMembers ms ↔ ∀ m ∈ ms, m.2.DistinctKeys := by
    induction ms with
    | nil => simp [DistinctKeysInMembers]
    | cons m rest ih => rw [DistinctKeysInMembers, ih, List.forall_mem_cons]
  rw [DistinctKeys, members]

theorem noDoubles_array_iff {vs : List Value} :
    (array vs).NoDoubles ↔ ∀ v ∈ vs, v.NoDoubles := by
  rw [NoDoubles]
  induction vs with
  | nil => simp [NoDoublesInElements]
  | cons v rest ih => rw [NoDoublesInElements, ih, List.forall_mem_cons]

theorem noDoubles_object_iff {ms : List (String × Value)} :
    (object ms).NoDoubles ↔ ∀ m ∈ ms, m.2.NoDoubles := by
  rw [NoDoubles]
  induction ms with
  | nil => simp [NoDoublesInMembers]
  | cons m rest ih => rw [NoDoublesInMembers, ih, List.forall_mem_cons]

theorem depth_array_le_iff {vs : List Value} {bound : Nat} :
    (array vs).depth ≤ bound + 1 ↔ ∀ v ∈ vs, v.depth ≤ bound := by
  rw [depth, Nat.add_le_add_iff_right]
  induction vs with
  | nil => simp [depthOfElements]
  | cons v rest ih => rw [depthOfElements, Nat.max_le, ih, List.forall_mem_cons]

theorem depth_object_le_iff {ms : List (String × Value)} {bound : Nat} :
    (object ms).depth ≤ bound + 1 ↔ ∀ m ∈ ms, m.2.depth ≤ bound := by
  rw [depth, Nat.add_le_add_iff_right]
  induction ms with
  | nil => simp [depthOfMembers]
  | cons m rest ih => rw [depthOfMembers, Nat.max_le, ih, List.forall_mem_cons]

end Value

end CloudImages.Json
