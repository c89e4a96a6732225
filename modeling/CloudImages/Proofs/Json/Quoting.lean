import CloudImages.Proofs.Json.Alike

set_option autoImplicit false

/-! # Quoted scalars

A string, a boolean or an integer reads the same whether it stands in a document as it is or as its
text in quotes: the coercions of scalars see through the quotes (`Coercion.SeesThroughQuotes`). So a
read of such a member has the same result, or fails in both forms, and then at most the kind of
value that was found is another one (`Value.get_quoteUnder_alike`, `Value.sameReads_put_text`). -/

namespace CloudImages

/-- What is found under a key when the members of an object are changed one by one. -/
theorem Members.lookup_map {α β : Type} (f : String → α → β) (members : Members α) (key : String) :
    (members.map fun m => (m.1, f m.1 m.2)).lookup key = (members.lookup key).map (f key) := by
  induction members with
  | nil => rfl
  | cons pair rest ih =>
    obtain ⟨name, value⟩ := pair
    by_cases h : key = name
    · subst h
      simp
    · simp [List.lookup_cons, beq_false_of_ne h, ih]

namespace Json

open Outcome

/-! ## Integers as they are written -/

theorem NumberText.text_ofInt (n : Int) : (ofInt n).text = Text.spell n := by
  by_cases negative : n < 0 <;> simp [text, ofInt, Text.spell, negative]

theorem Value.render_integer (n : Integer) :
    (number (.integer n)).render = String.ofList (Text.spell n.val) := by
  have text : (number (.integer n)).text = Text.spell n.val := by
    simp [Value.text, lexemes, NumberText.ofNumber?, Lexeme.text, NumberText.text_ofInt]
  rw [render, text]

/-! ## Values in quotes -/

namespace Value

/-- A string, a boolean or an integer. -/
def Quotable : Value → Prop
  | .string _ | .boolean _ | .number (.integer _) => True
  | .null | .number (.double _) | .array _ | .object _ => False

/-- The text of a value as a string; a value that is not quotable is left as it is. -/
def quoted : Value → Value
  | .boolean b => .string (boolean b).render
  | .number (.integer n) => .string (number (.integer n)).render
  | other => other

theorem quoted_eq_null_iff {v : Value} : v.quoted = .null ↔ v = .null := by
  cases v with
  | number n => cases n <;> simp [quoted]
  | null | boolean b | string s | array vs | object ms => simp [quoted]

/-- A quotable value has a text, and that is what stands in the quotes. -/
theorem exists_text_of_quotable {v : Value} (h : v.Quotable) :
    ∃ s, Coercion.text.read? v = some s ∧ v.quoted = .string s := by
  cases v with
  | string s => exact ⟨s, rfl, rfl⟩
  | boolean b => exact ⟨_, rfl, rfl⟩
  | number n =>
    cases n with
    | integer n => exact ⟨_, rfl, rfl⟩
    | double x => exact absurd h id
  | null | array vs | object ms => exact absurd h id

end Value

namespace Coercion

/-- A value reads the same in quotes. -/
def SeesThroughQuotes {α : Type} (c : Coercion α) : Prop :=
  ∀ v, c.read? v.quoted = c.read? v

theorem text_seesThroughQuotes : text.SeesThroughQuotes := by
  intro v
  cases v with
  | number n => cases n <;> rfl
  | null | boolean b | string s | array vs | object ms => rfl

/-- An integer that is written is read again, if it fits a signed word. -/
theorem integer_read?_render (n : Integer) :
    integer.read? (.string (Value.number (.integer n)).render) = Text.int64? n.val := by
  rw [Value.render_integer]
  change (Text.integer? (Text.trim (String.ofList (Text.spell n.val)).toList)).bind Text.int64? = _
  rw [String.toList_ofList, Text.trim_spell, Text.integer?_spell, Option.bind_some]

theorem integer_seesThroughQuotes : integer.SeesThroughQuotes := by
  intro v
  cases v with
  | boolean b => cases b <;> rfl
  | number n =>
    cases n with
    | integer n => exact integer_read?_render n
    | double x => rfl
  | null | string s | array vs | object ms => rfl

theorem boolean_seesThroughQuotes : boolean.SeesThroughQuotes := by
  intro v
  cases v with
  | boolean b => cases b <;> rfl
  | number n =>
    cases n with
    | integer n =>
      -- the words of the booleans are no numerals
      have numeral : Text.integer? (Value.number (.integer n)).render.toList = some n.val := by
        rw [Value.render_integer, String.toList_ofList, Text.integer?_spell]
      have words : ∀ b : Bool, Text.integer? (toString b).toList = none := by decide
      have apart (b : Bool) : (Value.number (.integer n)).render ≠ toString b := by
        intro same
        rw [same, words b] at numeral
        exact absurd numeral (by simp)
      exact (if_neg (apart true)).trans (if_neg (apart false))
    | double x => rfl
  | null | string s | array vs | object ms => rfl

end Coercion

/-! ## Reads -/

/-- Two errors are the same but for the kind of value that was found. -/
inductive AccessError.SameButFound : AccessError → AccessError → Prop where
  | same (e : AccessError) : SameButFound e e
  | wrongType (key : String) (expected : Expected) (found found' : Kind) :
      SameButFound (.wrongType key expected found) (.wrongType key expected found')

namespace Value

variable {α : Type} {c : Coercion α} {key : String}

theorem accept_quoted_alike (sees : c.SeesThroughQuotes) (v : Value) :
    Alike AccessError.SameButFound Eq (accept c key v) (accept c key v.quoted) := by
  rw [accept, accept, sees v]
  cases c.read? v with
  | none => exact .error (.wrongType key c.expected v.kind v.quoted.kind)
  | some a => exact .ok rfl

/-! ### One member in quotes -/

/-- Reads of a member have the same result in two objects, or fail in both. -/
structure SameReads (key : String) (v w : Value) : Prop where
  text : Alike AccessError.SameButFound Eq (v.get .text key) (w.get .text key)
  integer : Alike AccessError.SameButFound Eq (v.get .integer key) (w.get .integer key)
  boolean : Alike AccessError.SameButFound Eq (v.get .boolean key) (w.get .boolean key)
  integerOr : ∀ default, Alike AccessError.SameButFound Eq
    (v.getOr .integer key default) (w.getOr .integer key default)
  booleanOr : ∀ default, Alike AccessError.SameButFound Eq
    (v.getOr .boolean key default) (w.getOr .boolean key default)

theorem field?_of_quotable {members : Members Value} {found : Value}
    (there : members.lookup key = some found) (quotable : found.Quotable) :
    (object members).field? key = .ok (some found) := by
  refine field?_eq_some_iff.2 ⟨members, rfl, there, ?_⟩
  rintro rfl
  exact quotable

/-- A string, a boolean or an integer has a text, and reads the same if that text is put in its
place. -/
theorem sameReads_put_text {members : Members Value} {found : Value}
    (there : members.lookup key = some found) (quotable : found.Quotable) :
    ∃ s, (object members).get .text key = .ok s ∧
      SameReads key (object members) (object (members.put key (.string s))) := by
  obtain ⟨s, text, quoted⟩ := exists_text_of_quotable quotable
  have here := field?_of_quotable there quotable
  have put : (object (members.put key (.string s))).field? key = .ok (some (.string s)) :=
    field?_of_quotable (by rw [Members.lookup_put, if_pos rfl]) trivial
  have get {β : Type} {c : Coercion β} (sees : c.SeesThroughQuotes) :
      Alike AccessError.SameButFound Eq ((object members).get c key)
        ((object (members.put key (.string s))).get c key) := by
    rw [get_of_field?_some here, get_of_field?_some put, ← quoted]
    exact accept_quoted_alike sees found
  have getOr {β : Type} {c : Coercion β} (sees : c.SeesThroughQuotes) (default : β) :
      Alike AccessError.SameButFound Eq ((object members).getOr c key default)
        ((object (members.put key (.string s))).getOr c key default) := by
    rw [getOr_of_field?_some here, getOr_of_field?_some put, ← quoted]
    exact accept_quoted_alike sees found
  exact ⟨s, get_eq_ok_iff.2 ⟨found, here, text⟩, {
    text := get Coercion.text_seesThroughQuotes
    integer := get Coercion.integer_seesThroughQuotes
    boolean := get Coercion.boolean_seesThroughQuotes
    integerOr := getOr Coercion.integer_seesThroughQuotes
    booleanOr := getOr Coercion.boolean_seesThroughQuotes }⟩

/-! ### Integers beyond a signed word -/

theorem get_integer_of_numeral {members : Members Value} {n : Int64}
    (there : members.lookup key = some (.string (toString n.toInt))) :
    (object members).get .integer key = .ok n := by
  refine get_of_lookup there nofun ?_
  have read := Coercion.integer_read?_render ⟨n.toInt, n.le_toInt, by have := n.toInt_lt; omega⟩
  rw [render_integer, Text.spell_eq_toString] at read
  rw [read, Text.int64?_toInt]

/-- An integer that is too great for a signed word is refused, in quotes or without. -/
theorem integer_refused_of_great {members : Members Value} {n : Integer} {found : Value}
    (great : 0x8000000000000000 ≤ n.val) (there : members.lookup key = some found)
    (spelled : found = .number (.integer n) ∨ found = .string (toString n.val)) :
    (object members).get .integer key = .error (.wrongType key .integer found.kind) ∧
    ∀ default, (object members).getOr .integer key default
      = .error (.wrongType key .integer found.kind) := by
  have none : Text.int64? n.val = none := if_neg (by omega)
  have unread : Coercion.integer.read? found = Option.none := by
    rcases spelled with rfl | rfl
    · exact none
    · rw [← Text.spell_eq_toString, ← render_integer, Coercion.integer_read?_render, none]
  have quotable : found.Quotable := by
    rcases spelled with rfl | rfl <;> trivial
  have here := field?_of_quotable there quotable
  have refused : accept .integer key found = .error (.wrongType key .integer found.kind) := by
    rw [accept, unread]
    rfl
  refine ⟨?_, fun default => ?_⟩
  · rw [get_of_field?_some here, refused]
  · rw [getOr_of_field?_some here, refused]

/-! ### Members changed one by one -/

/-- An object with other values under its keys; a value that is no object is left as it is. -/
def mapMembers (f : String → Value → Value) : Value → Value
  | .object members => .object (members.map fun m => (m.1, f m.1 m.2))
  | other => other

/-- A member is found changed, and else nothing is found as before, if null is neither changed nor
the outcome of a change. -/
theorem field?_mapMembers_alike {f : String → Value → Value} {R : Value → Value → Prop}
    (null : ∀ found, f key found = .null ↔ found = .null) (related : ∀ found, R found (f key found))
    (v : Value) :
    Alike Eq (Option.Rel R) (v.field? key) ((v.mapMembers f).field? key) := by
  cases v with
  | object members =>
    have changed := Members.lookup_map f members key
    rcases lacks_or_has ⟨members, rfl⟩ key with lacks | ⟨found, has⟩
    · have lacks' : ((object members).mapMembers f).Lacks key := by
        obtain ⟨_, ⟨⟩, absent | isNull⟩ := lacks
        · exact ⟨_, rfl, Or.inl (by rw [changed, absent, Option.map_none])⟩
        · exact ⟨_, rfl, Or.inr (by rw [changed, isNull, Option.map_some, (null .null).2 rfl])⟩
      rw [field?_eq_none_iff.2 lacks, field?_eq_none_iff.2 lacks']
      exact .ok .none
    · have has' : ((object members).mapMembers f).Has key (f key found) := by
        obtain ⟨_, ⟨⟩, there, notNull⟩ := has
        exact ⟨_, rfl, by rw [changed, there, Option.map_some], fun h => notNull ((null _).1 h)⟩
      rw [field?_eq_some_iff.2 has, field?_eq_some_iff.2 has']
      exact .ok (.some (related found))
  | null | boolean b | number n | string s | array vs => exact .error rfl

/-- The member under a key, in quotes if the key is one of the given ones. -/
def quotedIf (keys : List String) (key : String) (found : Value) : Value :=
  if key ∈ keys then found.quoted else found

/-- An object with its members under the given keys in quotes. -/
def quoteUnder (keys : List String) : Value → Value :=
  mapMembers (quotedIf keys)

theorem field?_quoteUnder_alike (keys : List String) (v : Value) :
    Alike Eq (Option.Rel fun found found' => quotedIf keys key found = found')
      (v.field? key) ((v.quoteUnder keys).field? key) := by
  refine field?_mapMembers_alike (fun found => ?_) (fun _ => rfl) v
  unfold quotedIf
  split
  · exact quoted_eq_null_iff
  · exact Iff.rfl

theorem accept_quotedIf_alike (sees : c.SeesThroughQuotes) (keys : List String)
    {found found' : Value} (related : quotedIf keys key found = found') :
    Alike AccessError.SameButFound Eq (accept c key found) (accept c key found') := by
  subst related
  unfold quotedIf
  split
  · exact accept_quoted_alike sees found
  · exact .refl .same _

theorem get_quoteUnder_alike (sees : c.SeesThroughQuotes) (keys : List String) (v : Value) :
    Alike AccessError.SameButFound Eq (v.get c key) ((v.quoteUnder keys).get c key) :=
  get_alike_of_accept .same (accept_quotedIf_alike sees keys) (field?_quoteUnder_alike keys v)

theorem getOr_quoteUnder_alike (sees : c.SeesThroughQuotes) (keys : List String) (v : Value)
    (default : α) :
    Alike AccessError.SameButFound Eq (v.getOr c key default)
      ((v.quoteUnder keys).getOr c key default) :=
  getOr_alike_of_accept .same (accept_quotedIf_alike sees keys) rfl
    (field?_quoteUnder_alike keys v)

end Value

end Json

end CloudImages
