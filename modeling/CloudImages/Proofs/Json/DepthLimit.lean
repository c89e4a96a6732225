import CloudImages.Proofs.Json.RoundTrip

set_option autoImplicit false

/-! # The limit on depth

The tree reader notices the depth that is left to it in one way only: by running out of it. So a
reader that may go one deeper comes out the same, unless this one has run out
(`Reader.value_sameUnless`). Read with enough depth, the text of a value gives the value back; hence
read with too little it is rejected, and for no other reason (`Value.parse_render_of_deep`). -/

namespace CloudImages

namespace Outcome

variable {ε α β : Type}

/-- The second outcome is the first, unless the first is the given error. -/
def SameUnless (error : ε) (x y : Except ε α) : Prop :=
  x = .error error ∨ y = x

theorem SameUnless.refl {error : ε} (x : Except ε α) : SameUnless error x x :=
  Or.inr rfl

/-- Steps that come out the same unless there is the error do so one after the other. -/
theorem SameUnless.bind {error : ε} {x y : Except ε α} {f g : α → Except ε β}
    (first : SameUnless error x y) (next : ∀ a, SameUnless error (f a) (g a)) :
    SameUnless error (x >>= f) (y >>= g) := by
  rcases first with failed | rfl
  · exact Or.inl (by rw [failed]; rfl)
  · cases y with
    | error other => exact SameUnless.refl _
    | ok a => exact next a

end Outcome

namespace Json

namespace Reader

open Outcome

variable {α : Type} {fault : Fault}

/-- The second reader comes out as the first one does, unless that one meets the fault. -/
def SameUnless (fault : Fault) (reader reader' : Reader α) : Prop :=
  ∀ lexemes, Outcome.SameUnless fault (reader lexemes) (reader' lexemes)

/-! ## Arrays and objects -/

theorem elementsUpTo_sameUnless {element element' : Reader α}
    (each : SameUnless fault element element') (bound : Nat) :
    SameUnless fault (elementsUpTo element bound) (elementsUpTo element' bound) := by
  induction bound with
  | zero => exact fun _ => .refl _
  | succ bound ih =>
    intro lexemes
    refine (each lexemes).bind fun (first, behind) => ?_
    refine (Outcome.SameUnless.refl (another .square behind)).bind fun (more, rest) => ?_
    cases more with
    | true => exact (ih rest).bind fun _ => .refl _
    | false => exact .refl _

theorem elements_sameUnless {element element' : Reader α}
    (each : SameUnless fault element element') :
    SameUnless fault (elements element) (elements element') := by
  intro lexemes
  refine (Outcome.SameUnless.refl (inside .square lexemes)).bind fun (any, rest) => ?_
  cases any with
  | true => exact elementsUpTo_sameUnless each rest.length rest
  | false => exact .refl _

theorem membersUpTo_sameUnless {inner inner' : Reader Value} (each : SameUnless fault inner inner')
    (bound : Nat) (before : Members Value) :
    SameUnless fault (membersUpTo (memberOf inner) bound before)
      (membersUpTo (memberOf inner') bound before) := by
  induction bound generalizing before with
  | zero => exact fun _ => .refl _
  | succ bound ih =>
    intro lexemes
    refine (Outcome.SameUnless.refl (key lexemes)).bind fun (name, behindKey) => ?_
    refine (Outcome.SameUnless.refl (colon behindKey)).bind fun (_, body) => ?_
    refine ((each body).bind fun _ => .refl _).bind fun (after, behind) => ?_
    refine (Outcome.SameUnless.refl (another .curly behind)).bind fun (more, rest) => ?_
    cases more with
    | true => exact ih after rest
    | false => exact .refl _

theorem members_sameUnless {inner inner' : Reader Value} (each : SameUnless fault inner inner')
    (before : Members Value) :
    SameUnless fault (members (memberOf inner) before) (members (memberOf inner') before) := by
  intro lexemes
  refine (Outcome.SameUnless.refl (inside .curly lexemes)).bind fun (any, rest) => ?_
  cases any with
  | true => exact membersUpTo_sameUnless each rest.length before rest
  | false => exact .refl _

/-! ## Values -/

theorem value_sameUnless (depth : Nat) :
    SameUnless (.malformed .tooDeep) (value depth) (value (depth + 1)) := by
  induction depth with
  | zero =>
    intro lexemes
    refine (Outcome.SameUnless.refl (head lexemes)).bind fun (found, rest) => ?_
    -- without depth there is no array and no object, and nothing else differs
    cases found
    case array | object => exact Or.inl rfl
    all_goals exact .refl _
  | succ depth ih =>
    intro lexemes
    refine (Outcome.SameUnless.refl (head lexemes)).bind fun (found, rest) => ?_
    cases found
    case array => exact (elements_sameUnless ih rest).bind fun _ => .refl _
    case object => exact (members_sameUnless ih [] rest).bind fun _ => .refl _
    all_goals exact .refl _

theorem value_sameUnless_of_le {depth limit : Nat} (le : depth ≤ limit) :
    SameUnless (.malformed .tooDeep) (value depth) (value limit) := by
  induction le with
  | refl => exact fun _ => .refl _
  | @step limit _ ih =>
    intro lexemes
    rcases ih lexemes with failed | same
    · exact Or.inl failed
    · rcases value_sameUnless limit lexemes with failed | same'
      · exact Or.inl (same.symm.trans failed)
      · exact Or.inr (same'.trans same)

theorem value_lexemes_of_deep {v : Value} (integers : v.NoDoubles) (distinct : v.DistinctKeys)
    {depth : Nat} (deep : depth < v.depth) (rest : List Lexeme) :
    value depth (v.lexemes ++ rest) = .error (.malformed .tooDeep) := by
  have fits : v.Writable v.depth := ⟨integers, distinct, Nat.le_refl _⟩
  rcases value_sameUnless_of_le (Nat.le_of_lt deep) (v.lexemes ++ rest) with failed | same
  · exact failed
  · -- it would be read as a value that nests no deeper than `depth`
    rw [value_lexemes fits rest] at same
    have shallow := depth_le_of_value same.symm
    omega

end Reader

namespace Value

theorem parse_render_of_deep {v : Value} (integers : v.NoDoubles) (distinct : v.DistinctKeys)
    (deep : depthLimit < v.depth) :
    parse v.render = .error (.unreadable (.malformed .tooDeep)) := by
  have failed := Reader.value_lexemes_of_deep integers distinct deep []
  rw [List.append_nil] at failed
  have unread : ofText v.render = .error (.malformed .tooDeep) := by
    simp [ofText, Reader.whole, toList_render, scan_text integers, failed, bind, Except.bind]
  rw [parse, unread]

/-- Every tree that is read has distinct keys and nests at most 127 deep. A value without doubles
that has distinct keys is read back from its text, member for member, if it nests no deeper than
that, and is rejected for its depth if it does. -/
theorem tree_of_parse_and_parse_render :
    (∀ text v, parse text = .ok v → v.DistinctKeys ∧ v.depth ≤ 127) ∧
    ∀ v : Value, v.NoDoubles → v.DistinctKeys →
      parse v.render
        = if v.depth ≤ 127 then .ok v else .error (.unreadable (.malformed .tooDeep)) := by
  refine ⟨fun text v read => of_ofText (parse_eq_ok_iff.1 read), ?_⟩
  intro v integers distinct
  split
  · next fits => exact parse_render ⟨integers, distinct, fits⟩
  · next deep => exact parse_render_of_deep integers distinct (Nat.lt_of_not_le deep)

/-- The greatest integer, with the given number of arrays and objects in turn around it. -/
def nested : Nat → Value
  | 0 => .number (.integer ⟨0xFFFFFFFFFFFFFFFF, by decide⟩)
  | n + 1 => if n % 2 = 0 then .array [nested n] else .object [("\n\"", nested n), ("", .null)]

theorem nested_writable (n : Nat) : (nested n).Writable n ∧ (nested n).depth = n := by
  induction n with
  | zero => exact ⟨⟨⟨_, rfl⟩, trivial, Nat.le_refl _⟩, rfl⟩
  | succ n ih =>
    rw [nested]
    split
    · refine ⟨Writable.array_iff.2 (List.forall_mem_singleton.2 ih.1), ?_⟩
      simp [depth, depthOfElements, ih.2]
    · refine ⟨Writable.object_iff.2 ⟨by simp [Members.Distinct, Members.names], ?_⟩, ?_⟩
      · exact List.forall_mem_cons.2
          ⟨ih.1, List.forall_mem_singleton.2 ⟨trivial, trivial, Nat.zero_le n⟩⟩
      · simp [depth, depthOfMembers, ih.2]

/-- At the limit, and one beyond it. -/
theorem tree_of_parse_and_parse_render_nested :
    parse (nested 127).render = .ok (nested 127) ∧
      parse (nested 128).render = .error (.unreadable (.malformed .tooDeep)) := by
  obtain ⟨fits, depth⟩ := nested_writable 127
  obtain ⟨beyond, depth'⟩ := nested_writable 128
  have whole := tree_of_parse_and_parse_render.2 (nested 127) fits.integers fits.distinct
  have deep := tree_of_parse_and_parse_render.2 (nested 128) beyond.integers beyond.distinct
  rw [depth, if_pos (by decide)] at whole
  rw [depth', if_neg (by decide)] at deep
  exact ⟨whole, deep⟩

end Value

end Json

end CloudImages
