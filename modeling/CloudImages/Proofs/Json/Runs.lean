import CloudImages.Proofs.Json.LongerText
import CloudImages.Proofs.Json.RoundTrip
import CloudImages.Proofs.Json.Skipping

set_option autoImplicit false

/-! # What a reader takes

A reader that reads something takes a run of lexemes from the front, and it takes this run whatever
stands behind it (`Reader.TakesRun`); of the tree reader this is `Reader.value_takesRun`. An array
and an object end with their closing bracket (`Reader.ClosesRun`).

So a text that holds a list and nothing behind it cannot be read without its end
(`Reader.whole_ne_ok_of_cutShort`, for documents `Value.parse_ne_ok_of_cutShort`): if it could, the
list would be complete before the end of the text and what is missing would stand behind it. -/

namespace CloudImages.Json

namespace Reader

variable {α σ : Type} {lexemes rest : List Lexeme}

/-! ## Runs -/

/-- Whatever the reader reads is a run at the front, and is read whatever stands behind the run. -/
def TakesRun (reader : Reader α) : Prop :=
  ∀ {lexemes a rest}, reader lexemes = .ok (a, rest) →
    ∃ run, lexemes = run ++ rest ∧ ∀ more, reader (run ++ more) = .ok (a, more)

/-- The run that the reader takes ends in a closing bracket. -/
def ClosesRun (b : Bracket) (reader : Reader α) : Prop :=
  ∀ {lexemes a rest}, reader lexemes = .ok (a, rest) →
    ∃ run, lexemes = run ++ .closing b :: rest ∧
      ∀ more, reader (run ++ .closing b :: more) = .ok (a, more)

theorem takesRun_of_closesRun {b : Bracket} {reader : Reader α} (closes : ClosesRun b reader) :
    TakesRun reader := by
  intro lexemes a rest h
  obtain ⟨run, rfl, again⟩ := closes h
  refine ⟨run ++ [.closing b], by simp, fun more => ?_⟩
  rw [List.append_assoc]
  exact again more

theorem giving_takesRun {reader : Reader α} (takes : TakesRun reader) (f : α → σ) :
    TakesRun (giving f reader) := by
  intro lexemes b rest h
  obtain ⟨a, read, rfl⟩ := giving_eq_ok_iff.1 h
  obtain ⟨run, rfl, again⟩ := takes read
  exact ⟨run, rfl, fun more => giving_eq_ok_iff.2 ⟨a, again more, rfl⟩⟩

/-- A run that does not begin with its closing bracket begins in the same way whatever stands behind
it. -/
theorem exists_run_eq_cons {run : List Lexeme} {b : Bracket} {first : Lexeme} {tail : List Lexeme}
    (opens : first ≠ .closing b) (same : first :: tail = run ++ .closing b :: rest)
    (more : List Lexeme) : ∃ tail', run ++ .closing b :: more = first :: tail' := by
  cases run with
  | nil => exact absurd (List.cons.inj same).1 opens
  | cons other others =>
    rw [(List.cons.inj same).1]
    exact ⟨_, rfl⟩

/-! ## Arrays -/

theorem Series.closes {element : Reader α} (takes : TakesRun element) {as : List α}
    (h : Series element lexemes as rest) :
    ∃ run, lexemes = run ++ .closing .square :: rest ∧
      ∀ more, Series element (run ++ .closing .square :: more) as more := by
  induction h with
  | last read =>
    obtain ⟨run, rfl, again⟩ := takes read
    exact ⟨run, rfl, fun more => Series.last (again _)⟩
  | next read opens _ ih =>
    obtain ⟨run, rfl, again⟩ := takes read
    obtain ⟨others, same, series⟩ := ih
    refine ⟨run ++ .comma :: others, by rw [same]; simp, fun more => ?_⟩
    obtain ⟨tail, begins⟩ := exists_run_eq_cons opens same more
    have behind := series more
    rw [begins] at behind
    rw [List.append_assoc, List.cons_append, begins]
    exact Series.next (again _) opens behind

theorem elements_closesRun {element : Reader α} (shrinks : Shrinks element)
    (takes : TakesRun element) : ClosesRun .square (elements element) := by
  intro lexemes as rest h
  rcases (elements_eq_ok_iff shrinks).1 h with ⟨rfl, rfl⟩ | ⟨⟨first, tail, rfl, opens⟩, series⟩
  · exact ⟨[], rfl, fun more => (elements_eq_ok_iff shrinks).2 (Or.inl ⟨rfl, rfl⟩)⟩
  · obtain ⟨run, same, again⟩ := series.closes takes
    refine ⟨run, same, fun more => (elements_eq_ok_iff shrinks).2 (Or.inr ⟨?_, again more⟩)⟩
    obtain ⟨tail', begins⟩ := exists_run_eq_cons opens same more
    exact ⟨first, tail', begins, opens⟩

/-! ## Objects -/

variable {member : σ → String → Except Fault (Reader σ)} {state state' : σ}

/-- Whichever reader is chosen for a member takes a run. -/
def TakesMembers (member : σ → String → Except Fault (Reader σ)) : Prop :=
  ∀ {state name read}, member state name = .ok read → TakesRun read

theorem MemberRead.takes (takes : TakesMembers member)
    (h : MemberRead member state lexemes state' rest) :
    ∃ run, lexemes = run ++ rest ∧
      ∀ more, MemberRead member state (run ++ more) state' more := by
  obtain ⟨units, ending, name, read, body, rfl, decoded, chosen, valueRead⟩ := h
  obtain ⟨run, rfl, again⟩ := takes chosen valueRead
  refine ⟨.string units ending :: .colon :: run, rfl, fun more => ?_⟩
  exact ⟨units, ending, name, read, run ++ more, rfl, decoded, chosen, again more⟩

theorem MemberSeries.closes (takes : TakesMembers member)
    (h : MemberSeries member state lexemes state' rest) :
    ∃ run, lexemes = run ++ .closing .curly :: rest ∧
      ∀ more, MemberSeries member state (run ++ .closing .curly :: more) state' more := by
  induction h with
  | last read =>
    obtain ⟨run, rfl, again⟩ := read.takes takes
    exact ⟨run, rfl, fun more => MemberSeries.last (again _)⟩
  | next read opens _ ih =>
    obtain ⟨run, rfl, again⟩ := read.takes takes
    obtain ⟨others, same, series⟩ := ih
    refine ⟨run ++ .comma :: others, by rw [same]; simp, fun more => ?_⟩
    obtain ⟨tail, begins⟩ := exists_run_eq_cons opens same more
    have behind := series more
    rw [begins] at behind
    rw [List.append_assoc, List.cons_append, begins]
    exact MemberSeries.next (again _) opens behind

theorem members_closesRun (shrinks : ShrinksMembers member) (takes : TakesMembers member)
    (start : σ) : ClosesRun .curly (members member start) := by
  intro lexemes state' rest h
  rcases (members_eq_ok_iff shrinks).1 h with ⟨rfl, rfl⟩ | ⟨⟨first, tail, rfl, opens⟩, series⟩
  · exact ⟨[], rfl, fun more => (members_eq_ok_iff shrinks).2 (Or.inl ⟨rfl, rfl⟩)⟩
  · obtain ⟨run, same, again⟩ := series.closes takes
    refine ⟨run, same, fun more => (members_eq_ok_iff shrinks).2 (Or.inr ⟨?_, again more⟩)⟩
    obtain ⟨tail', begins⟩ := exists_run_eq_cons opens same more
    exact ⟨first, tail', begins, opens⟩

/-! ## Values -/

theorem memberOf_takesMembers {inner : Reader Value} (takes : TakesRun inner) :
    TakesMembers (memberOf inner) := by
  intro before name read chosen
  obtain rfl := memberOf_eq_ok_iff.1 chosen
  exact giving_takesRun takes (before.put name)

theorem elements_value_closesRun {depth : Nat} (takes : TakesRun (value depth)) :
    ClosesRun .square (elements (value depth)) :=
  elements_closesRun (value_shrinks depth) takes

theorem members_value_closesRun {depth : Nat} (takes : TakesRun (value depth)) :
    ClosesRun .curly (members (memberOf (value depth)) []) :=
  members_closesRun (memberOf_shrinks (value_shrinks depth)) (memberOf_takesMembers takes) []

theorem value_takesRun (depth : Nat) : TakesRun (value depth) := by
  induction depth with
  | zero =>
    intro lexemes v rest h
    cases value_eq_ok_iff.1 h with
    | @scalar _ first _ _ _ head whole =>
      exact ⟨[first], rfl, fun more => value_eq_ok_iff.2 (ValueRead.scalar head whole)⟩
  | succ depth ih =>
    intro lexemes v rest h
    cases value_eq_ok_iff.1 h with
    | @scalar _ first _ _ _ head whole =>
      exact ⟨[first], rfl, fun more => value_eq_ok_iff.2 (ValueRead.scalar head whole)⟩
    | @array _ first _ _ _ head inner =>
      obtain ⟨run, rfl, again⟩ := takesRun_of_closesRun (elements_value_closesRun ih) inner
      exact ⟨first :: run, rfl, fun more => value_eq_ok_iff.2 (.array head (again more))⟩
    | @object _ first _ _ _ head inner =>
      obtain ⟨run, rfl, again⟩ := takesRun_of_closesRun (members_value_closesRun ih) inner
      exact ⟨first :: run, rfl, fun more => value_eq_ok_iff.2 (.object head (again more))⟩

end Reader

/-! ## Skipped values -/

/-- What is passed over, with any brackets open, is passed over whatever stands behind it. -/
theorem Skipper.exists_run_of_run {state : SkipState} {around : List Bracket}
    {lexemes rest : List Lexeme} (h : run state around lexemes = .ok rest) :
    ∃ taken, lexemes = taken ++ rest ∧ ∀ more, run state around (taken ++ more) = .ok more := by
  fun_induction run state around lexemes with
  | case1 tail =>
    cases h
    exact ⟨[], rfl, fun more => by rw [List.nil_append, run]⟩
  | case2 => exact absurd h (by simp)
  | case3 state around lexeme tail goesOn ih =>
    obtain ⟨⟨state', around'⟩, stepped, h₁⟩ := Outcome.bind_eq_ok_iff.1 h
    obtain ⟨taken, rfl, again⟩ := ih _ _ h₁
    refine ⟨lexeme :: taken, rfl, fun more => ?_⟩
    rw [List.cons_append, run.eq_3 _ _ _ _ goesOn, stepped]
    exact again more

namespace Reader

variable {α : Type}

theorem skip_takesRun : TakesRun skip := by
  rintro lexemes ⟨⟩ rest h
  obtain ⟨run, rfl, again⟩ := Skipper.exists_run_of_run (skip_eq_ok_iff.1 h)
  exact ⟨run, rfl, fun more => skip_eq_ok_iff.2 (again more)⟩

/-! ## Texts without their end -/

/-- A list that the reader reads ends with its closing bracket, and is read whatever stands behind
that. -/
def ReadsLists (reader : Reader α) : Prop :=
  ∀ {tail a rest}, reader (.opening .square :: tail) = .ok (a, rest) →
    ∃ run, tail = run ++ .closing .square :: rest ∧
      ∀ more, reader (.opening .square :: (run ++ .closing .square :: more)) = .ok (a, more)

theorem value_readsLists (depth : Nat) : ReadsLists (value depth) := by
  intro tail v rest h
  obtain ⟨inner, vs, rfl, rfl, found⟩ := elements_of_value h
  obtain ⟨run, rfl, again⟩ := elements_value_closesRun (value_takesRun inner) found
  exact ⟨run, rfl, fun more => value_eq_ok_iff.2 (ValueRead.array rfl (again more))⟩

/-- The text without its end: something is missing, be it the last character only. -/
def CutShort (cut text : String) : Prop :=
  ∃ missing, missing ≠ "" ∧ text = cut ++ missing

/-- No blank stands at the end of the text. -/
def EndsShown (text : String) : Prop :=
  ∀ c, text.toList.getLast? = some c → Lexeme.isBlank c = false

/-- What is missing of a text at whose end there is no blank has a lexeme in it. -/
theorem scan_missing_ne_nil {cut missing : String} (some : missing ≠ "")
    (shown : EndsShown (cut ++ missing)) : Lexeme.scan missing.toList ≠ [] := by
  intro none
  have nonempty : missing.toList ≠ [] := fun empty => some (String.toList_eq_nil_iff.1 empty)
  have last : (cut ++ missing).toList.getLast? = .some (missing.toList.getLast nonempty) := by
    rw [String.toList_append, List.getLast?_append, List.getLast?_eq_some_getLast nonempty,
      Option.some_or]
  have blank := Lexeme.isBlank_of_scan_eq_nil none _ (List.getLast_mem nonempty)
  exact absurd ((shown _ last).symm.trans blank) (by simp)

/-- A text that begins with an opening bracket and is read as a list cannot be read without its
end. -/
theorem whole_ne_ok_of_cutShort {reader : Reader α} (lists : ReadsLists reader)
    (shrinks : Shrinks reader) {text cut : String} (short : CutShort cut text)
    (shown : EndsShown text) {tail : List Lexeme}
    (begins : Lexeme.scan text.toList = .opening .square :: tail) {a : α}
    (h : whole reader text = .ok a) (b : α) : whole reader cut ≠ .ok b := by
  intro h'
  obtain ⟨missing, some, rfl⟩ := short
  have read := whole_eq_ok_iff.1 h
  have read' := whole_eq_ok_iff.1 h'
  rw [String.toList_append] at begins read
  have found : Lexeme.scan cut.toList ≠ [] := by
    intro none
    rw [none] at read'
    exact absurd (shrinks read') (by simp)
  obtain ⟨tail', begins'⟩ := Lexeme.scan_eq_cons_of_append ⟨_, Or.inl rfl⟩ begins found
  rw [begins'] at read'
  -- the list is complete in what is left of the text, so the missing lexemes stand behind it
  obtain ⟨run, rfl, again⟩ := lists read'
  have ends : ∀ l, (Lexeme.scan cut.toList).getLast? = .some l → l.IsBracket := by
    intro l last
    rw [begins', ← List.cons_append, List.getLast?_concat] at last
    exact ⟨.square, Or.inr (Option.some.inj last).symm⟩
  rw [Lexeme.scan_append ends, begins', List.cons_append, List.append_assoc] at read
  have behind := congrArg Prod.snd (Except.ok.inj ((again _).symm.trans read))
  exact scan_missing_ne_nil some shown behind

/-- An array begins with an opening bracket. -/
theorem eq_opening_of_value_array {depth : Nat} {lexemes rest : List Lexeme} {vs : List Value}
    (h : value depth lexemes = .ok (.array vs, rest)) :
    ∃ tail, lexemes = .opening .square :: tail := by
  cases value_eq_ok_iff.1 h with
  | @scalar _ _ _ found _ _ whole => cases found <;> exact absurd whole (by simp [scalar?])
  | @array _ _ left _ _ head _ =>
    exact ⟨left, by rw [headOf_eq_ofBracket_iff (b := .square) |>.1 head]⟩

end Reader

/-- An array cannot be read without its end. -/
theorem Value.parse_ne_ok_of_cutShort {text cut : String} (short : Reader.CutShort cut text)
    (shown : Reader.EndsShown text) {vs : List Value} (h : parse text = .ok (.array vs))
    (v : Value) : parse cut ≠ .ok v := by
  have read := parse_eq_ok_iff.1 h
  obtain ⟨tail, begins⟩ := Reader.eq_opening_of_value_array (Reader.whole_eq_ok_iff.1 read)
  intro read'
  exact Reader.whole_ne_ok_of_cutShort (Reader.value_readsLists depthLimit)
    (Reader.value_shrinks depthLimit) short shown begins read v (parse_eq_ok_iff.1 read')

end CloudImages.Json
