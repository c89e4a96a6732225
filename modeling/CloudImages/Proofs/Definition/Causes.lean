import CloudImages.Proofs.Definition.Conditions

set_option autoImplicit false

/-! # Why a definition is rejected

The checks of a definition in the order in which they are made (`checks`). Each is told by the
document alone, as the causes for which it rejects. A definition is rejected for the cause of the
earliest check that it violates, whatever else is wrong with it (`Image.ofDefinition_eq_error_iff`).

A step of the reader makes one check or a few, and has a lemma that says which. The whole is put
together from these steps as the list is from theirs. -/

namespace CloudImages

open Json Value Outcome

namespace Definition

/-! ## Checks -/

/-- A check of a value: the causes for which it rejects. -/
abbrev Check := Value → DefinitionError → Prop

/-- A value is rejected for the cause of the earliest check that it violates. -/
abbrev FirstViolated (v : Value) (checks : List Check) (cause : DefinitionError) : Prop :=
  Earliest (fun check => check v) checks cause

/-- A member has to be there, and of a kind that is accepted. -/
inductive Requires (expected : Expected) (key : String) : Check where
  | bad {v : Value} {e : AccessError} (bad : v.Bad expected key e) :
      Requires expected key v (.access e)

/-- A member has to be of a kind that is accepted, if it is there. -/
inductive Allows (expected : Expected) (key : String) : Check where
  | bad {v : Value} {e : AccessError} (bad : v.BadIfPresent expected key e) :
      Allows expected key v (.access e)

/-- A check of a part of the definition. -/
inductive InPart (name : String) (check : Check) : Check where
  | violated {v : Value} {part : Members Value} {cause : DefinitionError}
      (there : v.Has name (.object part)) (violated : check (.object part) cause) :
      InPart name check v cause

/-- The version has to be 1. -/
inductive OtherVersion : Check where
  | other {v found : Value} {version : Int64} (there : v.Has "Version" found)
      (reads : found.ReadsInteger version) (other : version ≠ 1) :
      OtherVersion v (.unsupportedVersion version)

/-- An environment entry has to be a scalar, and then one whose text is not reserved. -/
inductive BadEntry : Check where
  | notScalar {v : Value} (other : ¬ ∃ text, v.HasText text) :
      BadEntry v (.access (.notA .string v.kind))
  | reserved {v : Value} {text : String} (has : v.HasText text)
      (reserved : ∃ rest, text = "DOCKER_CLOUD_" ++ rest) : BadEntry v (.reservedEnv text)

/-- The entries of the environment are looked at from left to right. -/
inductive BadEntries : Check where
  | first {v : Value} {entries : List Value} {cause : DefinitionError}
      (there : v.Has "Env" (.array entries)) (first : Earliest BadEntry entries cause) :
      BadEntries v cause

/-- A label key is reserved. -/
inductive ReservedKey : String → DefinitionError → Prop where
  | reserved {key : String} (reserved : ∃ rest, key = "teamcity.docker." ++ rest) :
      ReservedKey key (.reservedLabel key)

/-- The keys of the labels are looked at in their order. -/
inductive ReservedKeys : Check where
  | first {v : Value} {labels : Members Value} {cause : DefinitionError}
      (there : v.Has "Labels" (.object labels))
      (first : Earliest ReservedKey (Members.names labels) cause) : ReservedKeys v cause

/-- The profile has to have a name. -/
inductive Unnamed : Check where
  | empty {v found : Value} (there : v.Has "Profile" found) (has : found.HasText "") :
      Unnamed v .emptyProfile

/-- There have to be some instances; a count that is left out is -1. -/
inductive TooFew : Check where
  | absent {v : Value} (lacks : v.Lacks "MaxInstanceCount") : TooFew v (.noInstance (-1))
  | few {v found : Value} {count : Int64} (there : v.Has "MaxInstanceCount" found)
      (reads : found.ReadsInteger count) (few : count.toInt < 1) : TooFew v (.noInstance count)

/-- There is a greatest count of instances. -/
inductive TooMany : Check where
  | many {v found : Value} {count : Int64} (there : v.Has "MaxInstanceCount" found)
      (reads : found.ReadsInteger count) (many : 4294967295 < count.toInt) :
      TooMany v (.tooManyInstances count)

/-- The checks of a definition, in the order in which they are made. -/
def checks : List Check := [
  Requires .object "Administration",
  InPart "Administration" (Requires .integer "Version"),
  InPart "Administration" OtherVersion,
  Requires .object "Container",
  InPart "Container" (Allows .array "Env"),
  InPart "Container" BadEntries,
  InPart "Container" (Allows .object "Labels"),
  InPart "Container" ReservedKeys,
  InPart "Administration" (Requires .string "Profile"),
  InPart "Administration" (Requires .boolean "RmOnExit"),
  InPart "Administration" (Requires .boolean "UseOfficialTCAgentImage"),
  InPart "Administration" (Allows .integer "MaxInstanceCount"),
  InPart "Administration" Unnamed,
  InPart "Administration" TooFew,
  InPart "Administration" TooMany]

/-! ## Reads -/

variable {α : Type} {cause : DefinitionError}

theorem lift_eq_error_iff {x : Except AccessError α} :
    (liftM x : Except DefinitionError α) = .error cause ↔
      ∃ e, x = .error e ∧ .access e = cause := by
  cases x <;> simp [liftM, monadLift, MonadLift.monadLift]

theorem get_eq_error_iff_requires {c : Coercion α} (faithful : c.Faithful) {v : Value}
    {key : String} : (liftM (v.get c key) : Except DefinitionError α) = .error cause ↔
      FirstViolated v [Requires c.expected key] cause := by
  refine lift_eq_error_iff.trans (Iff.trans ?_ earliest_singleton_iff.symm)
  constructor
  · rintro ⟨e, failed, rfl⟩
    exact .bad ((get_eq_error_iff faithful).1 failed)
  · rintro ⟨bad⟩
    exact ⟨_, (get_eq_error_iff faithful).2 bad, rfl⟩

theorem getOr_eq_error_iff_allows {c : Coercion α} (faithful : c.Faithful) {v : Value}
    {key : String} {default : α} :
    (liftM (v.getOr c key default) : Except DefinitionError α) = .error cause ↔
      FirstViolated v [Allows c.expected key] cause := by
  refine lift_eq_error_iff.trans (Iff.trans ?_ earliest_singleton_iff.symm)
  constructor
  · rintro ⟨e, failed, rfl⟩
    exact .bad ((getOr_eq_error_iff faithful).1 failed)
  · rintro ⟨bad⟩
    exact ⟨_, (getOr_eq_error_iff faithful).2 bad, rfl⟩

/-- Checks of a part that is there reject as they do for the part alone. -/
theorem firstViolated_inPart_iff {v : Value} {name : String} {part : Members Value}
    (there : v.Has name (.object part)) {group : List Check} :
    FirstViolated v (group.map (InPart name)) cause ↔ FirstViolated (.object part) group cause := by
  refine earliest_map_iff fun check cause => ⟨?_, fun violated => .violated there violated⟩
  rintro ⟨other, violated⟩
  cases there.unique other
  exact violated

/-- A step that makes some checks of a part that is there, with a chain behind it. -/
theorem bind_eq_error_iff_inPart {β : Type} {x : Except DefinitionError α}
    {f : α → Except DefinitionError β} {v : Value} {name : String} {part : Members Value}
    (there : v.Has name (.object part)) {group rest : List Check}
    (first : ∀ {cause}, x = .error cause ↔ FirstViolated (.object part) group cause)
    (others : ∀ a, x = .ok a → (f a = .error cause ↔ FirstViolated v rest cause)) :
    x >>= f = .error cause ↔ FirstViolated v (group.map (InPart name) ++ rest) cause :=
  bind_eq_error_iff_earliest (first.trans (firstViolated_inPart_iff there).symm) others

/-! ## Steps -/

variable {administration container : Value} {version count : Int64} {profile : String}

theorem ok_ne_error {a : α} : (Except.ok a : Except DefinitionError α) ≠ .error cause := nofun

theorem otherVersion_iff (read : administration.get .integer "Version" = .ok version) :
    OtherVersion administration cause ↔ version ≠ 1 ∧ .unsupportedVersion version = cause := by
  constructor
  · rintro ⟨there, reads, other⟩
    cases read.symm.trans (get_integer_eq_ok_iff.2 ⟨_, there, reads⟩)
    exact ⟨other, rfl⟩
  · rintro ⟨other, rfl⟩
    obtain ⟨found, there, reads⟩ := get_integer_eq_ok_iff.1 read
    exact .other there reads other

theorem checkVersion_eq_error_iff : checkVersion administration = .error cause ↔
    FirstViolated administration [Requires .integer "Version", OtherVersion] cause := by
  refine bind_eq_error_iff_earliest (get_eq_error_iff_requires Coercion.integer_faithful)
    fun version read => ?_
  rw [← ite_not]
  exact ite_eq_error_iff_earliest (fun _ => otherVersion_iff (lift_eq_ok_iff.1 read))
    fun _ => iff_of_false ok_ne_error not_earliest_nil

theorem checkEnvEntry_eq_error_iff {v : Value} :
    checkEnvEntry v = .error cause ↔ BadEntry v cause := by
  refine bind_eq_error_iff.trans ?_
  constructor
  · rintro (unread | ⟨text, read, rejected⟩)
    · obtain ⟨e, failed, rfl⟩ := lift_eq_error_iff.1 unread
      obtain ⟨other, rfl⟩ := (asA_eq_error_iff Coercion.text_faithful).1 failed
      exact .notScalar other
    · have has := Coercion.text_read?_eq_some_iff.1 (asA_eq_ok_iff.1 (lift_eq_ok_iff.1 read))
      split at rejected
      · next reserved =>
        cases rejected
        exact .reserved has (Reserved.begins_iff.1 reserved)
      · exact absurd rejected ok_ne_error
  · intro bad
    cases bad with
    | notScalar other =>
      exact Or.inl (lift_eq_error_iff.2
        ⟨_, (asA_eq_error_iff Coercion.text_faithful).2 ⟨other, rfl⟩, rfl⟩)
    | reserved has reserved =>
      have read := asA_eq_ok_iff.2 (Coercion.text_read?_eq_some_iff.2 has)
      exact Or.inr ⟨_, lift_eq_ok_iff.2 read, if_pos (Reserved.begins_iff.2 reserved)⟩

theorem checkEnv_eq_error_iff : checkEnv container = .error cause ↔
    FirstViolated container [Allows .array "Env", BadEntries] cause := by
  refine bind_eq_error_iff_earliest (getOr_eq_error_iff_allows Coercion.array_faithful)
    fun env read => Iff.trans ?_ earliest_singleton_iff.symm
  rcases (getOr_eq_ok_iff_reads Coercion.array_read?_eq_some_iff).1 (lift_eq_ok_iff.1 read) with
    ⟨lacks, rfl⟩ | ⟨_, there, entries, rfl, rfl⟩
  · -- where there is no environment, there are no entries to look at
    refine iff_of_false ok_ne_error ?_
    rintro ⟨there, -⟩
    exact there.not_lacks lacks
  · refine (forM_eq_error_iff fun _ _ => checkEnvEntry_eq_error_iff).trans ⟨.first there, ?_⟩
    rintro ⟨other, first⟩
    cases there.unique other
    exact first

example : checkEnv (.object [("Env", .array [.null, .string "DOCKER_CLOUD_A=1"])])
    = .error (.access (.notA .string .null)) := rfl

theorem reservedKey_iff {key : String} : ReservedKey key cause ↔
    Reserved.isLabel key ∧ .reservedLabel key = cause := by
  constructor
  · rintro ⟨reserved⟩
    exact ⟨Reserved.begins_iff.2 reserved, rfl⟩
  · rintro ⟨reserved, rfl⟩
    exact .reserved (Reserved.begins_iff.1 reserved)

/-- A search for a reserved key rejects for the first one. -/
theorem find?_eq_error_iff {keys : List String} :
    (match keys.find? Reserved.isLabel with
      | some key => .error (.reservedLabel key)
      | none => .ok () : Except DefinitionError Unit) = .error cause ↔
      Earliest ReservedKey keys cause := by
  induction keys with
  | nil => exact iff_of_false ok_ne_error not_earliest_nil
  | cons key rest ih =>
    rw [earliest_cons_iff, List.find?_cons, ← ih]
    cases reserved : Reserved.isLabel key <;> simp [reservedKey_iff, reserved]

theorem checkLabels_eq_error_iff : checkLabels container = .error cause ↔
    FirstViolated container [Allows .object "Labels", ReservedKeys] cause := by
  refine bind_eq_error_iff_earliest (getOr_eq_error_iff_allows Coercion.object_faithful)
    fun labels read => Iff.trans ?_ earliest_singleton_iff.symm
  rcases (getOr_eq_ok_iff_reads Coercion.object_read?_eq_some_iff).1 (lift_eq_ok_iff.1 read) with
    ⟨lacks, rfl⟩ | ⟨_, there, members, rfl, rfl⟩
  · refine iff_of_false ok_ne_error ?_
    rintro ⟨there, -⟩
    exact there.not_lacks lacks
  · refine find?_eq_error_iff.trans ⟨.first there, ?_⟩
    rintro ⟨other, first⟩
    cases there.unique other
    exact first

theorem unnamed_iff (read : administration.get .text "Profile" = .ok profile) :
    Unnamed administration cause ↔ profile = "" ∧ .emptyProfile = cause := by
  constructor
  · rintro ⟨there, has⟩
    cases read.symm.trans (get_text_eq_ok_iff.2 ⟨_, there, has⟩)
    exact ⟨rfl, rfl⟩
  · rintro ⟨rfl, rfl⟩
    obtain ⟨found, there, has⟩ := get_text_eq_ok_iff.1 read
    exact .empty there has

theorem tooFew_iff
    (read : administration.getOr .integer "MaxInstanceCount" unsetCount = .ok count) :
    TooFew administration cause ↔ count.toInt < 1 ∧ .noInstance count = cause := by
  constructor
  · intro h
    cases h with
    | absent lacks =>
      cases read.symm.trans (getOr_integer_eq_ok_iff.2 (Or.inl ⟨lacks, rfl⟩))
      exact ⟨by decide, rfl⟩
    | few there reads few =>
      cases read.symm.trans (getOr_integer_eq_ok_iff.2 (Or.inr ⟨_, there, reads⟩))
      exact ⟨few, rfl⟩
  · rintro ⟨few, rfl⟩
    rcases getOr_integer_eq_ok_iff.1 read with ⟨lacks, rfl⟩ | ⟨found, there, reads⟩
    · exact .absent lacks
    · exact .few there reads few

theorem tooMany_iff
    (read : administration.getOr .integer "MaxInstanceCount" unsetCount = .ok count) :
    TooMany administration cause ↔
      Image.instanceLimit < count.toInt ∧ .tooManyInstances count = cause := by
  constructor
  · rintro ⟨there, reads, many⟩
    cases read.symm.trans (getOr_integer_eq_ok_iff.2 (Or.inr ⟨_, there, reads⟩))
    exact ⟨many, rfl⟩
  · rintro ⟨many, rfl⟩
    rcases getOr_integer_eq_ok_iff.1 read with ⟨-, rfl⟩ | ⟨found, there, reads⟩
    · exact absurd many (by decide)
    · exact .many there reads many

theorem create_eq_error_iff {removeOnExit officialImage : Bool} {pool : Option Int64}
    (profileRead : administration.get .text "Profile" = .ok profile)
    (countRead : administration.getOr .integer "MaxInstanceCount" unsetCount = .ok count) :
    Image.create profile container removeOnExit officialImage count pool = .error cause ↔
      FirstViolated administration [Unnamed, TooFew, TooMany] cause := by
  refine ite_eq_error_iff_earliest (fun _ => unnamed_iff profileRead) fun _ => ?_
  refine ite_eq_error_iff_earliest (fun _ => tooFew_iff countRead) fun _ => ?_
  refine ite_eq_error_iff_earliest (fun _ => tooMany_iff countRead) fun _ => ?_
  exact iff_of_false ok_ne_error not_earliest_nil

/-! ## The whole -/

theorem read_eq_error_iff {definition : Value} (pools : Option (List PoolAssignment)) :
    read definition pools = .error cause ↔ FirstViolated definition checks cause := by
  -- the checks as the steps of the reader make them
  have grouped : checks =
    [Requires .object "Administration"] ++ (
    [Requires .integer "Version", OtherVersion].map (InPart "Administration") ++ (
    [Requires .object "Container"] ++ (
    [Allows .array "Env", BadEntries].map (InPart "Container") ++ (
    [Allows .object "Labels", ReservedKeys].map (InPart "Container") ++ (
    [Requires .string "Profile"].map (InPart "Administration") ++ (
    [Requires .boolean "RmOnExit"].map (InPart "Administration") ++ (
    [Requires .boolean "UseOfficialTCAgentImage"].map (InPart "Administration") ++ (
    [Allows .integer "MaxInstanceCount"].map (InPart "Administration") ++
    [Unnamed, TooFew, TooMany].map (InPart "Administration"))))))))) := rfl
  rw [grouped]
  refine bind_eq_error_iff_earliest (get_eq_error_iff_requires Coercion.object_faithful)
    fun _ administrationRead => ?_
  obtain ⟨administration, rfl, part⟩ := get_object_eq_ok_iff.1 (lift_eq_ok_iff.1 administrationRead)
  refine bind_eq_error_iff_inPart part checkVersion_eq_error_iff fun _ _ => ?_
  refine bind_eq_error_iff_earliest (get_eq_error_iff_requires Coercion.object_faithful)
    fun _ containerRead => ?_
  obtain ⟨container, rfl, description⟩ := get_object_eq_ok_iff.1 (lift_eq_ok_iff.1 containerRead)
  refine bind_eq_error_iff_inPart description checkEnv_eq_error_iff fun _ _ => ?_
  refine bind_eq_error_iff_inPart description checkLabels_eq_error_iff fun _ _ => ?_
  refine bind_eq_error_iff_inPart part (get_eq_error_iff_requires Coercion.text_faithful)
    fun profile profileRead => ?_
  refine bind_eq_error_iff_inPart part (get_eq_error_iff_requires Coercion.boolean_faithful)
    fun _ _ => ?_
  refine bind_eq_error_iff_inPart part (get_eq_error_iff_requires Coercion.boolean_faithful)
    fun _ _ => ?_
  refine bind_eq_error_iff_inPart part (getOr_eq_error_iff_allows Coercion.integer_faithful)
    fun count countRead => ?_
  rw [firstViolated_inPart_iff part]
  exact create_eq_error_iff (lift_eq_ok_iff.1 profileRead) (lift_eq_ok_iff.1 countRead)

end Definition

/-- A definition is rejected for the cause of the earliest check that it violates, and with its
text. -/
theorem Image.ofDefinition_eq_error_iff (definition : Value) (pools : Option (List PoolAssignment))
    (error : ImageError) : Image.ofDefinition definition pools = .error error ↔
      error.definition = definition.render ∧
        Definition.FirstViolated definition Definition.checks error.cause := by
  rw [Image.ofDefinition]
  cases found : Definition.read definition pools with
  | ok image =>
    refine iff_of_false (by simp) fun h => ?_
    exact absurd (found.symm.trans ((Definition.read_eq_error_iff pools).2 h.2)) (by simp)
  | error cause =>
    obtain ⟨text, cause'⟩ := error
    rw [← Definition.read_eq_error_iff pools, found, Except.error.injEq, Except.error.injEq,
      ImageError.mk.injEq, eq_comm (a := text)]

end CloudImages
