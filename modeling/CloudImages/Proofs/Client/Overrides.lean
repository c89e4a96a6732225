import CloudImages.Proofs.Client.Runs
import CloudImages.Proofs.Text.Numerals

set_option autoImplicit false

/-! # What overriding comes to

A variable is not set, or it holds a word of 64 bits, or it is malformed (`Holds`, `Malformed`). How
overriding comes out is told from that alone (`withOverrides_outcome`): with which settings, or else
with which error, and which variables it asks for on the way. A variable that it does not ask for
has no influence (`withOverrides_of_agree`). -/

namespace CloudImages.Client

open Outcome

/-! ## Variables -/

/-- A variable is not set, or it is set to decimal digits, with a plus sign in front of them or none
and blanks around it all or none, whose number fits a word of 64 bits. -/
inductive Holds : Option String → Option UInt64 → Prop where
  | unset : Holds none none
  | set {value : String} {inner : List Char} {word : UInt64}
      (padded : Text.Padded inner value.toList) (numeral : Text.Unsigned inner word.toNat) :
      Holds (some value) (some word)

/-- A variable is set to anything else. -/
def Malformed (value : String) : Prop :=
  ∀ word, ¬ Holds (some value) word

/-- The number of threads is not set, or it is set to a word other than zero. -/
def Accepted (threads : Option String) : Prop :=
  ∃ size, Holds threads size ∧ size ≠ some 0

/-- What variables for the number of threads and for the timeout are refused with. The timeout is
looked at only if the number of threads is accepted. -/
inductive Refused (threads timeout : Option String) : ClientError → Prop where
  | noThreads (zero : Holds threads (some 0)) : Refused threads timeout (.invalidPoolSize 0)
  | badThreads {value : String} (set : threads = some value) (malformed : Malformed value) :
      Refused threads timeout (.invalidVariable "DKC_DOCKER_THREAD_POOL_SIZE" value)
  | badTimeout {value : String} (accepted : Accepted threads) (set : timeout = some value)
      (malformed : Malformed value) :
      Refused threads timeout (.invalidVariable "DKC_DOCKER_CONNECT_TIMEOUT_MS" value)

/-- A client with so many threads and with a timeout of so many milliseconds, where they are
given. -/
def setTo (c : Client) (size millis : Option UInt64) : Client :=
  { c with
    poolSize := size.getD c.poolSize
    timeout := (millis.map fun millis => millis.toNat * 1000000).getD c.timeout }

variable {c c' : Client} {name value : String} {setting : Option String} {error : ClientError}

theorem holds_none_iff {word : Option UInt64} : Holds none word ↔ word = none := by
  refine ⟨fun holds => ?_, fun same => ?_⟩
  · cases holds
    rfl
  · rw [same]
    exact .unset

theorem wordOf_eq_some_iff {word : UInt64} :
    wordOf (some value) = some word ↔ Holds (some value) (some word) := by
  rw [wordOf, Option.bind_some, Text.word64?_trim_eq_some_iff]
  refine ⟨?_, fun holds => ?_⟩
  · rintro ⟨inner, padded, numeral⟩
    exact .set padded numeral
  · cases holds with
    | set padded numeral => exact ⟨_, padded, numeral⟩

theorem malformed_iff : Malformed value ↔ wordOf (some value) = none := by
  rw [Option.eq_none_iff_forall_ne_some]
  refine ⟨fun malformed word read => malformed _ (wordOf_eq_some_iff.1 read), ?_⟩
  intro none word holds
  cases holds with
  | set padded numeral => exact none _ (wordOf_eq_some_iff.2 (.set padded numeral))

theorem readVariable_of_holds {word : UInt64} (holds : Holds (some value) (some word))
    (name : String) : readVariable name value = .ok word :=
  readVariable_eq_ok_iff.2 (wordOf_eq_some_iff.2 holds)

theorem readVariable_of_malformed (malformed : Malformed value) (name : String) :
    readVariable name value = .error (.invalidVariable name value) := by
  rw [malformed_iff, wordOf, Option.bind_some] at malformed
  rw [readVariable, malformed]

/-- A variable holds one word at most. -/
theorem Holds.unique {word word' : Option UInt64} (h : Holds setting word)
    (h' : Holds setting word') : word = word' := by
  cases h with
  | unset => exact (holds_none_iff.1 h').symm
  | set padded numeral =>
    have read := wordOf_eq_some_iff.2 (.set padded numeral)
    cases h' with
    | set padded' numeral' =>
      rw [← read, wordOf_eq_some_iff.2 (.set padded' numeral')]

/-- A variable is as it should be or malformed. -/
theorem holds_or_malformed (setting : Option String) :
    (∃ word, Holds setting word) ∨ ∃ value, setting = some value ∧ Malformed value := by
  cases setting with
  | none => exact Or.inl ⟨none, .unset⟩
  | some value =>
    cases read : wordOf (some value) with
    | none => exact Or.inr ⟨value, rfl, malformed_iff.2 read⟩
    | some word => exact Or.inl ⟨some word, wordOf_eq_some_iff.1 read⟩

/-! ## One setting -/

theorem overrideBy_poolSize {size : Option UInt64} (holds : Holds setting size)
    (some : size ≠ some 0) (event : UInt64 → Event) : ∃ events,
      overrideBy setting c.overridePoolSize event c = .ok (c.setTo size none, events) := by
  cases holds with
  | unset => exact ⟨[], rfl⟩
  | @set _ _ size padded numeral =>
    have read := readVariable_of_holds (.set padded numeral) poolSizeVariable
    have set : c.withPoolSize size = .ok { c with poolSize := size } :=
      withPoolSize_eq_ok_iff.2 ⟨fun zero => some (congrArg _ zero), rfl⟩
    refine ⟨[event size], ?_⟩
    rw [overrideBy, overridePoolSize, read]
    simp only [bind, Except.bind, set]
    rfl

theorem overrideBy_timeout {millis : Option UInt64} (holds : Holds setting millis)
    (event : UInt64 → Event) : ∃ events,
      overrideBy setting c.overrideTimeout event c = .ok (c.setTo none millis, events) := by
  cases holds with
  | unset => exact ⟨[], rfl⟩
  | @set _ _ millis padded numeral =>
    have read := readVariable_of_holds (.set padded numeral) timeoutVariable
    refine ⟨[event millis], ?_⟩
    rw [overrideBy, overrideTimeout, read]
    rfl

theorem overrideBy_noThreads (zero : Holds setting (some 0)) (event : UInt64 → Event) :
    overrideBy setting c.overridePoolSize event c = .error (.invalidPoolSize 0) := by
  cases zero with
  | set padded numeral =>
    have read := readVariable_of_holds (.set padded numeral) poolSizeVariable
    rw [overrideBy, overridePoolSize, read]
    rfl

theorem overrideBy_badThreads (malformed : Malformed value) (event : UInt64 → Event) :
    overrideBy (some value) c.overridePoolSize event c
      = .error (.invalidVariable poolSizeVariable value) := by
  rw [overrideBy, overridePoolSize, readVariable_of_malformed malformed]
  rfl

theorem overrideBy_badTimeout (malformed : Malformed value) (event : UInt64 → Event) :
    overrideBy (some value) c.overrideTimeout event c
      = .error (.invalidVariable timeoutVariable value) := by
  rw [overrideBy, overrideTimeout, readVariable_of_malformed malformed]
  rfl

/-! ## Both settings -/

variable {lookup other : String → Option String}

theorem result_of_holds {size millis : Option UInt64}
    (threads : Holds (lookup poolSizeVariable) size) (some : size ≠ some 0)
    (timeout : Holds (lookup timeoutVariable) millis) :
    (c.withOverrides lookup).result = .ok (c.setTo size millis) := by
  obtain ⟨_, first⟩ := overrideBy_poolSize (c := c) threads some .poolSizeOverridden
  obtain ⟨_, second⟩ := overrideBy_timeout (c := c.setTo size none) timeout .timeoutOverridden
  simp only [withOverrides, first, second]
  rfl

theorem result_of_refused
    (refused : Refused (lookup poolSizeVariable) (lookup timeoutVariable) error) :
    (c.withOverrides lookup).result = .error error := by
  cases refused with
  | noThreads zero => simp only [withOverrides, overrideBy_noThreads zero]
  | badThreads set malformed =>
    simp only [withOverrides, set, overrideBy_badThreads malformed]
    rfl
  | badTimeout accepted set malformed =>
    obtain ⟨size, threads, some⟩ := accepted
    obtain ⟨_, first⟩ := overrideBy_poolSize (c := c) threads some .poolSizeOverridden
    simp only [withOverrides, first, set, overrideBy_badTimeout malformed]
    rfl

/-- Variables are accepted, or they are refused with some error. -/
theorem holds_or_refused (threads timeout : Option String) :
    (∃ size millis, Holds threads size ∧ size ≠ some 0 ∧ Holds timeout millis) ∨
      ∃ error, Refused threads timeout error := by
  rcases holds_or_malformed threads with ⟨size, holds⟩ | ⟨value, set, malformed⟩
  · by_cases zero : size = some 0
    · exact Or.inr ⟨_, .noThreads (zero ▸ holds)⟩
    · rcases holds_or_malformed timeout with ⟨millis, holds'⟩ | ⟨value, set, malformed⟩
      · exact Or.inl ⟨size, millis, holds, zero, holds'⟩
      · exact Or.inr ⟨_, .badTimeout ⟨size, holds, zero⟩ set malformed⟩
  · exact Or.inr ⟨_, .badThreads set malformed⟩

theorem asked_of_accepted (accepted : Accepted (lookup poolSizeVariable)) :
    (c.withOverrides lookup).asked = [poolSizeVariable, timeoutVariable] := by
  obtain ⟨size, threads, some⟩ := accepted
  obtain ⟨_, first⟩ := overrideBy_poolSize (c := c) threads some .poolSizeOverridden
  simp only [withOverrides, first]
  split <;> rfl

theorem asked_of_not_accepted (refused : ¬ Accepted (lookup poolSizeVariable)) :
    (c.withOverrides lookup).asked = [poolSizeVariable] := by
  rcases holds_or_malformed (lookup poolSizeVariable) with ⟨size, holds⟩ | ⟨value, set, malformed⟩
  · by_cases zero : size = some 0
    · simp only [withOverrides, overrideBy_noThreads (zero ▸ holds)]
    · exact absurd ⟨size, holds, zero⟩ refused
  · simp only [withOverrides, set, overrideBy_badThreads malformed]

/-- A variable that is not asked for has no influence. -/
theorem withOverrides_of_agree
    (agree : ∀ name ∈ (c.withOverrides lookup).asked, other name = lookup name) :
    c.withOverrides other = c.withOverrides lookup := by
  unfold withOverrides at agree ⊢
  split at agree
  · next refused =>
    rw [agree _ List.mem_cons_self, refused]
  · next first =>
    have both : other poolSizeVariable = lookup poolSizeVariable ∧
        other timeoutVariable = lookup timeoutVariable := by
      split at agree <;>
        exact ⟨agree _ List.mem_cons_self, agree _ (List.mem_cons_of_mem _ List.mem_cons_self)⟩
    rw [both.1, both.2, first]

/-! ## The whole -/

theorem result_eq_ok_iff : (c.withOverrides lookup).result = .ok c' ↔
    ∃ size millis, Holds (lookup poolSizeVariable) size ∧ size ≠ some 0 ∧
      Holds (lookup timeoutVariable) millis ∧ c' = c.setTo size millis := by
  refine ⟨fun h => ?_, ?_⟩
  · rcases holds_or_refused (lookup poolSizeVariable) (lookup timeoutVariable) with
      ⟨size, millis, threads, some, timeout⟩ | ⟨error, refused⟩
    · rw [result_of_holds threads some timeout, Except.ok.injEq] at h
      exact ⟨size, millis, threads, some, timeout, h.symm⟩
    · rw [result_of_refused refused] at h
      exact absurd h (by simp)
  · rintro ⟨size, millis, threads, some, timeout, rfl⟩
    exact result_of_holds threads some timeout

theorem result_eq_error_iff : (c.withOverrides lookup).result = .error error ↔
    Refused (lookup poolSizeVariable) (lookup timeoutVariable) error := by
  refine ⟨fun h => ?_, result_of_refused⟩
  rcases holds_or_refused (lookup poolSizeVariable) (lookup timeoutVariable) with
    ⟨size, millis, threads, some, timeout⟩ | ⟨error', refused⟩
  · rw [result_of_holds threads some timeout] at h
    exact absurd h (by simp)
  · rw [result_of_refused refused, Except.error.injEq] at h
    exact h ▸ refused

/-- Milliseconds that fit a word of 64 bits are whole seconds that fit one, and nanoseconds short of
a second. -/
theorem nanoseconds_of_millis (millis : UInt64) : ∃ (seconds : UInt64) (nanos : UInt32),
    nanos.toNat < 1000000000 ∧ millis.toNat * 1000000 = nanoseconds seconds.toNat nanos.toNat := by
  have short : millis.toNat % 1000 * 1000000 < 1000000000 := by omega
  have fits : millis.toNat % 1000 * 1000000 < UInt32.size := Nat.lt_trans short (by decide)
  refine ⟨millis / 1000, UInt32.ofNat (millis.toNat % 1000 * 1000000), ?_, ?_⟩
  · rwa [UInt32.toNat_ofNat_of_lt' fits]
  · rw [UInt32.toNat_ofNat_of_lt' fits, UInt64.toNat_div, nanoseconds, nanosPerSecond]
    show _ = millis.toNat / 1000 * 1000000000 + _
    omega

/-- Settings that are given again stay. -/
theorem setTo_setTo (c : Client) (size millis : Option UInt64) :
    (c.setTo size millis).setTo size millis = c.setTo size millis := by
  cases size <;> cases millis <;> rfl

/-- Overriding asks for the number of threads first, for the timeout only if the number of threads
is not set or accepted, and for nothing else. It succeeds exactly when each of the two is not set or
set to a numeral that fits a word of 64 bits, and the number of threads not to zero; what is set is
then replaced, the timeout by just so many milliseconds, and all else stays. Otherwise it is refused
for the number of threads, if that is bad, and else for the timeout. Overriding again changes
nothing. -/
theorem withOverrides_outcome (c : Client) (lookup : String → Option String) :
    (Accepted (lookup "DKC_DOCKER_THREAD_POOL_SIZE") →
      (c.withOverrides lookup).asked
        = ["DKC_DOCKER_THREAD_POOL_SIZE", "DKC_DOCKER_CONNECT_TIMEOUT_MS"]) ∧
    (¬ Accepted (lookup "DKC_DOCKER_THREAD_POOL_SIZE") →
      (c.withOverrides lookup).asked = ["DKC_DOCKER_THREAD_POOL_SIZE"]) ∧
    (∀ other : String → Option String,
      (∀ name ∈ (c.withOverrides lookup).asked, other name = lookup name) →
        c.withOverrides other = c.withOverrides lookup) ∧
    (∀ c', (c.withOverrides lookup).result = .ok c' ↔
      ∃ size millis, Holds (lookup "DKC_DOCKER_THREAD_POOL_SIZE") size ∧ size ≠ some 0 ∧
        Holds (lookup "DKC_DOCKER_CONNECT_TIMEOUT_MS") millis ∧ c' = c.setTo size millis) ∧
    (∀ c' millis, (c.withOverrides lookup).result = .ok c' →
      Holds (lookup "DKC_DOCKER_CONNECT_TIMEOUT_MS") (some millis) →
        ∃ (seconds : UInt64) (nanos : UInt32), nanos.toNat < 1000000000 ∧
          c'.timeout = nanoseconds seconds.toNat nanos.toNat) ∧
    (∀ error, (c.withOverrides lookup).result = .error error ↔
      Refused (lookup "DKC_DOCKER_THREAD_POOL_SIZE") (lookup "DKC_DOCKER_CONNECT_TIMEOUT_MS")
        error) ∧
    ∀ c', (c.withOverrides lookup).result = .ok c' → (c'.withOverrides lookup).result = .ok c' := by
  refine ⟨asked_of_accepted, asked_of_not_accepted, fun _ => withOverrides_of_agree,
    fun _ => result_eq_ok_iff, ?_, fun _ => result_eq_error_iff, ?_⟩
  · intro c' millis h timeout
    obtain ⟨size, millis', -, -, timeout', rfl⟩ := result_eq_ok_iff.1 h
    obtain rfl := timeout'.unique timeout
    exact nanoseconds_of_millis millis
  · intro c' h
    obtain ⟨size, millis, threads, some, timeout, rfl⟩ := result_eq_ok_iff.1 h
    exact result_eq_ok_iff.2 ⟨size, millis, threads, some, timeout, (c.setTo_setTo ..).symm⟩

/-- Variables for eight threads and for the longest timeout. -/
def spelled (name : String) : Option String :=
  some (if name = poolSizeVariable then "\u00A0+008\n" else "18446744073709551615")

/-- A client for a local daemon. -/
def localClient : Client :=
  ⟨"tcp://localhost:2375", false, 1, defaultTimeout⟩

theorem withOverrides_outcome_spelled :
    (localClient.withOverrides spelled).result
      = .ok ⟨"tcp://localhost:2375", false, 8, 18446744073709551615000000⟩ ∧
    (∃ (seconds : UInt64) (nanos : UInt32), nanos.toNat < 1000000000 ∧
      18446744073709551615000000 = nanoseconds seconds.toNat nanos.toNat) ∧
    (localClient.withOverrides fun _ => some "+000").result = .error (.invalidPoolSize 0) := by
  have eight : Holds (spelled "DKC_DOCKER_THREAD_POOL_SIZE") (some 8) :=
    wordOf_eq_some_iff.1 (by decide +kernel)
  have longest : Holds (spelled "DKC_DOCKER_CONNECT_TIMEOUT_MS") (some 18446744073709551615) :=
    wordOf_eq_some_iff.1 (by decide +kernel)
  have zero : Holds (some "+000") (some 0) := wordOf_eq_some_iff.1 (by decide +kernel)
  obtain ⟨-, -, -, accepted, exact, -, -⟩ := withOverrides_outcome localClient spelled
  obtain ⟨-, -, -, -, -, refused, -⟩ := withOverrides_outcome localClient fun _ => some "+000"
  have result := (accepted _).2 ⟨some 8, some 18446744073709551615, eight, by simp, longest, rfl⟩
  exact ⟨result, exact _ _ result longest, (refused _).2 (.noThreads zero)⟩

end CloudImages.Client
