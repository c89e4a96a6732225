import CloudImages.Client.Overrides
import CloudImages.Proofs.Outcome

set_option autoImplicit false

/-! # Settings after any number of steps

A client is set up step by step: a setting is set, or settings are overridden by variables. A step
that is rejected leaves the client as it was. After any run of steps the settings are sound, and
each of them is the one that was given last by a step that succeeded (`run_settings`).

One step is looked at once, in `Step.leads_of_apply`: what it gives for each setting, and that the
others stay. The rest is by induction over the run. -/

namespace CloudImages.Client

open Outcome

/-! ## Steps -/

/-- A step in setting up a client. -/
inductive Step where
  | tls (on : Bool)
  | poolSize (size : UInt64)
  /-- Sets the timeout, in nanoseconds. -/
  | timeout (nanos : Nat)
  | overrides (lookup : String → Option String)

/-- Takes a step. -/
def Step.apply (c : Client) : Step → Except ClientError Client
  | .tls on => .ok (c.withTls on)
  | .poolSize size => c.withPoolSize size
  | .timeout nanos => .ok (c.withTimeout nanos)
  | .overrides lookup => (c.withOverrides lookup).result

/-- The client after a step: one that is rejected leaves it as it was. -/
def after (c : Client) (step : Step) : Client :=
  match step.apply c with
  | .ok c' => c'
  | .error _ => c

/-- The client after a run of steps. -/
def run (c : Client) (steps : List Step) : Client :=
  steps.foldl after c

/-! ## What steps give -/

/-- The word in a variable, if the variable is set and holds one. -/
def wordOf (setting : Option String) : Option UInt64 :=
  setting.bind fun value => Text.word64? (Text.trim value.toList)

namespace Step

/-- What a step gives for TLS. -/
def tls? : Step → Option Bool
  | .tls on => some on
  | .poolSize _ | .timeout _ | .overrides _ => none

/-- What a step gives for the number of threads. -/
def poolSize? : Step → Option UInt64
  | .poolSize size => some size
  | .overrides lookup => wordOf (lookup poolSizeVariable)
  | .tls _ | .timeout _ => none

/-- What a step gives for the timeout, in nanoseconds; the variable holds milliseconds. -/
def timeout? : Step → Option Nat
  | .timeout nanos => some nanos
  | .overrides lookup => (wordOf (lookup timeoutVariable)).map fun millis => millis.toNat * 1000000
  | .tls _ | .poolSize _ => none

end Step

/-- The steps of a run that succeed. -/
def successes (c : Client) : List Step → List Step
  | [] => []
  | step :: rest =>
    match step.apply c with
    | .ok c' => step :: successes c' rest
    | .error _ => successes c rest

/-- What is given for a setting by the last step of a run that succeeds and gives something for it,
`initial` if there is no such step. -/
def lastGiven {α : Type} (given : Step → Option α) (initial : α) (c : Client) (steps : List Step) :
    α :=
  ((successes c steps).filterMap given).getLastD initial

/-! ## One step -/

variable {c c' : Client}

theorem readVariable_eq_ok_iff {name value : String} {word : UInt64} :
    readVariable name value = .ok word ↔ wordOf (some value) = some word := by
  rw [readVariable, wordOf, Option.bind_some]
  split
  · next found => rw [found, Except.ok.injEq, Option.some.injEq]
  · next none => simp [none]

theorem withPoolSize_eq_ok_iff {size : UInt64} :
    c.withPoolSize size = .ok c' ↔ size ≠ 0 ∧ c' = { c with poolSize := size } := by
  rw [withPoolSize]
  split
  · next zero => simp [zero]
  · next some => simp [some, eq_comm]

theorem overridePoolSize_of_ok {setting : Option String} {event : UInt64 → Event}
    {events : List Event}
    (h : overrideBy setting c.overridePoolSize event c = .ok (c', events)) :
    wordOf setting ≠ some 0 ∧ c' = { c with poolSize := (wordOf setting).getD c.poolSize } := by
  cases setting with
  | none =>
    cases h
    exact ⟨by simp [wordOf], rfl⟩
  | some value =>
    obtain ⟨⟨_, word⟩, overridden, same⟩ := map_eq_ok_iff.1 h
    cases same
    obtain ⟨size, read, h₁⟩ := bind_eq_ok_iff.1 overridden
    obtain ⟨_, set, h₂⟩ := bind_eq_ok_iff.1 h₁
    cases pure_eq_ok_iff.1 h₂
    obtain ⟨some, rfl⟩ := withPoolSize_eq_ok_iff.1 set
    rw [readVariable_eq_ok_iff.1 read]
    exact ⟨by simpa using some, rfl⟩

theorem overrideTimeout_of_ok {setting : Option String} {event : UInt64 → Event}
    {events : List Event}
    (h : overrideBy setting c.overrideTimeout event c = .ok (c', events)) :
    c' = { c with timeout :=
      ((wordOf setting).map fun millis => millis.toNat * 1000000).getD c.timeout } := by
  cases setting with
  | none =>
    cases h
    rfl
  | some value =>
    obtain ⟨⟨_, word⟩, overridden, same⟩ := map_eq_ok_iff.1 h
    cases same
    obtain ⟨millis, read, h₁⟩ := bind_eq_ok_iff.1 overridden
    cases pure_eq_ok_iff.1 h₁
    rw [readVariable_eq_ok_iff.1 read]
    rfl

/-- The client that a step leads to: what the step gives is set, and everything else stays. No step
that succeeds gives no threads. -/
structure Step.Leads (step : Step) (c c' : Client) : Prop where
  uri : c'.uri = c.uri
  tls : c'.tls = step.tls?.getD c.tls
  poolSize : c'.poolSize = step.poolSize?.getD c.poolSize
  timeout : c'.timeout = step.timeout?.getD c.timeout
  threads : step.poolSize? ≠ some 0

theorem Step.Leads.poolSize_ne_zero {step : Step} (h : step.Leads c c') (some : c.poolSize ≠ 0) :
    c'.poolSize ≠ 0 := by
  rw [h.poolSize]
  cases given : step.poolSize? with
  | none => exact some
  | some size =>
    rintro rfl
    exact h.threads given

theorem Step.leads_of_apply {step : Step} (h : step.apply c = .ok c') : step.Leads c c' := by
  cases step with
  | tls on =>
    cases h
    exact ⟨rfl, rfl, rfl, rfl, nofun⟩
  | poolSize size =>
    obtain ⟨some, rfl⟩ := withPoolSize_eq_ok_iff.1 h
    exact ⟨rfl, rfl, rfl, rfl, fun zero => some (Option.some.inj zero)⟩
  | timeout nanos =>
    cases h
    exact ⟨rfl, rfl, rfl, rfl, nofun⟩
  | overrides lookup =>
    simp only [apply, withOverrides] at h
    split at h
    · exact absurd h (by simp)
    · next between _ first =>
      split at h
      · exact absurd h (by simp)
      · next second =>
        cases h
        obtain ⟨threads, rfl⟩ := overridePoolSize_of_ok first
        obtain rfl := overrideTimeout_of_ok second
        exact ⟨rfl, rfl, rfl, rfl, threads⟩

/-! ## Runs -/

/-- What every step that succeeds keeps holds after a run. -/
theorem run_invariant {I : Client → Prop}
    (step : ∀ {step c c'}, I c → Step.apply c step = .ok c' → I c') (start : I c)
    (steps : List Step) : I (run c steps) := by
  induction steps generalizing c with
  | nil => exact start
  | cons first rest ih =>
    refine ih ?_
    rw [after]
    split
    · next taken => exact step start taken
    · exact start

/-- A setting that each step sets to what it gives for it is what was given last. -/
theorem run_eq_lastGiven {α : Type} (setting : Client → α) (given : Step → Option α)
    (step : ∀ {step c c'}, Step.apply c step = .ok c' →
      setting c' = (given step).getD (setting c))
    (c : Client) (steps : List Step) :
    setting (run c steps) = lastGiven given (setting c) c steps := by
  induction steps generalizing c with
  | nil => rfl
  | cons first rest ih =>
    have behind : run c (first :: rest) = run (after c first) rest := rfl
    cases taken : first.apply c with
    | error error => simp only [behind, after, taken, ih, lastGiven, successes]
    | ok c' =>
      simp only [behind, after, taken, ih, lastGiven, successes, step taken]
      cases gives : given first with
      | none => rw [List.filterMap_cons_none gives, Option.getD_none]
      | some a => rw [List.filterMap_cons_some gives, List.getLastD_cons, Option.getD_some]

/-- A step that is rejected leaves no trace in a run. -/
theorem run_of_rejected {before rest : List Step} {step : Step} {error : ClientError}
    (rejected : step.apply (run c before) = .error error) :
    run c (before ++ step :: rest) = run c (before ++ rest) := by
  have stays : after (run c before) step = run c before := by rw [after, rejected]
  simp only [run, List.foldl_append, List.foldl_cons] at stays ⊢
  rw [stays]

theorem settings_of_create {uri : String} {start : Client} (h : create uri = .ok start) :
    start.uri = uri ∧ start.tls = false ∧ start.poolSize = 1 ∧
      start.timeout = 60 * 1000000000 := by
  rw [create] at h
  split at h
  · cases h
    exact ⟨rfl, rfl, rfl, rfl⟩
  · exact absurd h (by simp)

theorem one_le_toNat {size : UInt64} (some : size ≠ 0) : 1 ≤ size.toNat :=
  Nat.pos_of_ne_zero fun zero => some (UInt64.toNat_inj.1 zero)

theorem timeout?_eq_none_iff : c.timeout? = none ↔ c.timeout = 0 := by
  rw [timeout?]
  split
  · next zero => exact iff_of_true rfl zero
  · next some => exact iff_of_false nofun some

theorem timeout?_eq_some_iff {nanos : Nat} :
    c.timeout? = some nanos ↔ c.timeout = nanos ∧ nanos ≠ 0 := by
  rw [timeout?]
  split
  · next zero => exact iff_of_false nofun fun h => h.2 (h.1.symm.trans zero)
  · next some =>
    rw [Option.some.injEq]
    exact ⟨fun same => ⟨same, same ▸ some⟩, fun h => h.1⟩

/-- Whatever steps are taken with a new client, its address stays, it has a thread at least, and it
never waits for no time at all. Each of its settings is the one that the last successful step gave
that gave any, or the initial one: no TLS, one thread, a minute. It waits for ever exactly when that
time is zero. And an overriding that is rejected leaves no trace, whatever it had set before. -/
theorem run_settings {uri : String} {start : Client} (created : create uri = .ok start)
    (steps : List Step) :
    (run start steps).uri = uri ∧ 1 ≤ (run start steps).poolSize.toNat ∧
    (run start steps).timeout? ≠ some 0 ∧
    (run start steps).tls = lastGiven Step.tls? false start steps ∧
    (run start steps).poolSize = lastGiven Step.poolSize? 1 start steps ∧
    (∀ nanos, (run start steps).timeout? = some nanos →
      nanos = lastGiven Step.timeout? (60 * 1000000000) start steps) ∧
    ((run start steps).timeout? = none ↔
      lastGiven Step.timeout? (60 * 1000000000) start steps = 0) ∧
    ∀ before lookup rest, steps = before ++ .overrides lookup :: rest →
      (∃ error, ((run start before).withOverrides lookup).result = .error error) →
        run start steps = run start (before ++ rest) := by
  obtain ⟨address, noTls, oneThread, aMinute⟩ := settings_of_create created
  have sound : (run start steps).uri = uri ∧ (run start steps).poolSize ≠ 0 := by
    refine run_invariant (I := fun c => c.uri = uri ∧ c.poolSize ≠ 0) ?_ ?_ steps
    · intro step c c' kept taken
      have leads := Step.leads_of_apply taken
      exact ⟨leads.uri.trans kept.1, leads.poolSize_ne_zero kept.2⟩
    · exact ⟨address, by rw [oneThread]; decide⟩
  have tlsGiven := run_eq_lastGiven Client.tls Step.tls?
    (fun taken => (Step.leads_of_apply taken).tls) start steps
  have poolSizeGiven := run_eq_lastGiven Client.poolSize Step.poolSize?
    (fun taken => (Step.leads_of_apply taken).poolSize) start steps
  have timeoutGiven := run_eq_lastGiven Client.timeout Step.timeout?
    (fun taken => (Step.leads_of_apply taken).timeout) start steps
  rw [noTls] at tlsGiven
  rw [oneThread] at poolSizeGiven
  rw [aMinute] at timeoutGiven
  refine ⟨sound.1, one_le_toNat sound.2, ?_, tlsGiven, poolSizeGiven, ?_, ?_, ?_⟩
  · exact fun zero => (timeout?_eq_some_iff.1 zero).2 rfl
  · intro nanos waits
    rw [← timeoutGiven, (timeout?_eq_some_iff.1 waits).1]
  · rw [timeout?_eq_none_iff, timeoutGiven]
  · rintro before lookup rest rfl ⟨error, rejected⟩
    exact run_of_rejected rejected

/-- Variables for eight threads and for a timeout that is no number. -/
def badTimeout (name : String) : Option String :=
  some (if name = poolSizeVariable then "8" else "soon")

theorem run_settings_badTimeout :
    ∃ start, create "tcp://localhost:2375" = .ok start ∧
      (run start [.poolSize 4, .overrides badTimeout, .timeout 0]).poolSize = 4 ∧
      (run start [.poolSize 4, .overrides badTimeout, .timeout 0]).timeout? = none := by
  have created : create "tcp://localhost:2375" =
      .ok ⟨"tcp://localhost:2375", false, 1, 60 * 1000000000⟩ := if_pos (by decide +kernel)
  obtain ⟨-, -, -, -, threads, -, forEver, -⟩ :=
    run_settings created [.poolSize 4, .overrides badTimeout, .timeout 0]
  exact ⟨_, created, threads.trans (by decide), forEver.2 (by decide)⟩

end CloudImages.Client
