import CloudImages.Proofs.Batch.Drafts
import CloudImages.Proofs.Text.Lines

set_option autoImplicit false

/-! # The message for a rejected batch

The message for a rejected batch is a heading and then the failures, joined by line feeds. A failure
quotes the name of a profile as it is, so it takes up more than one line if there is a line feed in
that name. Then there are more lines than failures, and another batch, with other failures, may be
rejected with the same message (`message_of_forgedName`). Where no failure holds a line feed, each
of them is a line of its own, and the message tells which failures there are
(`lines_of_load`). -/

namespace CloudImages

/-- A failure as it stands in the message for its batch. -/
def InvalidProperty.listed (failure : InvalidProperty) : String :=
  "  " ++ failure.location ++ ": " ++ failure.message

theorem InvalidProperty.listed_eq_describe (failure : InvalidProperty) :
    failure.listed = "  " ++ failure.describe := by
  simp only [listed, describe, String.append_assoc]

/-- The lines of a message are the heading, and then those of each failure. -/
theorem BatchError.lines_message {error : BatchError} (some : error.failures ≠ []) :
    Text.lines error.message = "invalid image configuration:" ::
      (error.failures.map InvalidProperty.listed).flatMap Text.lines := by
  have heading : "invalid image configuration:\n" = "invalid image configuration:" ++ "\n" := by
    decide
  have joined : error.message = "invalid image configuration:" ++ "\n" ++
      "\n".intercalate (error.failures.map fun failure => "  " ++ failure.describe) :=
    congrArg (· ++ _) heading
  have first : Text.lines "invalid image configuration:" = ["invalid image configuration:"] :=
    Text.lines_of_notMem (by decide)
  simp only [← InvalidProperty.listed_eq_describe] at joined
  rw [joined, Text.lines_append, first, Text.lines_intercalate (by simpa using some),
    List.singleton_append]

namespace Batch

variable {properties : Properties} {error : BatchError}

/-! ## Failures of a load -/

/-- A failure of the property for the images, with the given message. -/
def imagesFailure (message : String) : InvalidProperty :=
  { location := imagesKey, message }

theorem listed_imagesFailure_injective :
    Function.Injective fun message => (imagesFailure message).listed :=
  fun _ _ same => (String.append_right_inj _).1 same

/-- Whether there is a line feed in what is listed is up to the message. -/
theorem lineFeed_mem_listed_iff {message : String} :
    '\n' ∈ (imagesFailure message).listed.toList ↔ '\n' ∈ message.toList := by
  have location : '\n' ∉ ("  " ++ imagesKey ++ ": ").toList := by decide
  change '\n' ∈ ("  " ++ imagesKey ++ ": " ++ message).toList ↔ _
  rw [String.toList_append, List.mem_append]
  exact or_iff_right location

theorem failures_of_load (h : (load properties).result = .error error) :
    ∃ messages, messages ≠ [] ∧ error.failures = messages.map imagesFailure := by
  rcases failures_cases h with ⟨-, failures⟩ | ⟨-, failures⟩ | ⟨images, -, repeated, failures⟩
  · exact ⟨["no image provided"], List.cons_ne_nil _ _, failures⟩
  · exact ⟨["cannot parse image data"], List.cons_ne_nil _ _, failures⟩
  · refine ⟨(recurring (images.map Image.profile)).map ("duplicate profile name: " ++ ·), ?_, ?_⟩
    · rw [ne_eq, List.map_eq_nil_iff, recurring_eq_nil_iff]
      exact repeated
    · rw [failures, List.map_map]
      rfl

/-- No failure of a batch holds a line feed. -/
def OneLineEach (error : BatchError) : Prop :=
  ∀ failure ∈ error.failures, '\n' ∉ failure.message.toList

theorem lines_message_of_load (h : (load properties).result = .error error) :
    Text.lines error.message = "invalid image configuration:" ::
      (error.failures.map InvalidProperty.listed).flatMap Text.lines := by
  obtain ⟨messages, some, failures⟩ := failures_of_load h
  refine BatchError.lines_message ?_
  rw [failures, ne_eq, List.map_eq_nil_iff]
  exact some

theorem lines_message_eq_iff (h : (load properties).result = .error error) :
    Text.lines error.message
      = "invalid image configuration:" :: error.failures.map InvalidProperty.listed ↔
      OneLineEach error := by
  obtain ⟨messages, -, failures⟩ := failures_of_load h
  rw [lines_message_of_load h, List.cons_inj_right, Text.flatMap_lines_eq_self_iff, OneLineEach,
    failures, List.forall_mem_map, List.forall_mem_map, List.forall_mem_map]
  exact forall₂_congr fun _ _ => not_congr lineFeed_mem_listed_iff

theorem failures_eq_of_message_eq {others : Properties} {other : BatchError}
    (h : (load properties).result = .error error) (h' : (load others).result = .error other)
    (oneLine : OneLineEach error) (oneLine' : OneLineEach other)
    (same : error.message = other.message) : error.failures = other.failures := by
  obtain ⟨messages, -, failures⟩ := failures_of_load h
  obtain ⟨messages', -, failures'⟩ := failures_of_load h'
  have listed := (lines_message_eq_iff h).2 oneLine
  rw [same, (lines_message_eq_iff h').2 oneLine', List.cons_inj_right, failures, failures',
    List.map_map, List.map_map] at listed
  have messages_eq := List.map_injective_iff.2 listed_imagesFailure_injective listed
  rw [failures, failures', messages_eq]

/-- The message for a rejected batch has a line for its heading, and then the lines of what is
listed for each failure: two blanks, the location, a colon and what is wrong. That is one line for
each failure exactly when there is no line feed in any of them, and such failures can be told from
the message. -/
theorem lines_of_load (h : (load properties).result = .error error) :
    Text.lines error.message = "invalid image configuration:" ::
      (error.failures.map InvalidProperty.listed).flatMap Text.lines ∧
    (Text.lines error.message
      = "invalid image configuration:" :: error.failures.map InvalidProperty.listed ↔
      OneLineEach error) ∧
    ∀ {others : Properties} {other : BatchError}, (load others).result = .error other →
      OneLineEach error → OneLineEach other → error.message = other.message →
        error.failures = other.failures :=
  ⟨lines_message_of_load h, lines_message_eq_iff h, failures_eq_of_message_eq h⟩

/-- Definitions of the given profiles are all accepted; what is wrong is which of them repeat. -/
theorem reload_profiles (names : List String) (named : ∀ name ∈ names, name ≠ "")
    (repeated : ¬ names.Nodup) :
    (reload (names.map fun profile => { profile })).result
      = .error (reject ((recurring names).map .repeatedProfile)) := by
  have profiles : (names.map fun profile => ({ profile } : Draft)).map Draft.profile = names := by
    rw [List.map_map]
    exact List.map_id _
  rw [reload_of_acceptable, profiles, if_neg repeated]
  intro draft there
  obtain ⟨name, member, rfl⟩ := List.mem_map.1 there
  exact Draft.acceptable_defaults (named name member)

theorem lines_of_load_thrice : ∃ error,
    (reload [{ profile := "a" }, { profile := "a" }, { profile := "a" }]).result = .error error ∧
    OneLineEach error ∧
    Text.lines error.message = ["invalid image configuration:",
      "  run.var.teamcity.docker.cloud.img_param: duplicate profile name: a",
      "  run.var.teamcity.docker.cloud.img_param: duplicate profile name: a"] := by
  have rejected := reload_profiles ["a", "a", "a"] (by decide) (by decide)
  have oneLine : OneLineEach (reject ((recurring ["a", "a", "a"]).map .repeatedProfile)) := by
    unfold OneLineEach
    decide
  refine ⟨_, rejected, oneLine, ((lines_of_load rejected).2.1.2 oneLine).trans ?_⟩
  decide

/-- The name of a profile behind which a failure of another one seems to be listed. -/
def forgedName : String :=
  "a\n  run.var.teamcity.docker.cloud.img_param: duplicate profile name: b"

/-- With a line feed in the name of a profile there are more lines than failures, and the message is
the one for a batch with other failures. -/
theorem message_of_forgedName : ∃ error other,
    (reload [{ profile := forgedName }, { profile := forgedName }]).result = .error error ∧
    (reload [{ profile := "a" }, { profile := "b" }, { profile := "a" }, { profile := "b" }]).result
      = .error other ∧
    error.failures.length = 1 ∧ (Text.lines error.message).length = 3 ∧
    error.failures ≠ other.failures ∧ error.message = other.message := by
  have forged := reload_profiles [forgedName, forgedName] (by decide) (by decide)
  have plain := reload_profiles ["a", "b", "a", "b"] (by decide) (by decide)
  refine ⟨_, _, forged, plain, ?_, ?_, ?_, ?_⟩
  · rfl
  · decide +kernel
  · decide
  · decide +kernel

end Batch

end CloudImages
