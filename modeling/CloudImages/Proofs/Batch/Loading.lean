import CloudImages.Proofs.Batch.Repeats
import CloudImages.Proofs.Definition.Rules
import Mathlib.Data.List.Forall2

set_option autoImplicit false

/-! # How a batch comes out

The properties decide which of three things happens: no text is given for the images (`Absent`), the
text is no list of definitions that are all accepted (`Unreadable`), or it gives images (`Gives`).
Exactly one of these holds, and each settles how the load comes out and what is logged
(`load_of_absent`, `load_of_unreadable`, `load_of_gives`). -/

namespace CloudImages.Batch

open Json Outcome

variable {properties : Properties} {pools : Option (List PoolAssignment)}

/-! ## The three cases -/

/-- The pools that can be read among the properties. -/
def pools? (properties : Properties) : Option (List PoolAssignment) :=
  (properties.lookup poolsKey).bind fun text => (PoolAssignment.ofText text).toOption

/-- A text that is not empty is given for the images. -/
def Provided (properties : Properties) (text : String) : Prop :=
  properties.lookup imagesKey = some text ∧ text ≠ ""

/-- No text is given for the images, or an empty one. -/
def Absent (properties : Properties) : Prop :=
  properties.lookup imagesKey = none ∨ properties.lookup imagesKey = some ""

/-- The text for the images is no list, or a definition in it is rejected. -/
def Unreadable (properties : Properties) : Prop :=
  ∃ text, Provided properties text ∧ ∀ definitions, Value.parse text = .ok (.array definitions) →
    ∃ definition ∈ definitions, ∃ error,
      Image.ofDefinition definition (pools? properties) = .error error

/-- The text for the images is a list of definitions from which the images are read, one from each
and in order. -/
def Gives (properties : Properties) (images : List Image) : Prop :=
  ∃ text definitions, Provided properties text ∧ Value.parse text = .ok (.array definitions) ∧
    List.Forall₂ (fun definition image =>
      Image.ofDefinition definition (pools? properties) = .ok image) definitions images

/-! ## Reading the definitions -/

theorem readDefinitions_eq_ok_iff {definitions : List Value} {images : List Image} :
    readDefinitions pools definitions = .ok images ↔
      List.Forall₂ (fun definition image => Image.ofDefinition definition pools = .ok image)
        definitions images := by
  induction definitions generalizing images with
  | nil => simp [readDefinitions, eq_comm]
  | cons definition rest ih =>
    constructor
    · intro h
      obtain ⟨image, first, h₁⟩ := bind_eq_ok_iff.1 h
      obtain ⟨others, read, h₂⟩ := bind_eq_ok_iff.1 h₁
      obtain rfl := pure_eq_ok_iff.1 h₂
      exact List.Forall₂.cons first (ih.1 read)
    · intro h
      rcases h with _ | ⟨first, others⟩
      exact bind_eq_ok_iff.2 ⟨_, first, bind_eq_ok_iff.2 ⟨_, ih.2 others, rfl⟩⟩

theorem readDefinitions_eq_error_iff {definitions : List Value} :
    (∃ error, readDefinitions pools definitions = .error error) ↔
      ∃ definition ∈ definitions, ∃ error, Image.ofDefinition definition pools = .error error := by
  induction definitions with
  | nil => simp [readDefinitions]
  | cons definition rest ih =>
    -- the first definition decides, unless it is accepted
    cases first : Image.ofDefinition definition pools with
    | error error => simp [readDefinitions, first, bind, Except.bind]
    | ok image =>
      rw [List.exists_mem_cons_iff, first, ← ih]
      cases others : readDefinitions pools rest <;>
        simp [readDefinitions, first, others, bind, Except.bind, pure, Except.pure]

theorem readImages_eq_ok_iff {text : String} {images : List Image} :
    readImages pools text = .ok images ↔ ∃ definitions,
      Value.parse text = .ok (.array definitions) ∧
        readDefinitions pools definitions = .ok images := by
  constructor
  · intro h
    unfold readImages at h
    split at h
    · exact absurd h (by simp)
    · next definitions listed =>
      obtain ⟨v, parsed, elements⟩ := bind_eq_ok_iff.1 listed
      obtain rfl := Value.elements_eq_ok_iff.1 elements
      split at h
      · exact absurd h (by simp)
      · next found read =>
        cases h
        exact ⟨definitions, parsed, read⟩
  · intro h
    obtain ⟨definitions, parsed, read⟩ := h
    have listed : (Value.parse text >>= Value.elements) = .ok definitions :=
      bind_eq_ok_iff.2 ⟨_, parsed, rfl⟩
    simp only [readImages, listed, read]

/-- Whatever stands in the second list has a partner in the first. -/
theorem exists_partner {α β : Type} {R : α → β → Prop} {as : List α} {bs : List β}
    (h : List.Forall₂ R as bs) {b : β} (member : b ∈ bs) : ∃ a ∈ as, R a b := by
  induction h with
  | nil => exact absurd member List.not_mem_nil
  | @cons a first as bs related _ ih =>
    rcases List.mem_cons.1 member with rfl | later
    · exact ⟨a, List.mem_cons_self, related⟩
    · obtain ⟨a', there, related'⟩ := ih later
      exact ⟨a', List.mem_cons_of_mem a there, related'⟩

/-- Every image comes from a definition in the list. -/
theorem definition_of_mem {images : List Image} (h : Gives properties images) {image : Image}
    (member : image ∈ images) :
    ∃ text definitions definition, Value.parse text = .ok (.array definitions) ∧
      definition ∈ definitions ∧
        Image.ofDefinition definition (pools? properties) = .ok image := by
  obtain ⟨text, definitions, -, parsed, described⟩ := h
  obtain ⟨definition, there, read⟩ := exists_partner described member
  exact ⟨text, definitions, definition, parsed, there, read⟩

/-! ## Loading -/

theorem readPools_fst (properties : Properties) :
    (readPools properties).1 = pools? properties := by
  unfold readPools pools?
  split
  · next absent => rw [absent, Option.bind_none]
  · next text there =>
    rw [there, Option.bind_some]
    split
    · next pools read => rw [read, Except.toOption]
    · next fault read => rw [read, Except.toOption]

theorem load_of_absent (h : Absent properties) :
    load properties = ⟨.error (reject [.noImage]), (readPools properties).2⟩ := by
  rcases h with absent | empty
  · simp [load, absent]
  · simp [load, empty]

theorem load_of_provided {text : String} (h : Provided properties text) :
    load properties = ⟨(loadText (pools? properties) text).result,
      (readPools properties).2 ++ (loadText (pools? properties) text).events⟩ := by
  obtain ⟨given, some⟩ := h
  simp [load, given, readPools_fst]

theorem load_of_unreadable (h : Unreadable properties) :
    ∃ cause, load properties
      = ⟨.error (reject [.unreadable]), (readPools properties).2 ++ [.rejected cause]⟩ := by
  obtain ⟨text, provided, rejected⟩ := h
  cases read : readImages (pools? properties) text with
  | error cause =>
    refine ⟨cause, ?_⟩
    simp only [load_of_provided provided, loadText, read]
  | ok images =>
    -- all definitions are accepted, so none is rejected
    obtain ⟨definitions, parsed, found⟩ := readImages_eq_ok_iff.1 read
    obtain ⟨error, failed⟩ := readDefinitions_eq_error_iff.2 (rejected definitions parsed)
    rw [found] at failed
    exact absurd failed (by simp)

theorem load_of_gives {images : List Image} (h : Gives properties images) :
    load properties =
      if (images.map Image.profile).Nodup then
        ⟨.ok images, (readPools properties).2 ++ [.loaded images.length]⟩
      else
        ⟨.error (reject ((recurring (images.map Image.profile)).map .repeatedProfile)),
          (readPools properties).2⟩ := by
  obtain ⟨text, definitions, provided, parsed, described⟩ := h
  have read : readImages (pools? properties) text = .ok images :=
    readImages_eq_ok_iff.2 ⟨definitions, parsed, readDefinitions_eq_ok_iff.2 described⟩
  simp only [load_of_provided provided, loadText, read, repeats_eq_recurring]
  split
  · next none => rw [if_pos (recurring_eq_nil_iff.1 none)]
  · next some => rw [if_neg fun distinct => some (recurring_eq_nil_iff.2 distinct), List.append_nil]

theorem not_unreadable_of_gives {images : List Image} (h : Gives properties images) :
    ¬ Unreadable properties := by
  intro h
  obtain ⟨text, ⟨given, -⟩, rejected⟩ := h
  obtain ⟨text', definitions, ⟨given', -⟩, parsed, described⟩ := h
  obtain rfl : text' = text := Option.some.inj (given'.symm.trans given)
  obtain ⟨error, failed⟩ := readDefinitions_eq_error_iff.2 (rejected definitions parsed)
  rw [readDefinitions_eq_ok_iff.2 described] at failed
  exact absurd failed (by simp)

theorem not_absent_of_provided {text : String} (h : Provided properties text) :
    ¬ Absent properties := by
  obtain ⟨given, some⟩ := h
  intro h
  rcases h with absent | empty
  · exact absurd (given.symm.trans absent) (by simp)
  · exact some (Option.some.inj (given.symm.trans empty))

theorem not_absent_of_unreadable (h : Unreadable properties) : ¬ Absent properties := by
  obtain ⟨text, provided, -⟩ := h
  exact not_absent_of_provided provided

theorem not_absent_of_gives {images : List Image} (h : Gives properties images) :
    ¬ Absent properties := by
  obtain ⟨text, definitions, provided, -⟩ := h
  exact not_absent_of_provided provided

/-- One of the three cases holds for any properties. -/
theorem absent_or_unreadable_or_gives (properties : Properties) :
    Absent properties ∨ Unreadable properties ∨ ∃ images, Gives properties images := by
  cases given : properties.lookup imagesKey with
  | none => exact Or.inl (Or.inl given)
  | some text =>
    by_cases empty : text = ""
    · exact Or.inl (Or.inr (empty ▸ given))
    · right
      cases read : readImages (pools? properties) text with
      | ok images =>
        obtain ⟨definitions, parsed, found⟩ := readImages_eq_ok_iff.1 read
        exact Or.inr ⟨images, text, definitions, ⟨given, empty⟩, parsed,
          readDefinitions_eq_ok_iff.1 found⟩
      | error cause =>
        refine Or.inl ⟨text, ⟨given, empty⟩, ?_⟩
        intro definitions parsed
        refine readDefinitions_eq_error_iff.1 ?_
        cases found : readDefinitions (pools? properties) definitions with
        | error error => exact ⟨error, rfl⟩
        | ok images =>
          rw [readImages_eq_ok_iff.2 ⟨definitions, parsed, found⟩] at read
          exact absurd read (by simp)

theorem gives_of_load_eq_ok {images : List Image} (h : (load properties).result = .ok images) :
    Gives properties images ∧ (images.map Image.profile).Nodup := by
  rcases absent_or_unreadable_or_gives properties with absent | unreadable | ⟨found, gives⟩
  · rw [load_of_absent absent] at h
    exact absurd h (by simp)
  · obtain ⟨cause, loaded⟩ := load_of_unreadable unreadable
    rw [loaded] at h
    exact absurd h (by simp)
  · rw [load_of_gives gives] at h
    split at h
    · next distinct =>
      cases h
      exact ⟨gives, distinct⟩
    · exact absurd h (by simp)

/-- The images of a batch: they are loaded exactly when a text is given that is a list of
definitions, each definition is accepted, and no two of the images read from them have the same
profile; and then there is one image for each definition, in order. -/
theorem load_eq_ok_iff {images : List Image} :
    (load properties).result = .ok images ↔
      ∃ text definitions, Provided properties text ∧ Value.parse text = .ok (.array definitions) ∧
        List.Forall₂ (fun definition image =>
          Image.ofDefinition definition (pools? properties) = .ok image) definitions images ∧
        (images.map Image.profile).Nodup := by
  constructor
  · intro h
    obtain ⟨⟨text, definitions, provided, parsed, described⟩, distinct⟩ := gives_of_load_eq_ok h
    exact ⟨text, definitions, provided, parsed, described, distinct⟩
  · intro h
    obtain ⟨text, definitions, provided, parsed, described, distinct⟩ := h
    rw [load_of_gives ⟨text, definitions, provided, parsed, described⟩, if_pos distinct]

/-! ## Failures and log records -/

/-- One of three statements holds, and only one. -/
def ExactlyOne (a b c : Prop) : Prop :=
  (a ∨ b ∨ c) ∧ ¬ (a ∧ b) ∧ ¬ (a ∧ c) ∧ ¬ (b ∧ c)

/-- A text is given for the pools that cannot be read. -/
def PoolsUnreadable (properties : Properties) (fault : Fault) : Prop :=
  ∃ text, properties.lookup poolsKey = some text ∧ PoolAssignment.ofText text = .error fault

theorem readPools_snd (properties : Properties) :
    (∃ fault, PoolsUnreadable properties fault ∧
      (readPools properties).2 = [.poolsUnreadable fault]) ∨
    (∀ fault, ¬ PoolsUnreadable properties fault) ∧ (readPools properties).2 = [] := by
  unfold readPools
  split
  · next absent =>
    refine Or.inr ⟨?_, rfl⟩
    rintro fault ⟨text, given, -⟩
    exact absurd (given.symm.trans absent) (by simp)
  · next text there =>
    split
    · next pools read =>
      refine Or.inr ⟨?_, rfl⟩
      rintro fault ⟨other, given, failed⟩
      obtain rfl := Option.some.inj (given.symm.trans there)
      exact absurd (failed.symm.trans read) (by simp)
    · next fault read => exact Or.inl ⟨fault, ⟨text, there, read⟩, rfl⟩

theorem record_loaded (count : Nat) :
    (Event.loaded count).record = ⟨.debug, "loaded image profiles", [("count", count.repr)]⟩ := by
  rw [Event.record, Text.digits, Nat.repr_eq_ofList_toDigits]

theorem failures_noImage :
    (reject [.noImage]).failures = [⟨imagesKey, "no image provided"⟩] := rfl

theorem failures_unreadable :
    (reject [.unreadable]).failures = [⟨imagesKey, "cannot parse image data"⟩] := rfl

theorem failures_repeated (names : List String) :
    (reject (names.map .repeatedProfile)).failures
      = names.map fun name => ⟨imagesKey, "duplicate profile name: " ++ name⟩ := by
  rw [reject, List.map_map]
  rfl

theorem failures_cases {error : BatchError} (h : (load properties).result = .error error) :
    Absent properties ∧ error.failures = [⟨imagesKey, "no image provided"⟩] ∨
    Unreadable properties ∧ error.failures = [⟨imagesKey, "cannot parse image data"⟩] ∨
    ∃ images, Gives properties images ∧ ¬ (images.map Image.profile).Nodup ∧
      error.failures = (recurring (images.map Image.profile)).map
        fun name => ⟨imagesKey, "duplicate profile name: " ++ name⟩ := by
  rcases absent_or_unreadable_or_gives properties with absent | unreadable | ⟨images, gives⟩
  · rw [load_of_absent absent] at h
    cases h
    exact Or.inl ⟨absent, failures_noImage⟩
  · obtain ⟨cause, loaded⟩ := load_of_unreadable unreadable
    rw [loaded] at h
    cases h
    exact Or.inr (Or.inl ⟨unreadable, failures_unreadable⟩)
  · rw [load_of_gives gives] at h
    split at h
    · exact absurd h (by simp)
    · next repeated =>
      cases h
      exact Or.inr (Or.inr ⟨images, gives, repeated, failures_repeated _⟩)

/-- What is logged of the images: that their text is unreadable, how many were loaded, or
nothing. -/
theorem events_cases (properties : Properties) :
    ∃ news, (load properties).events = (readPools properties).2 ++ news ∧
      ((∃ cause, Unreadable properties ∧ news = [.rejected cause]) ∨
        (∃ images, (load properties).result = .ok images ∧ news = [.loaded images.length]) ∨
        ¬ Unreadable properties ∧ (∀ images, (load properties).result ≠ .ok images) ∧
          news = []) := by
  rcases absent_or_unreadable_or_gives properties with absent | unreadable | ⟨images, gives⟩
  · refine ⟨[], ?_, Or.inr (Or.inr ⟨?_, ?_, rfl⟩)⟩
    · rw [load_of_absent absent, List.append_nil]
    · exact fun ⟨text, provided, _⟩ => not_absent_of_provided provided absent
    · simp [load_of_absent absent]
  · obtain ⟨cause, loaded⟩ := load_of_unreadable unreadable
    exact ⟨[.rejected cause], by rw [loaded], Or.inl ⟨cause, unreadable, rfl⟩⟩
  · have loaded := load_of_gives gives
    split at loaded
    · refine ⟨[.loaded images.length], by rw [loaded], Or.inr (Or.inl ⟨images, ?_, rfl⟩)⟩
      rw [loaded]
    · refine ⟨[], by rw [loaded, List.append_nil], Or.inr (Or.inr ⟨?_, ?_, rfl⟩)⟩
      · exact not_unreadable_of_gives gives
      · simp [loaded]

/-- A rejected batch has failures, all of them of the property for the images: that there is no
text, that the text cannot be read, or one for each profile that stands earlier in the batch too.
What is logged is first that the pools are unreadable, if they are, and then that the images are
unreadable or how many were loaded; of the other failures nothing is logged. -/
theorem failures_and_records_of_load (properties : Properties) :
    (∀ error, (load properties).result = .error error →
      error.failures ≠ [] ∧ (∀ failure ∈ error.failures, failure.location = imagesKey) ∧
      ExactlyOne
        (Absent properties ∧ error.failures = [⟨imagesKey, "no image provided"⟩])
        (Unreadable properties ∧ error.failures = [⟨imagesKey, "cannot parse image data"⟩])
        (∃ images, Gives properties images ∧
          error.failures = (recurring (images.map Image.profile)).map
            (fun name => ⟨imagesKey, "duplicate profile name: " ++ name⟩) ∧
          error.failures.length
            = images.length - (images.map Image.profile).toFinset.card)) ∧
    ∃ warnings news, (load properties).events.map Event.record = warnings ++ news ∧
      ((∃ fault, PoolsUnreadable properties fault ∧ warnings =
          [⟨.warning, "failed to parse cloud image parameters", [("error", fault.message)]⟩]) ∨
        (∀ fault, ¬ PoolsUnreadable properties fault) ∧ warnings = []) ∧
      ((∃ cause : Cause, Unreadable properties ∧
          (∀ images, (load properties).result ≠ .ok images) ∧
          news = [⟨.debug, "rejecting image data", [("error", cause.message)]⟩]) ∨
        (∃ images, (load properties).result = .ok images ∧ ¬ Unreadable properties ∧
          news = [⟨.debug, "loaded image profiles", [("count", images.length.repr)]⟩]) ∨
        ¬ Unreadable properties ∧ (∀ images, (load properties).result ≠ .ok images) ∧
          news = []) := by
  constructor
  · intro error h
    have cases := failures_cases h
    -- the last three goals: no two of the cases go together
    refine ⟨?_, ?_, ?_, ?_, ?_, ?_⟩
    · rcases cases with ⟨-, failures⟩ | ⟨-, failures⟩ | ⟨images, -, repeated, failures⟩
      · simp [failures]
      · simp [failures]
      · rw [failures, ne_eq, List.map_eq_nil_iff, recurring_eq_nil_iff]
        exact repeated
    · rcases cases with ⟨-, failures⟩ | ⟨-, failures⟩ | ⟨images, -, -, failures⟩ <;>
        simp [failures]
    · rcases cases with absent | unreadable | ⟨images, gives, -, failures⟩
      · exact Or.inl absent
      · exact Or.inr (Or.inl unreadable)
      · refine Or.inr (Or.inr ⟨images, gives, failures, ?_⟩)
        rw [failures, List.length_map, length_recurring]
    · intro both
      exact not_absent_of_unreadable both.2.1 both.1.1
    · intro both
      obtain ⟨⟨absent, -⟩, images, gives, -⟩ := both
      exact not_absent_of_gives gives absent
    · intro both
      obtain ⟨⟨unreadable, -⟩, images, gives, -⟩ := both
      exact not_unreadable_of_gives gives unreadable
  · -- of the events, those of the pools come first
    obtain ⟨news, events, said⟩ := events_cases properties
    refine ⟨(readPools properties).2.map Event.record, news.map Event.record, ?_, ?_, ?_⟩
    · rw [events, List.map_append]
    · rcases readPools_snd properties with ⟨fault, unreadable, warned⟩ | ⟨readable, silent⟩
      · exact Or.inl ⟨fault, unreadable, by rw [warned]; rfl⟩
      · exact Or.inr ⟨readable, by rw [silent]; rfl⟩
    · rcases said with ⟨cause, unreadable, rfl⟩ | ⟨images, loaded, rfl⟩ | ⟨readable, failed, rfl⟩
      · refine Or.inl ⟨cause, unreadable, ?_, rfl⟩
        intro images loaded
        exact not_unreadable_of_gives (gives_of_load_eq_ok loaded).1 unreadable
      · refine Or.inr (Or.inl ⟨images, loaded, ?_, ?_⟩)
        · exact not_unreadable_of_gives (gives_of_load_eq_ok loaded).1
        · rw [List.map_singleton, record_loaded]
      · exact Or.inr (Or.inr ⟨readable, failed, rfl⟩)

end CloudImages.Batch
