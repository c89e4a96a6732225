import CloudImages.Proofs.Batch.Loading
import CloudImages.Proofs.Definition.Drafts

set_option autoImplicit false

/-! # Drafts that are written and loaded

A batch of drafts is written as a text, and the text is loaded. How that comes out is told from the
drafts alone (`reload_result`): which of them are acceptable, and which of their profiles stand
earlier too. -/

namespace CloudImages.Batch

/-- Loads the text of drafts, without pools. -/
def reload (drafts : List Draft) : Report :=
  load (properties (some (Draft.renderAll drafts)) none)

/-! ## The properties of drafts -/

theorem lookup_imagesKey (text : String) :
    (properties (some text) none).lookup imagesKey = some text := by
  simp [properties]

theorem lookup_poolsKey (text : String) :
    (properties (some text) none).lookup poolsKey = none := by
  have other : (poolsKey == imagesKey) = false := by decide
  simp [properties, List.lookup_cons, other]

theorem pools?_properties (text : String) : pools? (properties (some text) none) = none := by
  rw [pools?, lookup_poolsKey, Option.bind_none]

theorem provided_renderAll (drafts : List Draft) :
    Provided (properties (some (Draft.renderAll drafts)) none) (Draft.renderAll drafts) := by
  refine ⟨lookup_imagesKey _, ?_⟩
  intro empty
  have bracket : (Draft.renderAll drafts).toList ≠ [] := by
    simp [Draft.renderAll, Json.Value.render, Json.Value.text, Json.Value.lexemes,
      Json.Lexeme.text]
  exact bracket (by rw [empty]; rfl)

theorem gives_of_acceptable {drafts : List Draft} (h : ∀ draft ∈ drafts, draft.Acceptable) :
    Gives (properties (some (Draft.renderAll drafts)) none) (drafts.map Draft.toImage) := by
  refine ⟨_, _, provided_renderAll drafts, Draft.parse_renderAll drafts, ?_⟩
  rw [pools?_properties, List.forall₂_map_left_iff, List.forall₂_map_right_iff, List.forall₂_same]
  exact fun draft there => Draft.ofDefinition_of_acceptable (h draft there)

theorem unreadable_of_not_acceptable {drafts : List Draft}
    (h : ∃ draft ∈ drafts, ¬ draft.Acceptable) :
    Unreadable (properties (some (Draft.renderAll drafts)) none) := by
  obtain ⟨draft, there, broken⟩ := h
  refine ⟨_, provided_renderAll drafts, ?_⟩
  intro definitions parsed
  rw [Draft.parse_renderAll, Except.ok.injEq, Json.Value.array.injEq] at parsed
  rw [pools?_properties, ← parsed]
  exact ⟨draft.toValue, List.mem_map_of_mem there, Draft.ofDefinition_of_not_acceptable broken⟩

theorem profiles_toImage (drafts : List Draft) :
    (drafts.map Draft.toImage).map Image.profile = drafts.map Draft.profile := by
  rw [List.map_map]
  rfl

/-! ## How they come out -/

theorem reload_of_not_acceptable {drafts : List Draft}
    (h : ∃ draft ∈ drafts, ¬ draft.Acceptable) :
    (reload drafts).result = .error (reject [.unreadable]) := by
  obtain ⟨cause, loaded⟩ := load_of_unreadable (unreadable_of_not_acceptable h)
  rw [reload, loaded]

theorem reload_of_acceptable {drafts : List Draft} (h : ∀ draft ∈ drafts, draft.Acceptable) :
    (reload drafts).result =
      if (drafts.map Draft.profile).Nodup then .ok (drafts.map Draft.toImage)
      else .error (reject ((recurring (drafts.map Draft.profile)).map .repeatedProfile)) := by
  rw [reload, load_of_gives (gives_of_acceptable h), profiles_toImage]
  split <;> rfl

/-- Drafts that are written and loaded give images exactly when all of them are acceptable and their
profiles are different; the images then carry what the drafts say, one by one. A draft that is not
acceptable leaves the text unreadable as a whole; otherwise each profile that stands earlier too is
reported. -/
theorem reload_result (drafts : List Draft) :
    ((∃ images, (reload drafts).result = .ok images) ↔
      (∀ draft ∈ drafts, draft.Acceptable) ∧ (drafts.map Draft.profile).Nodup) ∧
    (∀ images, (reload drafts).result = .ok images → List.Forall₂ Draft.Carries drafts images) ∧
    ((∃ draft ∈ drafts, ¬ draft.Acceptable) →
      (reload drafts).result = .error ⟨[⟨imagesKey, "cannot parse image data"⟩]⟩) ∧
    ((∀ draft ∈ drafts, draft.Acceptable) → ¬ (drafts.map Draft.profile).Nodup →
      (reload drafts).result = .error ⟨(recurring (drafts.map Draft.profile)).map
        fun name => ⟨imagesKey, "duplicate profile name: " ++ name⟩⟩) := by
  by_cases each : ∀ draft ∈ drafts, draft.Acceptable
  · have loaded := reload_of_acceptable each
    by_cases distinct : (drafts.map Draft.profile).Nodup
    · rw [if_pos distinct] at loaded
      refine ⟨iff_of_true ⟨_, loaded⟩ ⟨each, distinct⟩, ?_, ?_, ?_⟩
      · intro images h
        obtain rfl : drafts.map Draft.toImage = images := Except.ok.inj (loaded.symm.trans h)
        rw [List.forall₂_map_right_iff, List.forall₂_same]
        intro draft there
        exact (each draft there).carries
      · intro h
        obtain ⟨draft, there, broken⟩ := h
        exact absurd (each draft there) broken
      · intro _ repeated
        exact absurd distinct repeated
    · rw [if_neg distinct] at loaded
      refine ⟨iff_of_false ?_ fun h => distinct h.2, ?_, ?_, ?_⟩
      · simp [loaded]
      · simp [loaded]
      · intro h
        obtain ⟨draft, there, broken⟩ := h
        exact absurd (each draft there) broken
      · intro _ _
        rw [loaded, ← failures_repeated]
  · have broken : ∃ draft ∈ drafts, ¬ draft.Acceptable := by simpa using each
    have loaded := reload_of_not_acceptable broken
    refine ⟨iff_of_false ?_ fun h => each h.1, ?_, ?_, fun h => absurd h each⟩
    · simp [loaded]
    · simp [loaded]
    · intro _
      rw [loaded, ← failures_unreadable]

end CloudImages.Batch
