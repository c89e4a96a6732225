import CloudImages.Proofs.Batch.Drafts
import CloudImages.Proofs.Pool.Resolution

set_option autoImplicit false

/-! # Pools only add to the images

Properties with the same text for the images come out alike, whatever else they hold: both are
rejected with the same failures, or both give images that differ in their pools at most. And the
pool of a loaded image is that of the first assignment for its profile
(`PoolAssignment.FirstPool`).

Pools reach an image in one place only. A definition that is accepted under some pools is accepted
under any others, and the image that is read from it is the same but for its pool
(`Definition.Accepted.assign`); all that is said of batches follows from that. -/

namespace CloudImages

open Json

/-! ## One definition -/

namespace Image

/-- Two images are the same but for their pools. -/
structure SameButPool (a b : Image) : Prop where
  profile : a.profile = b.profile
  container : a.container = b.container
  removeOnExit : a.removeOnExit = b.removeOnExit
  officialImage : a.officialImage = b.officialImage
  maxInstances : a.maxInstances = b.maxInstances

/-- The image with the pool that other assignments give to its profile. -/
def assign (pools : Option (List PoolAssignment)) (image : Image) : Image :=
  { image with pool := PoolAssignment.resolve image.profile pools }

theorem sameButPool_assign (pools : Option (List PoolAssignment)) (image : Image) :
    image.SameButPool (image.assign pools) :=
  ⟨rfl, rfl, rfl, rfl, rfl⟩

end Image

/-- The rules of a definition do not ask about pools. -/
theorem Definition.Accepted.assign {definition administration : Value} {count : Int64}
    {pools : Option (List PoolAssignment)} {image : Image}
    (h : Accepted definition administration count pools image)
    (others : Option (List PoolAssignment)) :
    Accepted definition administration count others (image.assign others) :=
  { h with pool := rfl }

theorem Image.ofDefinition_assign {definition : Value} {pools : Option (List PoolAssignment)}
    {image : Image} (h : ofDefinition definition pools = .ok image)
    (others : Option (List PoolAssignment)) :
    ofDefinition definition others = .ok (image.assign others) := by
  obtain ⟨administration, count, accepted⟩ :=
    Definition.read_eq_ok_iff.1 (ofDefinition_eq_ok_iff.1 h)
  exact ofDefinition_eq_ok_iff.2
    (Definition.read_eq_ok_iff.2 ⟨administration, count, accepted.assign others⟩)

theorem Image.ofDefinition_error_of_error {definition : Value}
    {pools : Option (List PoolAssignment)} {error : ImageError}
    (h : ofDefinition definition pools = .error error) (others : Option (List PoolAssignment)) :
    ∃ error, ofDefinition definition others = .error error := by
  cases read : ofDefinition definition others with
  | error error => exact ⟨error, rfl⟩
  | ok image =>
    rw [ofDefinition_assign read pools] at h
    exact absurd h (by simp)

/-! ## Batches -/

namespace Batch

variable {properties others : Properties}

theorem provided_of_same_images (same : properties.lookup imagesKey = others.lookup imagesKey)
    {text : String} (h : Provided properties text) : Provided others text :=
  ⟨same ▸ h.1, h.2⟩

theorem absent_of_same_images (same : properties.lookup imagesKey = others.lookup imagesKey)
    (h : Absent properties) : Absent others := by
  unfold Absent at h ⊢
  rwa [← same]

theorem unreadable_of_same_images (same : properties.lookup imagesKey = others.lookup imagesKey)
    (h : Unreadable properties) : Unreadable others := by
  obtain ⟨text, provided, rejected⟩ := h
  refine ⟨text, provided_of_same_images same provided, ?_⟩
  intro definitions parsed
  obtain ⟨definition, there, error, failed⟩ := rejected definitions parsed
  exact ⟨definition, there, Image.ofDefinition_error_of_error failed _⟩

theorem gives_of_same_images (same : properties.lookup imagesKey = others.lookup imagesKey)
    {images : List Image} (h : Gives properties images) :
    Gives others (images.map (Image.assign (pools? others))) := by
  obtain ⟨text, definitions, provided, parsed, described⟩ := h
  refine ⟨text, definitions, provided_of_same_images same provided, parsed, ?_⟩
  rw [List.forall₂_map_right_iff]
  exact described.imp fun definition image read => Image.ofDefinition_assign read _

theorem profiles_assign (pools : Option (List PoolAssignment)) (images : List Image) :
    (images.map (Image.assign pools)).map Image.profile = images.map Image.profile := by
  rw [List.map_map]
  rfl

theorem forall₂_sameButPool_assign (pools : Option (List PoolAssignment)) (images : List Image) :
    List.Forall₂ Image.SameButPool images (images.map (Image.assign pools)) := by
  rw [List.forall₂_map_right_iff, List.forall₂_same]
  exact fun image _ => image.sameButPool_assign pools

/-- Loads that differ in everything but the text for the images come out alike. -/
theorem load_of_same_images (same : properties.lookup imagesKey = others.lookup imagesKey) :
    (∃ error, (load properties).result = .error error ∧ (load others).result = .error error) ∨
      ∃ images images', (load properties).result = .ok images ∧
        (load others).result = .ok images' ∧ List.Forall₂ Image.SameButPool images images' := by
  rcases absent_or_unreadable_or_gives properties with absent | unreadable | ⟨images, gives⟩
  · refine Or.inl ⟨_, congrArg Report.result (load_of_absent absent), ?_⟩
    rw [load_of_absent (absent_of_same_images same absent)]
  · obtain ⟨_, loaded⟩ := load_of_unreadable unreadable
    obtain ⟨_, loaded'⟩ := load_of_unreadable (unreadable_of_same_images same unreadable)
    exact Or.inl ⟨_, congrArg Report.result loaded, congrArg Report.result loaded'⟩
  · -- the same profiles stand in both lists, so the same of them are repeated
    have loaded := load_of_gives gives
    have loaded' := load_of_gives (gives_of_same_images same gives)
    rw [profiles_assign] at loaded'
    split at loaded
    · next distinct =>
      rw [if_pos distinct] at loaded'
      exact Or.inr ⟨_, _, congrArg Report.result loaded, congrArg Report.result loaded',
        forall₂_sameButPool_assign _ images⟩
    · next repeated =>
      rw [if_neg repeated] at loaded'
      exact Or.inl ⟨_, congrArg Report.result loaded, congrArg Report.result loaded'⟩

theorem firstPool_of_load {images : List Image} (h : (load properties).result = .ok images) :
    ∀ image ∈ images, PoolAssignment.FirstPool image.profile (pools? properties) image.pool := by
  obtain ⟨gives, -⟩ := gives_of_load_eq_ok h
  intro image member
  obtain ⟨_, _, definition, -, -, read⟩ := definition_of_mem gives member
  obtain ⟨_, _, accepted⟩ := Definition.read_eq_ok_iff.1 (Image.ofDefinition_eq_ok_iff.1 read)
  exact PoolAssignment.firstPool_iff.2 accepted.pool

/-- Properties that agree on the text for the images are both rejected, for the same failures, or
both give images, in pairs that are the same but for their pools. The pool of a loaded image is that
of the first assignment for its profile, if there are assignments that can be read. -/
theorem sameButPool_and_firstPool_of_load
    (same : properties.lookup imagesKey = others.lookup imagesKey) :
    ((∃ error, (load properties).result = .error error ∧ (load others).result = .error error) ∨
      ∃ images images', (load properties).result = .ok images ∧
        (load others).result = .ok images' ∧ List.Forall₂ Image.SameButPool images images') ∧
    ∀ images, (load properties).result = .ok images → ∀ image ∈ images,
      PoolAssignment.FirstPool image.profile (pools? properties) image.pool :=
  ⟨load_of_same_images same, fun _ loaded => firstPool_of_load loaded⟩

/-- Two drafts with different profiles. -/
def pair : List Draft :=
  [{ profile := "a" }, { profile := "b" }]

/-- The properties of the two drafts and a text for the pools. -/
def pairWith (pools : String) : Properties :=
  Batch.properties (some (Draft.renderAll pair)) (some pools)

theorem load_pairWith (pools : String) : (load (pairWith pools)).result
    = .ok ((pair.map Draft.toImage).map
        (Image.assign (PoolAssignment.ofText pools).toOption)) := by
  have acceptable : ∀ draft ∈ pair, draft.Acceptable := by
    simp [pair, Draft.acceptable_defaults]
  have same : (Batch.properties (some (Draft.renderAll pair)) none).lookup imagesKey
      = (pairWith pools).lookup imagesKey := rfl
  have known : pools? (pairWith pools) = (PoolAssignment.ofText pools).toOption := by
    have other : (poolsKey == imagesKey) = false := by decide
    simp [pools?, pairWith, Batch.properties, List.lookup_cons, other]
  have distinct : (pair.map Draft.profile).Nodup := by decide
  rw [load_of_gives (gives_of_same_images same (gives_of_acceptable acceptable)), profiles_assign,
    profiles_toImage, if_pos distinct, known]

/-- Of two assignments for `a` the first one counts, and it has no pool; cut off before the last
bracket the assignments cannot be read. -/
theorem sameButPool_and_firstPool_of_load_pairWith :
    ∃ images images',
      (load (pairWith "[[\"a\"],[\"b\",7],[\"a\",8]]")).result = .ok images ∧
      (load (pairWith "[[\"a\"],[\"b\",7],[\"a\",8]")).result = .ok images' ∧
      images.map Image.pool = [none, some 7] ∧ images'.map Image.pool = [none, none] ∧
      List.Forall₂ Image.SameButPool images images' := by
  have whole := load_pairWith "[[\"a\"],[\"b\",7],[\"a\",8]]"
  have cut := load_pairWith "[[\"a\"],[\"b\",7],[\"a\",8]"
  have read : (PoolAssignment.ofText "[[\"a\"],[\"b\",7],[\"a\",8]]").toOption
      = some [⟨"a", none⟩, ⟨"b", some 7⟩, ⟨"a", some 8⟩] := by decide +kernel
  have unread : (PoolAssignment.ofText "[[\"a\"],[\"b\",7],[\"a\",8]").toOption = none := by
    decide +kernel
  rw [read] at whole
  rw [unread] at cut
  have same : (pairWith "[[\"a\"],[\"b\",7],[\"a\",8]]").lookup imagesKey
      = (pairWith "[[\"a\"],[\"b\",7],[\"a\",8]").lookup imagesKey := rfl
  rcases (sameButPool_and_firstPool_of_load same).1 with ⟨error, failed, -⟩ |
    ⟨images, images', loaded, loaded', alike⟩
  · exact absurd (whole.symm.trans failed) (by simp)
  · obtain rfl := Except.ok.inj (whole.symm.trans loaded)
    obtain rfl := Except.ok.inj (cut.symm.trans loaded')
    exact ⟨_, _, loaded, loaded', by decide, by decide, alike⟩

end Batch

end CloudImages
