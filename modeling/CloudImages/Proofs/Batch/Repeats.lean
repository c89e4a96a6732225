import CloudImages.Batch
import Mathlib.Data.Finset.Card

set_option autoImplicit false

/-! # Which profiles repeat

`repeats` walks through the images with the profiles that it has seen. What it finds is said here
by position: the profiles that stand earlier in the list too (`repeats_eq_recurring`). There are as
many of them as there are images beyond the number of different profiles (`length_recurring`). -/

namespace CloudImages.Batch

/-- The entries of a list that stand earlier in it too, in order. -/
def recurring (names : List String) : List String :=
  (names.zipIdx.filter fun (name, i) => name ∈ names.take i).map Prod.fst

/-- The walk behind `before`, when the profiles that it has seen are those in `before`. -/
theorem repeats_eq_filter {seen before : List String} (same : ∀ name, name ∈ seen ↔ name ∈ before)
    (images : List Image) :
    repeats seen images = (((images.map Image.profile).zipIdx before.length).filter
      fun (name, i) => name ∈ (before ++ images.map Image.profile).take i).map Prod.fst := by
  induction images generalizing seen before with
  | nil => rfl
  | cons image rest ih =>
    -- the first profile joins `before`; it is at the index `before.length`
    have shift : before ++ (image :: rest).map Image.profile
        = (before ++ [image.profile]) ++ rest.map Image.profile := by simp
    have next : before.length + 1 = (before ++ [image.profile]).length := by simp
    have now : ((before ++ [image.profile]) ++ rest.map Image.profile).take before.length
        = before := by simp
    rw [shift, List.map_cons, List.zipIdx_cons, List.filter_cons, repeats]
    simp only [now, decide_eq_true_eq, ← same]
    split
    · next old =>
      have same' : ∀ name, name ∈ seen ↔ name ∈ before ++ [image.profile] := by
        intro name
        rw [List.mem_append, List.mem_singleton, ← same]
        exact ⟨Or.inl, fun h => h.elim id fun last => last ▸ old⟩
      rw [List.map_cons, ih same', next]
    · next new =>
      have same' : ∀ name, name ∈ image.profile :: seen ↔ name ∈ before ++ [image.profile] := by
        intro name
        rw [List.mem_append, List.mem_singleton, List.mem_cons, ← same, or_comm]
      rw [ih same', next]

theorem repeats_eq_recurring (images : List Image) :
    repeats [] images = recurring (images.map Image.profile) :=
  @repeats_eq_filter [] [] (fun _ => Iff.rfl) images

theorem length_repeats (seen : List String) (images : List Image) :
    (repeats seen images).length + ((images.map Image.profile).toFinset \ seen.toFinset).card
      = images.length := by
  induction images generalizing seen with
  | nil => simp [repeats]
  | cons image rest ih =>
    rw [repeats, List.map_cons, List.toFinset_cons, List.length_cons]
    split
    · next old =>
      rw [Finset.insert_sdiff_of_mem _ (List.mem_toFinset.2 old), List.length_cons, ← ih seen]
      omega
    · next new =>
      -- a profile that is new is taken from the different ones that are still to come
      have first : insert image.profile (rest.map Image.profile).toFinset \ seen.toFinset
          = insert image.profile ((rest.map Image.profile).toFinset \ seen.toFinset) :=
        Finset.insert_sdiff_of_notMem _ fun old => new (List.mem_toFinset.1 old)
      have others : (rest.map Image.profile).toFinset \ (image.profile :: seen).toFinset
          = (insert image.profile
              ((rest.map Image.profile).toFinset \ seen.toFinset)).erase image.profile := by
        rw [List.toFinset_cons, Finset.sdiff_insert, Finset.erase_insert_eq_erase]
      have taken := Finset.card_erase_add_one (Finset.mem_insert_self image.profile
        ((rest.map Image.profile).toFinset \ seen.toFinset))
      rw [first, ← taken, ← others, ← ih (image.profile :: seen)]
      omega

theorem length_recurring (images : List Image) :
    (recurring (images.map Image.profile)).length
      = images.length - (images.map Image.profile).toFinset.card := by
  have total := length_repeats [] images
  rw [repeats_eq_recurring, List.toFinset_nil, Finset.sdiff_empty] at total
  omega

theorem recurring_eq_nil_iff {images : List Image} :
    recurring (images.map Image.profile) = [] ↔ (images.map Image.profile).Nodup := by
  rw [← repeats_eq_recurring, repeats_eq_nil_iff]
  exact and_iff_left fun _ _ => List.not_mem_nil

end CloudImages.Batch
