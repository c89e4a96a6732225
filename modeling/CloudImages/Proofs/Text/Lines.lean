set_option autoImplicit false

/-! # Lines

The lines of a text are what stands between its line feeds. Texts that are joined by line feeds have
all of their lines in order (`lines_intercalate`); so they are the lines themselves exactly when no
line feed stands in any of them (`flatMap_lines_eq_self_iff`). -/

namespace CloudImages.Text

/-- The lines of a text, in order. There is always one, and one more behind each line feed. -/
def lines (text : String) : List String :=
  (text.toList.splitOn '\n').map String.ofList

theorem lines_append (first second : String) :
    lines (first ++ "\n" ++ second) = lines first ++ lines second := by
  have feed : (first ++ "\n" ++ second).toList = first.toList ++ '\n' :: second.toList := by
    simp
  rw [lines, feed, List.splitOn_append_cons_self, List.map_append, lines, lines]

/-- A text without line feeds is its only line. -/
theorem lines_of_notMem {text : String} (h : '\n' ∉ text.toList) : lines text = [text] := by
  rw [lines, List.splitOn_eq_singleton h, List.map_singleton, String.ofList_toList]

theorem lines_intercalate {parts : List String} (some : parts ≠ []) :
    lines ("\n".intercalate parts) = parts.flatMap lines := by
  induction parts with
  | nil => exact absurd rfl some
  | cons part rest ih =>
    by_cases last : rest = []
    · rw [last, String.intercalate_singleton, List.flatMap_singleton]
    · rw [String.intercalate_cons_of_ne_nil last, lines_append, ih last, List.flatMap_cons]

/-! ## How many lines there are -/

theorem length_splitOn (cs : List Char) : (cs.splitOn '\n').length = cs.count '\n' + 1 := by
  induction cs with
  | nil => simp
  | cons c rest ih =>
    rw [List.splitOn_cons_eq_if_modifyHead, List.count_cons, ← Nat.add_right_comm, ← ih]
    split
    · rw [List.length_cons]
    · rw [List.length_modifyHead]
      rfl

theorem length_lines (text : String) : (lines text).length = text.toList.count '\n' + 1 := by
  rw [lines, List.length_map, length_splitOn]

theorem length_flatMap_lines (parts : List String) :
    (parts.flatMap lines).length
      = parts.length + (parts.flatMap String.toList).count '\n' := by
  induction parts with
  | nil => rfl
  | cons part rest ih =>
    rw [List.flatMap_cons, List.length_append, length_lines, ih, List.flatMap_cons,
      List.count_append, List.length_cons]
    omega

/-- Texts are their own lines exactly when there is no line feed in them. -/
theorem flatMap_lines_eq_self_iff {parts : List String} :
    parts.flatMap lines = parts ↔ ∀ part ∈ parts, '\n' ∉ part.toList := by
  constructor
  · intro same part there
    have total := length_flatMap_lines parts
    rw [same] at total
    have none : '\n' ∉ parts.flatMap String.toList := List.count_eq_zero.1 (by omega)
    exact fun feed => none (List.mem_flatMap.2 ⟨part, there, feed⟩)
  · intro none
    have each : parts.map lines = parts.map fun part => [part] :=
      List.map_congr_left fun part there => lines_of_notMem (none part there)
    rw [List.flatMap_def, each, ← List.flatMap_def, List.flatMap_singleton']

end CloudImages.Text
