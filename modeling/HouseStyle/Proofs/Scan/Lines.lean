import HouseStyle.Command.Check
import Mathlib.Data.List.Basic

/-!
# The lines of a file

Cutting a text into lines and joining lines to a text undo each other, as long as there is a line
and none holds a newline. Only newlines are lost, so that a carriage return and blanks at the end
stay in their line, and every newline opens a line, so that one at the end of a file opens an empty
line (`splitLines_exact`). The numbers in a report count these lines.
-/

namespace HouseStyle

namespace Text

/-! ## Pieces -/

/-- The pieces hold everything but the separators. -/
theorem flatten_split (sep : Char) (text : List Char) :
    (split sep text).flatten = text.filter (· ≠ sep) := by
  induction text with
  | nil => rfl
  | cons c text ih =>
    by_cases h : c = sep
    · subst h
      simp [ih]
    · obtain ⟨p, ps, hp⟩ := List.exists_cons_of_ne_nil (split_ne_nil sep text)
      rw [hp] at ih
      rw [split_cons_of_ne h, hp, consPiece, List.filter_cons_of_pos (by simpa using h), ← ih]
      simp

/-- A separator at the end opens an empty piece. -/
theorem split_concat (sep : Char) (text : List Char) :
    split sep (text ++ [sep]) = split sep text ++ [[]] := by
  induction text with
  | nil => simp
  | cons c text ih =>
    by_cases h : c = sep
    · subst h
      simp [ih]
    · obtain ⟨p, ps, hp⟩ := List.exists_cons_of_ne_nil (split_ne_nil sep text)
      rw [List.cons_append, split_cons_of_ne h, split_cons_of_ne h, ih, hp]
      rfl

/-! ## Lines -/

theorem map_toList_splitLines (content : String) :
    (splitLines content).map String.toList = split '\n' content.toList := by
  simp [splitLines, Function.comp_def]

theorem toList_intercalate_newline (lines : List String) :
    ("\n".intercalate lines).toList = join '\n' (lines.map String.toList) :=
  String.toList_intercalate

theorem intercalate_splitLines (content : String) :
    "\n".intercalate (splitLines content) = content := by
  rw [← String.toList_inj, toList_intercalate_newline, map_toList_splitLines, join_split]

theorem not_mem_of_mem_splitLines {content line : String} (h : line ∈ splitLines content) :
    '\n' ∉ line.toList := by
  have hpiece : line.toList ∈ split '\n' content.toList := by
    rw [← map_toList_splitLines]
    exact List.mem_map_of_mem h
  exact not_mem_of_mem_split hpiece

theorem length_splitLines (content : String) :
    (splitLines content).length = content.toList.count '\n' + 1 := by
  rw [splitLines, List.length_map, length_split]

theorem flatMap_toList_splitLines (content : String) :
    (splitLines content).flatMap String.toList = content.toList.filter (· ≠ '\n') := by
  rw [List.flatMap_def, map_toList_splitLines, flatten_split]

theorem splitLines_append_newline (content : String) :
    splitLines (content ++ "\n") = splitLines content ++ [""] := by
  rw [splitLines, String.toList_append]
  show (split '\n' (content.toList ++ ['\n'])).map String.ofList = _
  rw [split_concat, List.map_append]
  rfl

theorem splitLines_intercalate {lines : List String} (hne : lines ≠ [])
    (h : ∀ line ∈ lines, '\n' ∉ line.toList) : splitLines ("\n".intercalate lines) = lines := by
  rw [splitLines, toList_intercalate_newline, split_join]
  · simp [Function.comp_def]
  · simpa using hne
  · simpa using h

end Text

open Text

/-- The lines of a text give it back when they are joined, none of them holds a newline, and there
is one more than there are newlines. Everything but the newlines is in them, in order, and a newline
at the end opens an empty line. Lines that are joined are given back by cutting. The number of lines
in a report is this number. -/
theorem splitLines_exact (content : String) :
    ("\n".intercalate (splitLines content) = content ∧
      (∀ line ∈ splitLines content, '\n' ∉ line.toList) ∧
      (splitLines content).length = content.toList.count '\n' + 1) ∧
    ((splitLines content).flatMap String.toList = content.toList.filter (· ≠ '\n') ∧
      splitLines (content ++ "\n") = splitLines content ++ [""]) ∧
    (∀ lines : List String, lines ≠ [] → (∀ line ∈ lines, '\n' ∉ line.toList) →
      splitLines ("\n".intercalate lines) = lines) ∧
    ∀ (scanner : Scanner) (path : String),
      (scanner.report (path, content)).lineCount = content.toList.count '\n' + 1 :=
  ⟨⟨intercalate_splitLines content, fun _ => not_mem_of_mem_splitLines, length_splitLines content⟩,
    ⟨flatMap_toList_splitLines content, splitLines_append_newline content⟩,
    fun _ => splitLines_intercalate, fun _ _ => length_splitLines content⟩

/-- Empty lines, one with a carriage return and one that ends with blanks. -/
theorem splitLines_exact_blank :
    ["", "\r", "", "x  ", ""] ≠ [] ∧ "x  " ∈ splitLines "\n\r\n\nx  \n" ∧
      splitLines "\n\r\n\nx  \n" = ["", "\r", "", "x  ", ""] ∧ '\n' ∉ "x  ".toList := by
  have hne : ["", "\r", "", "x  ", ""] ≠ [] := by decide
  have hlines : ∀ line ∈ ["", "\r", "", "x  ", ""], '\n' ∉ line.toList := by decide
  have hmem : "x  " ∈ splitLines "\n\r\n\nx  \n" := by decide
  exact ⟨hne, hmem, (splitLines_exact "").2.2.1 _ hne hlines,
    (splitLines_exact "\n\r\n\nx  \n").1.2.1 _ hmem⟩

end HouseStyle
