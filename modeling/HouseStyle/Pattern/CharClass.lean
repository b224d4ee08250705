import HouseStyle.Text.Word

/-!
# Character classes

The one-character building blocks of an expression: tables of code points, and the classes of
blanks, digits and words.
-/

namespace HouseStyle.Pattern

open Text

/-- A class of characters. -/
inductive CharClass where
  /-- The characters of a table. -/
  | of (s : CodeSet)
  | blank
  | digit
  | word
  | not (s : CharClass)

namespace CharClass

/-- Whether a character belongs to a class. -/
def contains : CharClass → Char → Bool
  | of s, c => s.contains c
  | blank, c => isBlank c
  | digit, c => isDigit c
  | word, c => isWord c
  | not s, c => !s.contains c

/-- The class of one character. -/
def single (c : Char) : CharClass := of (.single c)

/-- Every character but a newline. -/
def notNewline : CharClass := not (single '\n')

@[simp] theorem contains_single (c d : Char) : (single c).contains d = (d == c) := by
  rw [Bool.eq_iff_iff]
  simp only [single, contains, CodeSet.contains_eq_true_iff, CodeSet.single, List.mem_singleton,
    exists_eq_left, beq_iff_eq]
  exact ⟨fun h => Char.toNat_inj.1 (Nat.le_antisymm h.2 h.1), fun h => by simp [h]⟩

end CharClass

end HouseStyle.Pattern
