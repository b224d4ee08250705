/-!
# Looking for a word in a text

`contains` tells whether a text holds a given piece, and `before` is the part of the text in
front of the first place where it does, the whole text if there is none.
-/

namespace HouseStyle.Text

/-- Whether `needle` occurs somewhere in the text. -/
def contains (needle : List Char) : List Char → Bool
  | [] => needle.isEmpty
  | c :: rest => needle.isPrefixOf (c :: rest) || contains needle rest

/-- The text in front of the first occurrence of `needle`. -/
def before (needle : List Char) : List Char → List Char
  | [] => []
  | c :: rest => if needle.isPrefixOf (c :: rest) then [] else c :: before needle rest

/-- Occurring is being a contiguous piece. -/
theorem contains_eq_true_iff {needle text : List Char} :
    contains needle text = true ↔ needle <:+: text := by
  induction text with
  | nil => simp [contains]
  | cons c rest ih => simp [contains, ih, List.infix_cons_iff]

/-- A text that does not hold the piece is left whole. -/
theorem before_eq_self {needle text : List Char} (h : contains needle text = false) :
    before needle text = text := by
  induction text with
  | nil => rfl
  | cons c rest ih =>
    simp only [contains, Bool.or_eq_false_iff] at h
    simp [before, h.1, ih h.2]

end HouseStyle.Text
