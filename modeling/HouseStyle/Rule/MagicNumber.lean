import HouseStyle.Rule.Comment
import HouseStyle.Rule.Declaration

/-!
# Numbers without a name

A numeric literal is a run of digits, perhaps with a point and a second run, perhaps with one of
the letters `f`, `d`, `l` behind it, that starts where no word and no number is going on and
ends where the word ends. `literalsFrom` reads the literals of a text from left to right, each
after the end of the one before.
-/

namespace HouseStyle

open Text

/-- Whether a word can end just before the rest of the text. -/
def endsWord : List Char → Bool
  | [] => true
  | c :: _ => !isWord c

/-- Whether a literal can end just before the rest of the text, a type letter allowed. -/
def endsLiteral : List Char → Bool
  | [] => true
  | c :: rest => !isWord c || ("fFdDlL".toList.contains c && endsWord rest)

/-- The text behind a type letter, if there is one. -/
def skipTypeLetter : List Char → List Char
  | [] => []
  | c :: rest => if "fFdDlL".toList.contains c then rest else c :: rest

/-- Ends a literal: its digits, and the text behind its type letter. -/
def finish? (digits rest : List Char) : Option (List Char × List Char) :=
  if endsLiteral rest then some (digits, skipTypeLetter rest) else none

/-- Reads the fraction of a literal and ends it. -/
def withFraction? (digits : List Char) : List Char → Option (List Char × List Char)
  | [] => none
  | c :: tail =>
    let fraction := tail.takeWhile isDigit
    if c = '.' ∧ fraction ≠ [] then
      finish? (digits ++ '.' :: fraction) (tail.dropWhile isDigit)
    else none

/-- Reads the literal at the start of a text: its digits, and the text behind it. Digits behind a
point that do not end as a literal must are left out. -/
def readLiteral? (text : List Char) : Option (List Char × List Char) :=
  let digits := text.takeWhile isDigit
  let rest := text.dropWhile isDigit
  if digits = [] then none else (withFraction? digits rest).or (finish? digits rest)

/-! ## Reading makes progress -/

theorem length_skipTypeLetter_le (text : List Char) :
    (skipTypeLetter text).length ≤ text.length := by
  cases text with
  | nil => simp [skipTypeLetter]
  | cons c rest => simp only [skipTypeLetter]; split <;> simp

theorem length_le_of_finish? {digits rest d r : List Char} (h : finish? digits rest = some (d, r)) :
    r.length ≤ rest.length := by
  simp only [finish?, Option.ite_none_right_eq_some, Option.some.injEq, Prod.mk.injEq] at h
  exact h.2.2 ▸ length_skipTypeLetter_le rest

theorem length_le_of_withFraction? {digits rest d r : List Char}
    (h : withFraction? digits rest = some (d, r)) : r.length ≤ rest.length := by
  cases rest with
  | nil => simp [withFraction?] at h
  | cons c tail =>
    simp only [withFraction?, Option.ite_none_right_eq_some] at h
    have h1 := length_le_of_finish? h.2
    have h2 := (List.dropWhile_suffix (l := tail) isDigit).length_le
    simp only [List.length_cons]
    omega

/-- Reading a literal leaves less to read. -/
theorem length_lt_of_readLiteral? {text digits rest : List Char}
    (h : readLiteral? text = some (digits, rest)) : rest.length < text.length := by
  simp only [readLiteral?] at h
  split at h
  · simp at h
  next hd =>
    have hlen : (text.takeWhile isDigit).length + (text.dropWhile isDigit).length
        = text.length := by
      rw [← List.length_append, List.takeWhile_append_dropWhile]
    have hpos : 0 < (text.takeWhile isDigit).length := List.length_pos_iff.2 hd
    have hrest : rest.length ≤ (text.dropWhile isDigit).length := by
      rcases Option.or_eq_some_iff.1 h with h | ⟨-, h⟩
      · exact length_le_of_withFraction? h
      · exact length_le_of_finish? h
    omega

/-- The literals of a text; `fresh` tells whether one may start right here. -/
def literalsFrom (fresh : Bool) (text : List Char) : List (List Char) :=
  match text with
  | [] => []
  | c :: rest =>
    match _h : if fresh then readLiteral? (c :: rest) else none with
    | some (digits, after) => digits :: literalsFrom false after
    | none => literalsFrom (!isWord c && c != '.') rest
termination_by text.length
decreasing_by
  · split at _h
    · exact length_lt_of_readLiteral? _h
    · simp at _h
  · simp

/-- The numeric literals of a text. -/
def literals (text : List Char) : List (List Char) := literalsFrom true text

/-- The numbers that need no name. -/
def plainNumbers : List (List Char) := ["0", "1", "0.0", "1.0"].map String.toList

/-- Whether a line is nothing but a comment. -/
def startsAsComment (text : List Char) : Bool :=
  ["//", "/*", "*"].any fun mark => mark.toList.isPrefixOf (trimStart text)

/-- Whether a line holds a number that needs a name and does not declare one. -/
def hasMagicNumber (text : List Char) : Bool :=
  !startsAsComment text && !finalWord.search text
    && (literals (codePart text)).any fun digits => !plainNumbers.contains digits

end HouseStyle
