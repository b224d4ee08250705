import HouseStyle.Text.CodeSet

/-!
# The bytes of a set of characters

In UTF-8 a character is written in one to four bytes. The first byte of a longer form and the
number of bytes depend on the block the code lies in, and each byte behind the first holds one
digit of the code to base 64. `CodeSet.byteRanges` describes a set of characters byte by byte: each
item of the list is a row of byte ranges, one for each byte, and a character belongs to the set
exactly if its bytes lie in the ranges of one of the rows.
-/

namespace HouseStyle.Text

/-- A range of bytes, both ends included. -/
abbrev ByteRange := Nat × Nat

/-- The bytes of a character. -/
def utf8 (code : Nat) : List Nat := (String.utf8EncodeChar (Char.ofNat code)).map UInt8.toNat

/-- Ranges of codes whose characters have equally many bytes, and how many follow the first. -/
def utf8Blocks : List ((Nat × Nat) × Nat) :=
  [((0, 0x7F), 0), ((0x80, 0x7FF), 1), ((0x800, 0xD7FF), 2), ((0xE000, 0xFFFF), 2),
    ((0x10000, 0x10FFFF), 3)]

/-- Cuts a range of codes into pieces in which each digit to base 64 takes its values whatever the
other digits are. `unit` is the weight of the second digit to look at, and `digits` are still to be
looked at; those behind them already start with zeros and end with the last value. -/
def cutDigits : (digits unit lo hi : Nat) → List (Nat × Nat)
  | 0, _, lo, hi => [(lo, hi)]
  | digits + 1, unit, lo, hi =>
    if lo / unit = hi / unit then [(lo, hi)]
    else
      let start := (lo + unit - 1) / unit * unit
      let head := if lo < start then [(lo, start - 1)] else []
      if start / unit = hi / unit then head ++ [(start, hi)]
      else
        let stop := (hi + 1) / unit * unit
        let tail := if stop ≤ hi then [(stop, hi)] else []
        head ++ cutDigits digits (64 * unit) start (stop - 1) ++ tail

/-- The rows of byte ranges of a set, in the order of the codes. -/
def CodeSet.byteRanges (s : CodeSet) : List (List ByteRange) :=
  s.ranges.flatMap fun r => utf8Blocks.flatMap fun (block, digits) =>
    (overlaps [r] [block]).flatMap fun part =>
      (cutDigits digits 64 part.1 part.2).map fun piece => (utf8 piece.1).zip (utf8 piece.2)

end HouseStyle.Text
