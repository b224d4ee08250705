import HouseStyle.Text.CodeSet

/-!
# White space

The characters with the Unicode property White_Space, and trimming. `trimStart` removes the
leading blanks of a text and `trim` the blanks at both ends.
-/

namespace HouseStyle.Text

/-- The characters with the property White_Space. -/
def blanks : CodeSet := ⟨[
  (0x09, 0x0D), (0x20, 0x20), (0x85, 0x85), (0xA0, 0xA0), (0x1680, 0x1680), (0x2000, 0x200A),
  (0x2028, 0x2029), (0x202F, 0x202F), (0x205F, 0x205F), (0x3000, 0x3000)]⟩

/-- Whether a character is white space. -/
def isBlank (c : Char) : Bool := blanks.contains c

/-- Removes the leading blanks. -/
def trimStart (text : List Char) : List Char := text.dropWhile isBlank

/-- Removes the trailing blanks. -/
def trimEnd (text : List Char) : List Char := (text.reverse.dropWhile isBlank).reverse

/-- Removes the blanks at both ends. -/
def trim (text : List Char) : List Char := trimEnd (trimStart text)

end HouseStyle.Text
