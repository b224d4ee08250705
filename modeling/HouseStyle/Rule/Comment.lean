import HouseStyle.Text.Find

/-!
# Comments

How the rules tell comments from code. The test is coarse: a star or two slashes anywhere make a
comment line, inside a string literal as well.
-/

namespace HouseStyle

/-- The mark that starts a note at the end of a line. -/
def noteMark : List Char := ['/', '/']

/-- Whether a line holds a note. -/
def hasNote (text : List Char) : Bool := Text.contains noteMark text

/-- Whether a line counts as commented. -/
def isCommentLine (text : List Char) : Bool := text.contains '*' || hasNote text

/-- The part of a line in front of its note. -/
def codePart (text : List Char) : List Char := Text.before noteMark text

end HouseStyle
