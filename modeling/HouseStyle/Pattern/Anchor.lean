import HouseStyle.Text.Word

/-!
# Anchors

An anchor is a condition on a place between two characters. It looks at the character just
before and the character just after, and matches no character itself.
-/

namespace HouseStyle.Pattern

open Text

/-- A place in a text: the character before it and the character after it, if any. -/
structure Gap where
  /-- The last character before the place. -/
  before : Option Char
  /-- The first character after the place. -/
  after : Option Char
  deriving DecidableEq, Repr

/-- Which characters make up a word. -/
inductive Alphabet where
  /-- Letters, marks, digits and connectors of every script. -/
  | every
  /-- ASCII letters and digits and the underscore. -/
  | ascii
  deriving DecidableEq, Repr

/-- Whether the alphabet counts a character as part of a word. -/
def Alphabet.isWord : Alphabet → Char → Bool
  | every, c => Text.isWord c
  | ascii, c => c.isAlphanum || c == '_'

/-- Whether there is a character and it is part of a word. -/
def Alphabet.wordAt (a : Alphabet) (c : Option Char) : Bool := c.any a.isWord

/-- A condition on a place between characters. -/
inductive Anchor where
  | textStart
  | textEnd
  /-- At the start of the text or after a newline. -/
  | lineStart
  /-- At the end of the text or before a newline. -/
  | lineEnd
  /-- At the start of a line that ends in a newline, a carriage return or both. -/
  | lineStartCrlf
  /-- At the end of a line that ends in a newline, a carriage return or both. -/
  | lineEndCrlf
  /-- Where a word starts or ends. -/
  | wordEdge (a : Alphabet)
  | noWordEdge (a : Alphabet)
  | wordStart (a : Alphabet)
  | wordEnd (a : Alphabet)
  /-- After something that is not part of a word. -/
  | wordStartHalf (a : Alphabet)
  /-- Before something that is not part of a word. -/
  | wordEndHalf (a : Alphabet)
  deriving DecidableEq, Repr

/-- Whether the condition holds at a place. -/
def Anchor.holds : Anchor → Gap → Bool
  | textStart, g => g.before.isNone
  | textEnd, g => g.after.isNone
  | lineStart, g => g.before.isNone || g.before == some '\n'
  | lineEnd, g => g.after.isNone || g.after == some '\n'
  | lineStartCrlf, g =>
    g.before.isNone || g.before == some '\n' || (g.before == some '\r' && g.after != some '\n')
  | lineEndCrlf, g =>
    g.after.isNone || g.after == some '\r' || (g.after == some '\n' && g.before != some '\r')
  | wordEdge a, g => a.wordAt g.before != a.wordAt g.after
  | noWordEdge a, g => a.wordAt g.before == a.wordAt g.after
  | wordStart a, g => !a.wordAt g.before && a.wordAt g.after
  | wordEnd a, g => a.wordAt g.before && !a.wordAt g.after
  | wordStartHalf a, g => !a.wordAt g.before
  | wordEndHalf a, g => !a.wordAt g.after

end HouseStyle.Pattern
