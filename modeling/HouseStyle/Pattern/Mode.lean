import HouseStyle.Pattern.Anchor
import HouseStyle.Text.CaseFold

/-!
# Modes of reading a pattern

A pattern can switch the way in which it is read, `(?i)` for the rest of a group and `(?i:…)`
for a group of its own. The mode decides what a dot, an anchor, a letter or an escape stands for,
and whether blanks and remarks in the pattern are skipped. A pattern must not match a part of a
character, so in the ASCII modes everything that could stand for single bytes is refused.
-/

namespace HouseStyle.Pattern

open Text

/-- The switches that are on. -/
structure Mode where
  /-- Letters stand for either case. -/
  caseless : Bool := false
  /-- The line anchors hold at every line. -/
  multiLine : Bool := false
  /-- A dot stands for a newline too. -/
  dotAll : Bool := false
  /-- Carriage returns end lines as well. -/
  crlf : Bool := false
  /-- Classes and words are those of every script. -/
  everyScript : Bool := true
  /-- Blanks and remarks are skipped. -/
  spaced : Bool := false
  /-- Repetitions prefer to be short unless marked. -/
  lazy : Bool := false

namespace Mode

/-- Turns the switch of a letter on or off; `none` if the letter names no switch. -/
def set? (mode : Mode) (on : Bool) : Char → Option Mode
  | 'i' => some { mode with caseless := on }
  | 'm' => some { mode with multiLine := on }
  | 's' => some { mode with dotAll := on }
  | 'R' => some { mode with crlf := on }
  | 'u' => some { mode with everyScript := on }
  | 'x' => some { mode with spaced := on }
  | 'U' => some { mode with lazy := on }
  | _ => none

/-- The alphabet of the word anchors. -/
def alphabet (mode : Mode) : Alphabet := if mode.everyScript then .every else .ascii

/-- The anchor that `^` stands for. -/
def caret (mode : Mode) : Anchor :=
  if !mode.multiLine then .textStart else if mode.crlf then .lineStartCrlf else .lineStart

/-- The anchor that `$` stands for. -/
def dollar (mode : Mode) : Anchor :=
  if !mode.multiLine then .textEnd else if mode.crlf then .lineEndCrlf else .lineEnd

/-- The characters that a dot stands for. -/
def dot? (mode : Mode) : Option CodeSet :=
  if !mode.everyScript then none
  else if mode.dotAll then some CodeSet.empty.complement
  else if mode.crlf then some ((CodeSet.single '\n').union (.single '\r')).complement
  else some (CodeSet.single '\n').complement

/-- A set in its shortest form, extended by the other cases of its members if cases do not
count. -/
def fold (mode : Mode) (s : CodeSet) : CodeSet :=
  if !mode.caseless then s.normalize else if mode.everyScript then s.foldCase else s.foldAscii

/-- A set in its shortest form or its complement, which reaches beyond ASCII. -/
def negate? (mode : Mode) (negated : Bool) (s : CodeSet) : Option CodeSet :=
  if !negated then some s else if mode.everyScript then some s.complement else none

/-- Drops blanks and remarks; the flag tells whether a remark is going on. -/
def dropSpace : Bool → List Char → List Char
  | _, [] => []
  | true, c :: rest => dropSpace (c != '\n') rest
  | false, c :: rest =>
    if isBlank c then dropSpace false rest
    else if c = '#' then dropSpace true rest
    else c :: rest

/-- What is left of a pattern after the blanks and remarks at its start, if they are skipped. -/
def skip (mode : Mode) (text : List Char) : List Char :=
  if mode.spaced then dropSpace false text else text

end Mode

end HouseStyle.Pattern
