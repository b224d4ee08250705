import HouseStyle.Rule.MagicNumber
import HouseStyle.Rule.Violation

/-!
# Rules on single lines

Six of the rules look at one line at a time, the first of them also at the line before. Each
reports at most one violation, and a list of rules is evaluated in its order.
-/

namespace HouseStyle

/-- A line as the rules see it. -/
structure Line where
  /-- The number of the line, counted from 1. -/
  number : Nat
  text : String
  /-- The text of the line before, unless this is the first. -/
  previous : Option String

/-- A rule on single lines. -/
inductive LineRule where
  /-- A line with `class` in it is commented, or the line before is. -/
  | classComment
  /-- A declaration with an initial value has a note. -/
  | variableComment
  /-- A `final` declaration has a name without small letters. -/
  | constantCase
  /-- A line has at most `max` characters. -/
  | lineLength (max : Nat)
  /-- A line holds no tab. -/
  | tabIndent
  /-- A line holds no number but 0 and 1, unless it declares a constant. -/
  | magicNumber
  deriving DecidableEq, Repr

namespace LineRule

/-- The rule that a line rule checks. -/
def rule : LineRule → Rule
  | classComment => .classComment
  | variableComment => .variableComment
  | constantCase => .constantCase
  | lineLength _ => .lineLength
  | tabIndent => .tabIndent
  | magicNumber => .magicNumber

/-- Whether a line breaks the rule. -/
def isBroken (r : LineRule) (line : Line) : Bool :=
  let text := line.text.toList
  match r with
  | classComment =>
    Text.contains "class".toList text && !isCommentLine text
      && !line.previous.any fun p => isCommentLine p.toList
  | variableComment => declaration.search text && !hasNote text
  | constantCase => smallConstant.search text
  | lineLength max => max < text.length
  | tabIndent => text.contains '\t'
  | magicNumber => hasMagicNumber text

/-- The violation of a rule by a line; only lengths are measured. -/
def violation (r : LineRule) (line : Line) : Violation :=
  match r with
  | lineLength max => .measured r.rule line.number line.text line.text.toList.length max
  | _ => .onLine r.rule line.number line.text

/-- The violation to report, if the line breaks the rule. -/
def check (r : LineRule) (line : Line) : Option Violation :=
  if r.isBroken line then some (r.violation line) else none

/-- The violations of a list of rules, in the order of the list. -/
def checkAll (rules : List LineRule) (line : Line) : List Violation :=
  rules.filterMap (·.check line)

/-- The line rules of the house style; the rule on numbers is optional. -/
def standard (maxLength : Nat) (magicNumbers : Bool) : List LineRule :=
  [classComment, variableComment, constantCase, lineLength maxLength, tabIndent]
    ++ if magicNumbers then [magicNumber] else []

end LineRule

end HouseStyle
