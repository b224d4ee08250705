/-!
# The rules

The house style knows nine rules. Each has a code, and the last digit of the code is the number
of the commandment that the rule belongs to: several rules share one commandment.
-/

namespace HouseStyle

/-- A rule of the house style. -/
inductive Rule where
  | classComment
  | methodLength
  | variableComment
  /-- A line holds no tab. -/
  | tabIndent
  /-- A number in the code has a name. -/
  | magicNumber
  /-- A constant is named in capitals. -/
  | constantCase
  | lineLength
  /-- The file starts with the header marker. -/
  | headerMarker
  /-- The file holds the log marker. -/
  | logMarker
  deriving DecidableEq, Repr

namespace Rule

/-- All rules, in the order in which they are listed. -/
def all : List Rule :=
  [classComment, methodLength, variableComment, tabIndent, magicNumber, constantCase, lineLength,
    headerMarker, logMarker]

/-- The code of a rule. -/
def code : Rule → Nat
  | classComment => 13
  | methodLength => 23
  | variableComment => 33
  | tabIndent => 4
  | magicNumber => 5
  | constantCase => 6
  | lineLength => 7
  | headerMarker => 8
  | logMarker => 18

/-- The commandment that a rule belongs to. -/
def commandment (r : Rule) : Nat := r.code % 10

/-- Whether a report on the rule quotes the line. -/
def quotesLine : Rule → Bool
  | methodLength | logMarker => false
  | _ => true

/-- The name of a rule. -/
def name : Rule → String
  | classComment => "class_comment"
  | methodLength => "method_length"
  | variableComment => "variable_comment"
  | tabIndent => "tab_indent"
  | magicNumber => "magic_number"
  | constantCase => "constant_case"
  | lineLength => "line_length"
  | headerMarker => "header_marker"
  | logMarker => "log_marker"

/-- The list of all rules leaves none out. -/
theorem mem_all (r : Rule) : r ∈ all := by cases r <;> decide

/-- The code identifies the rule. -/
theorem code_injective {r s : Rule} (h : r.code = s.code) : r = s := by
  cases r <;> cases s <;> simp_all [code]

end Rule

end HouseStyle
