import HouseStyle.Rule.Basic

/-!
# Violations

What is reported when a rule is broken: the rule, where, and what was measured. The four
constructors below cover the four ways in which a violation arises.
-/

namespace HouseStyle

/-- A measured value and the limit it was held against. -/
structure Measurement where
  actual : Nat
  limit : Nat
  deriving DecidableEq, Repr

/-- One broken rule. -/
structure Violation where
  rule : Rule
  /-- The number of the line, counted from 1, unless the file as a whole is at fault. -/
  line : Option Nat
  text : Option String
  method : Option String
  measurement : Option Measurement
  deriving DecidableEq, Repr

namespace Violation

/-- A violation on a line, with its text. -/
def onLine (rule : Rule) (line : Nat) (text : String) : Violation :=
  ⟨rule, some line, some text, none, none⟩

/-- A violation on a line, with its text, where a measured value exceeds a limit. -/
def measured (rule : Rule) (line : Nat) (text : String) (actual limit : Nat) : Violation :=
  ⟨rule, some line, some text, none, some ⟨actual, limit⟩⟩

/-- A method that opens on the given line and whose body is too long. -/
def methodTooLong (name : String) (line actual limit : Nat) : Violation :=
  ⟨.methodLength, some line, none, some name, some ⟨actual, limit⟩⟩

/-- A violation of the file as a whole. -/
def wholeFile (rule : Rule) : Violation := ⟨rule, none, none, none, none⟩

/-- The sentence that describes a violation; what was not measured reads as zero. -/
def description (v : Violation) : String :=
  let m := v.measurement.getD ⟨0, 0⟩
  match v.rule with
  | .classComment => "The class or variable doesn't have any comment."
  | .methodLength =>
    "The method is longer than " ++ toString m.limit ++ " lines (" ++ toString m.actual ++ ")."
  | .variableComment => "The variable is not commented."
  | .tabIndent => "There is a tab at this line."
  | .magicNumber => "This value isn't a constant, it may be a magic number."
  | .constantCase => "This constant has one or more lowercase character in it."
  | .lineLength =>
    "Line is longer than " ++ toString m.limit ++ " characters (" ++ toString m.actual ++ ")."
  | .headerMarker => "The file doesn't start with the required header marker."
  | .logMarker => "The file doesn't contain the required log marker."

end Violation

end HouseStyle
