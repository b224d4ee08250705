/-!
# Options

The choices that a user makes on the command line, with what holds if they are not made.
-/

namespace HouseStyle

/-- When the output is coloured. -/
inductive ColourChoice where
  | auto
  | always
  | never
  deriving DecidableEq, Repr

namespace ColourChoice

/-- The name of a choice. -/
def name : ColourChoice → String
  | auto => "auto"
  | always => "always"
  | never => "never"

/-- The choice with a name. -/
def ofName? (name : String) : Option ColourChoice :=
  [auto, always, never].find? fun c => c.name = name

/-- Whether output is coloured that goes to a terminal or to something else. -/
def isOn (onTerminal : Bool) : ColourChoice → Bool
  | auto => onTerminal
  | always => true
  | never => false

end ColourChoice

/-- The form of a report. -/
inductive ReportFormat where
  | text
  | json
  deriving DecidableEq, Repr

namespace ReportFormat

/-- The name of a form. -/
def name : ReportFormat → String
  | text => "text"
  | json => "json"

/-- The form with a name; case does not count. Only ASCII letters have the letters of the names as
their small forms. -/
def ofName? (name : String) : Option ReportFormat :=
  [text, json].find? fun f => f.name.toList = name.toList.map Char.toLower

/-- What is said about a name that no form has. -/
def unknown (name : String) : String := "Unknown output format: " ++ name

end ReportFormat

/-- The choices of a user. -/
structure Options where
  files : List String := []
  /-- How much is told about the progress. -/
  verbosity : Nat := 0
  /-- Whether the report is not printed. -/
  quiet : Bool := false
  colour : ColourChoice := .auto
  settingsFile : Option String := none
  noSettingsFile : Bool := false
  maxLineLength : Option Nat := none
  maxMethodLength : Option Nat := none
  requireHeader : Bool := false
  requireLog : Bool := false
  magicNumbers : Bool := false
  format : ReportFormat := .text
  /-- The file that the report goes to. -/
  output : Option String := none
  /-- Whether violations do not count as a failure. -/
  warnOnly : Bool := false
  deriving DecidableEq, Repr

end HouseStyle
