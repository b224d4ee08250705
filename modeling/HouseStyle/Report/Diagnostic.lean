import HouseStyle.Error
import HouseStyle.Report.Style

/-!
# Messages beside the report

What goes to the error stream: errors with their cause and a suggestion, warnings, and notes on
the progress. Every line of a message has a wording of its own with colours and one without.
-/

namespace HouseStyle

/-- A message to the user. -/
inductive Diagnostic where
  | error (label message : String) (cause suggestion : Option String)
  | warning (message : String)
  | note (message : String)
  deriving DecidableEq, Repr

namespace Diagnostic

/-- The message for an error. -/
def ofError (e : Error) (words : Words) : Diagnostic :=
  .error e.label (e.message words) (e.cause? words) e.suggestion?

open Style

/-- The first line of the message for an error. -/
def headline (colours : Bool) (label message : String) : String :=
  if colours then bold.start ++ red.start ++ "✖ " ++ label ++ ":" ++ reset ++ " " ++ message ++ "\n"
  else "✖ " ++ label ++ ": " ++ message ++ "\n"

/-- The line for the cause of an error. -/
def causeLine (colours : Bool) (cause : String) : String :=
  if colours then "  " ++ dim.start ++ "× " ++ cause ++ reset ++ "\n"
  else "  × " ++ cause ++ "\n"

/-- The line for what the user can do about an error. -/
def suggestionLine (colours : Bool) (suggestion : String) : String :=
  if colours then "  " ++ cyan.start ++ "help:" ++ reset ++ " " ++ suggestion ++ "\n"
  else "  help: " ++ suggestion ++ "\n"

/-- The line of a warning. -/
def warningLine (colours : Bool) (message : String) : String :=
  if colours then bold.start ++ yellow.start ++ "⚠ Warning:" ++ reset ++ " " ++ message ++ "\n"
  else "⚠ Warning: " ++ message ++ "\n"

/-- The line of a note. -/
def noteLine (colours : Bool) (message : String) : String :=
  if colours then dim.start ++ "· " ++ message ++ reset ++ "\n"
  else "· " ++ message ++ "\n"

/-- The text of a message. -/
def render (colours : Bool) : Diagnostic → String
  | error label message cause suggestion =>
    headline colours label message ++ cause.elim "" (causeLine colours)
      ++ suggestion.elim "" (suggestionLine colours)
  | warning message => warningLine colours message
  | note message => noteLine colours message

end Diagnostic

end HouseStyle
