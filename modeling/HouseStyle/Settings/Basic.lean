import HouseStyle.Error
import HouseStyle.Pattern.Parser

/-!
# Settings

What can be set about a check, the values that hold if nothing is set, and which settings make
sense. `Settings.validate` reports the first fault, limits before patterns; when it reports none,
both patterns are well-formed, so that `Settings.pattern?` cannot fail afterwards.
-/

namespace HouseStyle

/-- The settings of a check. -/
structure Settings where
  maxLineLength : Nat := 120
  /-- The greatest number of lines in the body of a method. -/
  maxMethodLength : Nat := 50
  /-- Whether the first line must hold the header marker. -/
  requireHeader : Bool := false
  /-- Whether some line must hold the log marker. -/
  requireLog : Bool := false
  /-- Whether numbers in the code need a name. -/
  checkMagicNumbers : Bool := false
  headerPattern : String := "\\$Id(?::[^$]*)?\\$"
  logPattern : String := "\\$Log(?::[^$]*)?\\$"
  deriving DecidableEq, Repr

namespace Settings

/-- The text of a marker's pattern. -/
def patternText (s : Settings) : Marker → String
  | .header => s.headerPattern
  | .log => s.logPattern

/-- Whether a marker is required. -/
def requires (s : Settings) : Marker → Bool
  | .header => s.requireHeader
  | .log => s.requireLog

/-- The pattern of a marker. -/
def pattern? (s : Settings) (m : Marker) : Except Error Pattern :=
  match Pattern.ofString? (s.patternText m) with
  | some p => .ok p
  | none => .error (.badPattern m (s.patternText m))

/-- A limit must leave room for something. -/
def checkLimit (key : String) (limit : Nat) : Except Error Unit :=
  if limit = 0 then .error (.badSetting (key ++ " must be greater than 0")) else .ok ()

/-- Reports the first setting that makes no sense. -/
def validate (s : Settings) : Except Error Unit := do
  checkLimit "max_line_length" s.maxLineLength
  checkLimit "max_method_length" s.maxMethodLength
  let _ ← s.pattern? .header
  let _ ← s.pattern? .log

end Settings

end HouseStyle
