/-!
# Errors

Everything that can go wrong apart from violations, by cause, and how it is told to the user: a
label for the kind of error, a message, the underlying cause and a suggestion.

Patterns and settings files are read by libraries, and what these say about a text that they do not
accept is passed on word for word. `Words` stands for it: it is not decided here.
-/

namespace HouseStyle

/-- A marker that a file can be required to hold. -/
inductive Marker where
  /-- The marker on the first line. -/
  | header
  /-- The marker anywhere in the file. -/
  | log
  deriving DecidableEq, Repr

/-- The key under which the pattern of a marker is set. -/
def Marker.key : Marker → String
  | header => "header_pattern"
  | log => "log_pattern"

/-- What is wrong with a settings file. -/
inductive SettingsFlaw where
  /-- The file is no well-formed document. -/
  | malformed
  /-- A number is out of the range that any setting could have. -/
  | outOfRange
  | unknownKey (key : String) (expected : List String)
  | wrongType (found expected : String)
  /-- A value is of the right type but not allowed. -/
  | wrongValue (found expected : String)
  deriving DecidableEq, Repr

namespace SettingsFlaw

/-- A name in backquotes. -/
def backquoted (name : String) : String := "`" ++ name ++ "`"

/-- The sentence for a flaw of a key or its value. -/
def message? : SettingsFlaw → Option String
  | malformed | outOfRange => none
  | unknownKey key expected => some <|
    "unknown field " ++ backquoted key ++ ", expected one of "
      ++ ", ".intercalate (expected.map backquoted)
  | wrongType found expected => some ("invalid type: " ++ found ++ ", expected " ++ expected)
  | wrongValue found expected => some ("invalid value: " ++ found ++ ", expected " ++ expected)

end SettingsFlaw

/-- A settings file that cannot be used. -/
structure SettingsProblem where
  document : String
  flaw : SettingsFlaw
  deriving DecidableEq, Repr

/-- The sentence for a problem with a key or its value. -/
def SettingsProblem.message? (p : SettingsProblem) : Option String := p.flaw.message?

/-- What the libraries say about texts that they do not accept; nothing, if it is not known. -/
structure Words where
  /-- On the text of a pattern. -/
  pattern : String → String
  /-- On the text of a settings file. -/
  document : String → String
  deriving Inhabited

/-- A failure of the program. -/
inductive Error where
  | noFiles
  | unreadable (path cause : String)
  | badSetting (problem : String)
  | badPattern (marker : Marker) (pattern : String)
  /-- The report cannot be written. -/
  | unwritable (cause : String)
  | badSettingsFile (problem : SettingsProblem)
  | notJson (cause : String)
  deriving DecidableEq, Repr

namespace Error

/-- The label of a kind of error. -/
def label : Error → String
  | noFiles => "Usage"
  | unreadable .. => "FileRead"
  | badSetting _ | badPattern .. | badSettingsFile _ => "Config"
  | unwritable _ => "IO"
  | notJson _ => "Output"

/-- The sentence that tells what went wrong. -/
def message (e : Error) (words : Words := default) : String :=
  match e with
  | noFiles => "No file to check was given"
  | unreadable path _ => "Failed to read file: " ++ path
  | badSetting problem => "Configuration error: " ++ problem
  | badPattern marker pattern => "Invalid pattern for " ++ marker.key ++ ": " ++ pattern
  | unwritable cause => "IO error: " ++ cause
  | badSettingsFile problem => "TOML parse error: " ++ words.document problem.document
  | notJson cause => "JSON serialization error: " ++ cause

/-- What the error goes back to, if to anything. -/
def cause? (e : Error) (words : Words := default) : Option String :=
  match e with
  | noFiles | badSetting _ => none
  | unreadable _ cause | unwritable cause | notJson cause => some cause
  | badPattern _ pattern => some (words.pattern pattern)
  | badSettingsFile problem => some (words.document problem.document)

/-- What the user can do about it. -/
def suggestion? : Error → Option String
  | noFiles => some "pass the path of the file to check, e.g. `commandments Main.java`"
  | unreadable .. => some "check that the file exists and is valid UTF-8"
  | badPattern .. => some "patterns use Rust regex syntax"
  | badSettingsFile _ => some "see `.commandments.toml` keys in the README"
  | badSetting _ | unwritable _ | notJson _ => none

end Error

end HouseStyle
