import HouseStyle.Decimal.Shortest
import HouseStyle.Settings.Basic
import HouseStyle.Text.Quoted
import HouseStyle.Toml.Document

/-!
# Settings files

A settings file is a TOML document with some of the seven keys. Keys that are missing keep their
default. The keys are visited in alphabetical order and the first that is unknown or has a value
of the wrong type is reported.
-/

namespace HouseStyle

open Toml

/-- A key of a settings file. -/
inductive SettingKey where
  | maxLineLength
  | maxMethodLength
  | requireHeader
  | requireLog
  | checkMagicNumbers
  | pattern (m : Marker)
  deriving DecidableEq, Repr

namespace SettingKey

/-- All keys, in the order in which they are listed to the user. -/
def all : List SettingKey :=
  [maxLineLength, maxMethodLength, requireHeader, requireLog, checkMagicNumbers, pattern .header,
    pattern .log]

/-- The name of a key. -/
def name : SettingKey → String
  | maxLineLength => "max_line_length"
  | maxMethodLength => "max_method_length"
  | requireHeader => "require_header_marker"
  | requireLog => "require_log_marker"
  | checkMagicNumbers => "check_magic_numbers"
  | pattern m => m.key

/-- The key with a name. -/
def ofName? (name : String) : Option SettingKey := all.find? fun k => k.name = name

end SettingKey

/-- The largest signed integer of 64 bits. -/
def maxSigned64 : Int := 0x7FFFFFFFFFFFFFFF

/-- The largest unsigned integer of 64 bits. -/
def maxUnsigned64 : Int := 0xFFFFFFFFFFFFFFFF

/-- The largest signed integer of 128 bits. -/
def maxSigned128 : Int := 0x7FFFFFFFFFFFFFFFFFFFFFFFFFFFFFFF

/-- The largest unsigned integer of 128 bits. -/
def maxUnsigned128 : Int := 0xFFFFFFFFFFFFFFFFFFFFFFFFFFFFFFFF

/-- The name of an integer; beyond the 64-bit ranges it counts as one of 128 bits, signed if it
fits. -/
def describeInteger (n : Int) : Except SettingsFlaw String :=
  if -maxSigned64 - 1 ≤ n ∧ n ≤ maxUnsigned64 then
    .ok ("integer " ++ SettingsFlaw.backquoted (toString n))
  else if -maxSigned128 - 1 ≤ n ∧ n ≤ maxSigned128 then
    .ok ("integer " ++ SettingsFlaw.backquoted (toString n) ++ " as i128")
  else if maxSigned128 < n ∧ n ≤ maxUnsigned128 then
    .ok ("integer " ++ SettingsFlaw.backquoted (toString n) ++ " as u128")
  else .error .outOfRange

/-- What a message calls a value. -/
def describe : Value → Except SettingsFlaw String
  | .string s => .ok ("string " ++ Text.quoted s)
  | .integer n => describeInteger n
  | .float x => .ok ("floating point " ++ SettingsFlaw.backquoted (floatText x))
  | .unreadable | .hugeFloat => .error .outOfRange
  | .boolean b => .ok ("boolean " ++ SettingsFlaw.backquoted (toString b))
  | .array _ | .tables _ => .ok "sequence"
  | .moment | .table .. => .ok "map"

/-- The report of a value that has another type than expected. -/
def unexpected {α : Type} (expected : String) (v : Value) : Except SettingsFlaw α := do
  throw (.wrongType (← describe v) expected)

/-- A limit: a natural number of 64 bits. -/
def limitOf (v : Value) : Except SettingsFlaw Nat :=
  match v with
  | .integer n =>
    if 0 ≤ n ∧ n ≤ maxUnsigned64 then .ok n.toNat
    else if -maxSigned64 - 1 ≤ n ∧ n < 0 then do throw (.wrongValue (← describe v) "usize")
    else unexpected "usize" v
  | v => unexpected "usize" v

/-- A switch. -/
def switchOf : Value → Except SettingsFlaw Bool
  | .boolean b => .ok b
  | v => unexpected "a boolean" v

/-- A text. -/
def textOf : Value → Except SettingsFlaw String
  | .string s => .ok s
  | v => unexpected "a string" v

namespace Settings

/-- Sets what a key stands for. -/
def set (s : Settings) (key : SettingKey) (v : Value) : Except SettingsFlaw Settings :=
  match key with
  | .maxLineLength => do return { s with maxLineLength := ← limitOf v }
  | .maxMethodLength => do return { s with maxMethodLength := ← limitOf v }
  | .requireHeader => do return { s with requireHeader := ← switchOf v }
  | .requireLog => do return { s with requireLog := ← switchOf v }
  | .checkMagicNumbers => do return { s with checkMagicNumbers := ← switchOf v }
  | .pattern .header => do return { s with headerPattern := ← textOf v }
  | .pattern .log => do return { s with logPattern := ← textOf v }

/-- Takes an entry of a document into account. -/
def addEntry (s : Settings) (entry : String × Value) : Except SettingsFlaw Settings :=
  match SettingKey.ofName? entry.1 with
  | some key => s.set key entry.2
  | none => .error (.unknownKey entry.1 (SettingKey.all.map SettingKey.name))

/-- The settings that the entries of a document make. -/
def ofEntries (entries : Entries) : Except SettingsFlaw Settings :=
  (entries.mergeSort fun a b => !(b.1 < a.1)).foldlM addEntry {}

/-- Reads a settings file, whatever sense its values make. -/
def ofDocument (text : String) : Except SettingsProblem Settings :=
  match Document.ofString? text with
  | some entries => (ofEntries entries).mapError (⟨text, ·⟩)
  | none => .error ⟨text, .malformed⟩

/-- Reads a settings file and validates its values. -/
def ofString (text : String) : Except Error Settings := do
  match ofDocument text with
  | .error problem => throw (.badSettingsFile problem)
  | .ok settings => do
    settings.validate
    return settings

end Settings

end HouseStyle
