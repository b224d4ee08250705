import HouseStyle.Command.Options

/-!
# Arguments

How the choices are written on the command line. A switch stands alone, a parameter has a value,
which is attached to it or follows as the next argument, and everything else is a file to check.
Switches with a short name can be written together, and two dashes end the switches and
parameters.

A value that follows as an argument of its own, and the files, are taken into account when the
next switch, parameter or group of files is reached; so an argument that is unknown is reported
before a fault in the value in front of it.
-/

namespace HouseStyle

/-- A switch of the command line. -/
inductive Switch where
  | verbose
  | quiet
  | noConfig
  | requireHeader
  | requireLog
  | magicNumbers
  | warnOnly
  | help
  | version
  deriving DecidableEq, Repr

namespace Switch

/-- All switches. -/
def all : List Switch :=
  [verbose, quiet, noConfig, requireHeader, requireLog, magicNumbers, warnOnly, help, version]

/-- The long name of a switch. -/
def name : Switch → String
  | verbose => "verbose"
  | quiet => "quiet"
  | noConfig => "no-config"
  | requireHeader => "require-header"
  | requireLog => "require-log"
  | magicNumbers => "magic-numbers"
  | warnOnly => "warn-only"
  | help => "help"
  | version => "version"

/-- The short name of a switch. -/
def letter? : Switch → Option Char
  | verbose => some 'v'
  | quiet => some 'q'
  | help => some 'h'
  | version => some 'V'
  | _ => none

/-- How messages show a switch: one that may be repeated has dots. -/
def shown (s : Switch) : String := "--" ++ s.name ++ if s = verbose then "..." else ""

end Switch

/-- A parameter of the command line. -/
inductive Parameter where
  | colour
  | config
  | maxLineLength
  | maxMethodLength
  | format
  | output
  deriving DecidableEq, Repr

namespace Parameter

/-- All parameters. -/
def all : List Parameter := [colour, config, maxLineLength, maxMethodLength, format, output]

/-- The long name of a parameter. -/
def name : Parameter → String
  | colour => "color"
  | config => "config"
  | maxLineLength => "max-line-length"
  | maxMethodLength => "max-method-length"
  | format => "format"
  | output => "output"

/-- The short name of a parameter. -/
def letter? : Parameter → Option Char
  | config => some 'c'
  | format => some 'f'
  | output => some 'o'
  | _ => none

/-- What messages call the value of a parameter. -/
def valueName : Parameter → String
  | colour => "COLOR"
  | config => "CONFIG"
  | maxLineLength => "MAX_LINE_LENGTH"
  | maxMethodLength => "MAX_METHOD_LENGTH"
  | format => "FORMAT"
  | output => "OUTPUT"

/-- How messages show a parameter. -/
def shown (p : Parameter) : String := "--" ++ p.name ++ " <" ++ p.valueName ++ ">"

end Parameter

/-- A named argument. -/
inductive Named where
  | switch (s : Switch)
  | parameter (p : Parameter)
  deriving DecidableEq, Repr

namespace Named

/-- All named arguments. -/
def all : List Named := Switch.all.map switch ++ Parameter.all.map parameter

/-- The long name of an argument. -/
def name : Named → String
  | switch s => s.name
  | parameter p => p.name

/-- The short name of an argument. -/
def letter? : Named → Option Char
  | switch s => s.letter?
  | parameter p => p.letter?

/-- How messages show an argument. -/
def shown : Named → String
  | switch s => s.shown
  | parameter p => p.shown

/-- The argument with a long name. -/
def ofName? (name : String) : Option Named := all.find? fun a => a.name = name

/-- The argument with a short name. -/
def ofLetter? (c : Char) : Option Named := all.find? fun a => a.letter? = some c

end Named

/-- Why a number is not accepted. -/
inductive NumberFault where
  | empty
  | badDigit
  /-- The number does not fit into 64 bits. -/
  | tooLarge
  deriving DecidableEq, Repr

/-- The sentence for a fault of a number. -/
def NumberFault.message : NumberFault → String
  | empty => "cannot parse integer from empty string"
  | badDigit => "invalid digit found in string"
  | tooLarge => "number too large to fit in target type"

/-- Why a command line is not carried out. -/
inductive UsageError where
  | unknown (argument : String)
  /-- A value is missing or must not be empty. -/
  | noValue (shown : String)
  | badChoice (value shown : String)
  | badValue (value shown reason : String)
  | repeated (shown : String)
  | conflict (first second : String)
  | unwantedValue (value shown : String)
  | help
  | version
  deriving DecidableEq, Repr

namespace UsageError

/-- A text in single quotes. -/
def quote (text : String) : String := "'" ++ text ++ "'"

/-- The sentence for an error; the explanation of the program is not modelled. -/
def message? : UsageError → Option String
  | unknown argument => some ("error: unexpected argument " ++ quote argument ++ " found")
  | noValue shown =>
    some ("error: a value is required for " ++ quote shown ++ " but none was supplied")
  | badChoice value shown =>
    some ("error: invalid value " ++ quote value ++ " for " ++ quote shown)
  | badValue value shown reason =>
    some ("error: invalid value " ++ quote value ++ " for " ++ quote shown ++ ": " ++ reason)
  | repeated shown =>
    some ("error: the argument " ++ quote shown ++ " cannot be used multiple times")
  | conflict first second =>
    some ("error: the argument " ++ quote first ++ " cannot be used with " ++ quote second)
  | unwantedValue value shown =>
    some ("error: unexpected value " ++ quote value ++ " for " ++ quote shown
      ++ " found; no more were expected")
  | help => none
  | version => some "commandments 0.1.0"

/-- The exit code for an error: asking for information is none. -/
def exitCode : UsageError → Nat
  | help | version => 0
  | _ => 2

end UsageError

/-! ## Values -/

/-- The largest number of 64 bits. -/
def maxNumber : Nat := 0xFFFFFFFFFFFFFFFF

/-- Reads digits behind the number `n`, not beyond 64 bits. -/
def readNumber (n : Nat) : List Char → Except NumberFault Nat
  | [] => .ok n
  | c :: rest =>
    if !c.isDigit then .error .badDigit
    else
      let n := 10 * n + (c.toNat - '0'.toNat)
      if n ≤ maxNumber then readNumber n rest else .error .tooLarge

/-- Reads a number of 64 bits; a plus sign may stand in front. -/
def parseNumber (text : String) : Except NumberFault Nat :=
  match text.toList with
  | [] => .error .empty
  | ['+'] => .error .badDigit
  | '+' :: digits => readNumber 0 digits
  | digits => readNumber 0 digits

namespace Options

/-- Reads a number for a parameter. -/
def numberFor (p : Parameter) (value : String) : Except UsageError Nat :=
  (parseNumber value).mapError fun fault => .badValue value p.shown fault.message

/-- Sets the value of a parameter. -/
def setParameter (o : Options) (p : Parameter) (value : String) : Except UsageError Options :=
  match p with
  | .maxLineLength => do return { o with maxLineLength := some (← numberFor p value) }
  | .maxMethodLength => do return { o with maxMethodLength := some (← numberFor p value) }
  | .format =>
    match ReportFormat.ofName? value with
    | some format => .ok { o with format }
    | none => .error (.badValue value p.shown (ReportFormat.unknown value))
  | .colour =>
    if value = "" then .error (.noValue p.shown)
    else
      match ColourChoice.ofName? value with
      | some colour => .ok { o with colour }
      | none => .error (.badChoice value p.shown)
  | .config =>
    if value = "" then .error (.noValue p.shown) else .ok { o with settingsFile := some value }
  | .output =>
    if value = "" then .error (.noValue p.shown) else .ok { o with output := some value }

/-- Turns on a switch. Verbosity has no more than 255 degrees. -/
def setSwitch (o : Options) : Switch → Except UsageError Options
  | .verbose => .ok { o with verbosity := min (o.verbosity + 1) 255 }
  | .quiet => .ok { o with quiet := true }
  | .noConfig => .ok { o with noSettingsFile := true }
  | .requireHeader => .ok { o with requireHeader := true }
  | .requireLog => .ok { o with requireLog := true }
  | .magicNumbers => .ok { o with magicNumbers := true }
  | .warnOnly => .ok { o with warnOnly := true }
  | .help => .error .help
  | .version => .error .version

/-- Adds a file to check. -/
def addFile (o : Options) (file : String) : Except UsageError Options :=
  if file = "" then .error (.noValue "[FILES]...") else .ok { o with files := o.files ++ [file] }

end Options

/-! ## The command line -/

/-- What has been read but not taken into account yet. -/
inductive Pending where
  | nothing
  /-- A parameter whose value has not been reached. -/
  | parameter (p : Parameter)
  | value (p : Parameter) (value : String)
  /-- Files, the last one first. -/
  | files (files : List String)

/-- A command line that is being read. -/
structure Reading where
  options : Options := {}
  given : List Named := []
  /-- What is still to be taken into account. -/
  pending : Pending := .nothing

namespace Reading

/-- Records that an argument is given. -/
def give (r : Reading) (a : Named) : Except UsageError Reading :=
  if r.given.contains a ∧ a ≠ .switch .verbose then .error (.repeated a.shown)
  else .ok { r with given := r.given ++ [a] }

/-- Takes a parameter and its value into account. -/
def accept (r : Reading) (p : Parameter) (value : String) : Except UsageError Reading := do
  let r ← r.give (.parameter p)
  let options ← r.options.setParameter p value
  return { r with options }

/-- Takes into account what is pending. -/
def settle (r : Reading) : Except UsageError Reading := do
  let done := { r with pending := .nothing }
  match r.pending with
  | .nothing => return done
  | .parameter p => throw (.noValue p.shown)
  | .value p value => done.accept p value
  | .files files => do
    let options ← files.reverse.foldlM Options.addFile done.options
    return { done with options }

/-- Takes a switch into account. -/
def turnOn (r : Reading) (s : Switch) : Except UsageError Reading := do
  let r ← r.settle
  let r ← if s = .help ∨ s = .version then pure r else r.give (.switch s)
  let options ← r.options.setSwitch s
  return { r with options }

/-- Takes a parameter into account, whose value may be attached. -/
def setTo (r : Reading) (p : Parameter) (value : Option String) : Except UsageError Reading := do
  let r ← r.settle
  match value with
  | some value => r.accept p value
  | none => return { r with pending := .parameter p }

/-- Reads an argument behind two dashes. -/
def long (r : Reading) (text : List Char) : Except UsageError Reading := do
  let name := String.ofList (text.takeWhile (· != '='))
  let value : Option String :=
    match text.dropWhile (· != '=') with
    | [] => none
    | _ :: rest => some (String.ofList rest)
  match Named.ofName? name, value with
  | none, _ => throw (.unknown ("--" ++ name))
  | some (.parameter p), value => r.setTo p value
  | some (.switch s), none => r.turnOn s
  | some (.switch s), some value => throw (.unwantedValue value s.shown)

/-- Reads short names behind a dash. What follows the name of a parameter is its value; an equals
sign between them does not count. -/
def short (r : Reading) : List Char → Except UsageError Reading
  | [] => .ok r
  | c :: rest =>
    match Named.ofLetter? c with
    | none => .error (.unknown (String.ofList ['-', c]))
    | some (.switch s) => do short (← r.turnOn s) rest
    | some (.parameter p) =>
      match rest with
      | [] => r.setTo p none
      | '=' :: value => r.setTo p (some (String.ofList value))
      | value => r.setTo p (some (String.ofList value))

/-- Adds a file to check. -/
def file (r : Reading) (text : String) : Except UsageError Reading :=
  match r.pending with
  | .files files => .ok { r with pending := .files (text :: files) }
  | _ => do return { ← r.settle with pending := .files [text] }

/-- Reads an argument that is not a named one: the value of the parameter before it, or a file. -/
def plain (r : Reading) (text : String) : Except UsageError Reading :=
  match r.pending with
  | .parameter p => .ok { r with pending := .value p text }
  | _ => r.file text

/-- Reads one argument. -/
def argument (r : Reading) (text : String) : Except UsageError Reading :=
  match text.toList with
  | '-' :: '-' :: rest => r.long rest
  | '-' :: c :: rest => r.short (c :: rest)
  | _ => r.plain text

/-- Reads the arguments of a command line. -/
def arguments (r : Reading) : List String → Except UsageError Reading
  | [] => .ok r
  | text :: rest =>
    if text = "--" then rest.foldlM file r
    else do arguments (← r.argument text) rest

/-- Checks that no two arguments exclude each other. -/
def finish (r : Reading) : Except UsageError Options := do
  let r ← r.settle
  let exclusive := r.given.filter fun a => a = .parameter .config ∨ a = .switch .noConfig
  match exclusive with
  | first :: second :: _ => throw (.conflict first.shown second.shown)
  | _ => return r.options

end Reading

/-- The choices that a command line makes. -/
def Options.parse (arguments : List String) : Except UsageError Options := do
  (← Reading.arguments {} arguments).finish

end HouseStyle
