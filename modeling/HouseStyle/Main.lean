import HouseStyle.Command.Check
import HouseStyle.Command.Help

/-!
# The program

Reads the command line and the files it asks for, and carries out the check, one effect after the
other. Everything that is decided is decided by `Options.parse` and `Options.check`.
-/

namespace HouseStyle

/-- The sentence for a failure of the operating system. -/
def failureText : IO.Error → String
  | .noFileOrDirectory .. => Fault.notFound.message
  | .alreadyExists .. => Fault.alreadyThere.message
  | .inappropriateType _ code details =>
    if code = 20 then Fault.notDirectory.message
    else if code = 21 then Fault.isDirectory.message
    else details
  | e => toString e

/-- Reads a text file. -/
def readText (path : String) : IO (Except String String) := do
  match ← (IO.FS.readBinFile path).toBaseIO with
  | .error e => return .error (failureText e)
  | .ok bytes =>
    match String.fromUTF8? bytes with
    | some text => return .ok text
    | none => return .error Fault.notText.message

/-- Whether a path leads to something. -/
def isPresent (path : String) : IO Bool := do
  ((← IO.currentDir) / path).pathExists

/-- The user's directory for settings. -/
def userSettingsDir : IO (Option String) := do
  let base :=
    match ← IO.getEnv "XDG_CONFIG_HOME", ← IO.getEnv "HOME" with
    | some dir, home => if dir.startsWith "/" then some dir else home.map (joinPath · ".config")
    | none, home => home.map (joinPath · ".config")
  return base.map (joinPath · "commandments")

/-- The current directory, if it is known. -/
def currentDirText : IO (Option String) := do
  match ← (toString <$> IO.currentDir).toBaseIO with
  | .ok dir => return some dir
  | .error _ => return none

/-- The view of the files that a check with the given choices can ask for. -/
def openView (o : Options) : IO FileView := do
  let dirs : FileView := {
    currentDir := ← currentDirText
    userDir := ← userSettingsDir
    pathExists := fun _ => false
    read := fun _ => .error Fault.notFound.message }
  let settingsPaths := if o.noSettingsFile then [] else o.settingsFile.toList ++ dirs.settingsPaths
  let seen ← (settingsPaths ++ o.files).mapM fun path => do
    return (path, ← isPresent path, ← readText path)
  return { dirs with
    pathExists := fun path => ((seen.lookup path).map (·.1)).getD false
    read := fun path => ((seen.lookup path).map (·.2)).getD (.error Fault.notFound.message) }

/-- What the standard streams are connected to. Colours are never shown if the user has asked for
none in the environment. -/
def openConsole : IO Console := do
  let wanted := (← IO.getEnv "NO_COLOR").isNone
  return {
    isOutputTerminal := wanted && (← (← IO.getStdout).isTty)
    isErrorTerminal := wanted && (← (← IO.getStderr).isTty) }

/-- What is known of the words of the libraries: what is wrong with the keys and the values of a
settings file. -/
def knownWords : Words where
  pattern _ := ""
  document text :=
    match Settings.ofDocument text with
    | .ok _ => ""
    | .error problem => problem.message?.getD ""

/-- Does something to the files. -/
def changeFiles (change : IO Unit) : IO (Except String Unit) := do
  match ← change.toBaseIO with
  | .ok _ => return .ok ()
  | .error e => return .error (failureText e)

/-- Carries out an effect. -/
def Effect.carryOut (colours : Bool) : Effect → IO (Except String Unit)
  | .tell message => do
    IO.eprint (message.render colours)
    return .ok ()
  | .print text => do
    IO.print text
    return .ok ()
  | .makeDirectories path => changeFiles do IO.FS.createDirAll ((← IO.currentDir) / path.text)
  | .write path text => changeFiles do IO.FS.writeFile ((← IO.currentDir) / path.text) text

/-- Carries out a process. -/
def Process.carryOut {α : Type} (colours : Bool) : Process α → IO α
  | done value => return value
  | act effect next => do (next (← effect.carryOut colours)).carryOut colours

/-- Carries out what a command line asks for, and gives the exit code. -/
def run (arguments : List String) : IO UInt32 := do
  match Options.parse arguments with
  | .error .help => IO.print helpText
  | .error e =>
    let text := e.message?.getD ""
    if e.exitCode = 0 then IO.println text
    else IO.eprintln (text ++ "\n\nFor more information, try '--help'.")
    return UInt32.ofNat e.exitCode
  | .ok o =>
    let console ← openConsole
    let process := o.check console knownWords (← openView o)
    let result ← process.carryOut (o.colourMessages console)
    return UInt32.ofNat (exitCode result)
  return 0

end HouseStyle

/-- The program. -/
def main (arguments : List String) : IO UInt32 := HouseStyle.run arguments
