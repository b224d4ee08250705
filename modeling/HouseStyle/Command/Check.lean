import HouseStyle.Command.Effect
import HouseStyle.Command.Options
import HouseStyle.Report.Json
import HouseStyle.Report.Text
import HouseStyle.Scan.Basic
import HouseStyle.Settings.Discovery

/-!
# A check

A check finds the settings, reads and scans the files, tells about its progress, writes the report
and warns, in this order, and the first error stops it (`Options.checkFiles`). The error is told in
the end (`Options.check`). All of it happens on a file system (`FileSystem.check`), which can be the
files of a tree (`FileTree.check`).
-/

namespace HouseStyle

/-- What the standard streams of a check are connected to. -/
structure Console where
  /-- Whether the standard output is a terminal that shows colours. -/
  isOutputTerminal : Bool := false
  /-- Whether the error stream is a terminal that shows colours. -/
  isErrorTerminal : Bool := false

namespace Options

/-- Whether messages are coloured. -/
def colourMessages (o : Options) (console : Console) : Bool :=
  o.colour.isOn console.isErrorTerminal

/-- Whether the report is coloured; one that goes to a file is not on a terminal. -/
def colourReport (o : Options) (console : Console) : Bool :=
  o.colour.isOn (console.isOutputTerminal && o.output.isNone)

/-- The settings, with the choices of the command line put over them. -/
def override (o : Options) (s : Settings) : Settings :=
  { s with
    maxLineLength := o.maxLineLength.getD s.maxLineLength
    maxMethodLength := o.maxMethodLength.getD s.maxMethodLength
    requireHeader := s.requireHeader || o.requireHeader
    requireLog := s.requireLog || o.requireLog
    checkMagicNumbers := s.checkMagicNumbers || o.magicNumbers }

/-- Loads the settings that the command line asks for. -/
def loadSettings (o : Options) (view : FileView) : Except Error Settings :=
  if o.noSettingsFile then .ok {}
  else
    match o.settingsFile with
    | some path => view.loadSettingsFrom path
    | none => view.loadSettings

/-- Reads a file to check. -/
def readSource (view : FileView) (path : String) : Except Error (String × String) :=
  match view.read path with
  | .ok content => .ok (path, content)
  | .error cause => .error (.unreadable path cause)

/-- Reads the files to check, all of them before any is scanned. -/
def readSources (view : FileView) (paths : List String) : Except Error (List (String × String)) :=
  paths.mapM (readSource view)

end Options

/-- Scans a file. -/
def Scanner.report (scanner : Scanner) (source : String × String) : FileReport where
  path := source.1
  lineCount := (Text.splitLines source.2).length
  violations := scanner.scanContent source.2

/-- The exit code for some reports. -/
def exitCodeOf (warnOnly : Bool) (reports : List FileReport) : Nat :=
  if warnOnly || reports.all FileReport.isClean then 0 else 1

namespace Options

/-- The note on a file. -/
def progressNote (r : FileReport) : Diagnostic :=
  .note ("scanned " ++ r.path ++ " (" ++ toString r.lineCount ++ " lines, "
    ++ toString r.violations.length ++ " violations)")

/-- Tells about the progress, if that is wanted. -/
def tellProgress (o : Options) (reports : List FileReport) : Process Unit := do
  if 0 < o.verbosity then
    reports.forM fun r => Process.tell (progressNote r)

/-- Warns that violations do not count as a failure, if there are some. -/
def warn (o : Options) (reports : List FileReport) : Process Unit := do
  if o.warnOnly && !reports.all FileReport.isClean then
    Process.tell (.warning "violations found, exiting with success because of --warn-only")

/-- The text of a report. -/
def render (o : Options) (console : Console) (reports : List FileReport) : String :=
  match o.format with
  | .text => TextReport.render (o.colourReport console) o.verbosity reports
  | .json => JsonReport.render reports

/-- An attempt to change the files that stops the check if it fails. -/
def change (effect : Effect) : ExceptT Error Process Unit := do
  match ← Process.attempt effect with
  | .ok _ => return
  | .error cause => throw (.unwritable cause)

/-- Writes a report to its file, whose directory is made if it is missing, or prints it. -/
def writeReport (o : Options) (report : String) : ExceptT Error Process Unit := do
  match o.output with
  | some path =>
    let path := Path.ofString path
    if let some directory := path.directory? then
      change (.makeDirectories directory)
    change (.write path report)
  | none => unless o.quiet do Process.print report

/-- Carries out a check as far as there is no error, and gives the exit code. -/
def checkFiles (o : Options) (console : Console) (view : FileView) :
    ExceptT Error Process Nat := do
  if o.files.isEmpty then throw .noFiles
  let settings := o.override (← o.loadSettings view)
  settings.validate
  let sources ← readSources view o.files
  let scanner ← Scanner.ofSettings settings
  let reports := sources.map scanner.report
  o.tellProgress reports
  o.writeReport (o.render console reports)
  o.warn reports
  return exitCodeOf o.warnOnly reports

/-- Carries out a check and tells the error that has stopped it, if there is one. -/
def check (o : Options) (console : Console) (words : Words) (view : FileView) :
    Process (Except Error Nat) := do
  let result ← (o.checkFiles console view).run
  if let .error e := result then
    Process.tell (.ofError e words)
  return result

end Options

/-- The exit code of a check; an error has the code 2. -/
def exitCode : Except Error Nat → Nat
  | .ok code => code
  | .error _ => 2

/-- How a check has ended. -/
structure Outcome where
  /-- The exit code, or the error that has stopped the check. -/
  result : Except Error Nat
  /-- All that the check has done, in order. -/
  effects : List Effect

namespace Outcome

/-- The exit code of the check. -/
def exitCode (o : Outcome) : Nat := HouseStyle.exitCode o.result

/-- The text on the standard output. -/
def printed (o : Outcome) : String :=
  String.join <| o.effects.map fun
    | .print text => text
    | _ => ""

/-- The text on the error stream. -/
def errorText (o : Outcome) (colours : Bool) : String :=
  String.join <| o.effects.map fun
    | .tell message => message.render colours
    | _ => ""

end Outcome

/-- Carries out a check on a file system. -/
def FileSystem.check {σ : Type} (fs : FileSystem σ) (s : σ) (console : Console) (words : Words)
    (o : Options) : Outcome × σ :=
  let run := (o.check console words (fs.view s)).run fs s
  (⟨run.value, run.effects⟩, run.state)

namespace FileTree

/-- The answer to a change that may fail, and the tree behind it: as it was, if the change fails. -/
def answer (t : FileTree) : Except Fault FileTree → Except String Unit × FileTree
  | .ok t => (.ok (), t)
  | .error fault => (.error fault.message, t)

/-- The file system of trees. -/
def fileSystem (userDir : Option String) : FileSystem FileTree where
  view t := t.view userDir
  makeDirectories path t := t.answer (t.makeDirectories path)
  write path text t := t.answer (t.write path text)

/-- Carries out a check on the files of a tree. -/
def check (t : FileTree) (userDir : Option String) (console : Console) (o : Options)
    (words : Words := default) : Outcome × FileTree :=
  (fileSystem userDir).check t console words o

end FileTree

end HouseStyle
