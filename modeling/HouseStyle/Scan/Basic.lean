import HouseStyle.Method.Tracker
import HouseStyle.Rule.Line
import HouseStyle.Scan.Markers
import HouseStyle.Text.Lines

/-!
# Scanning a file

A scan goes over the lines of a file once. On every line it reports the header marker, if it is the
first line, then the line rules and the method that ends there. The log marker comes at the end.
-/

namespace HouseStyle

/-- Everything that a scan looks for. -/
structure Scanner where
  /-- The rules on single lines, in the order in which they are evaluated. -/
  rules : List LineRule
  markers : Markers
  /-- The greatest number of lines in the body of a method. -/
  maxMethodLength : Nat

/-- What a scan remembers from one line to the next. -/
structure ScanState where
  /-- The number of the next line. -/
  number : Nat := 1
  /-- The text of the line before. -/
  previous : Option String := none
  /-- What is remembered of the method that is open. -/
  registers : Registers := {}
  log : LogWatch

namespace Scanner

/-- The scanner for the given settings. -/
def ofSettings (s : Settings) : Except Error Scanner := do
  let markers ← Markers.ofSettings s
  return {
    rules := LineRule.standard s.maxLineLength s.checkMagicNumbers
    markers
    maxMethodLength := s.maxMethodLength }

/-- Scans one line. -/
def scanLine (scanner : Scanner) (state : ScanState) (text : String) :
    ScanState × List Violation :=
  let header := if state.number = 1 then scanner.markers.checkHeader text else none
  let line : Line := ⟨state.number, text, state.previous⟩
  let (registers, tooLong) := state.registers.feed scanner.maxMethodLength state.number text
  ({ number := state.number + 1, previous := some text, registers, log := state.log.observe text },
    header.toList ++ LineRule.checkAll scanner.rules line ++ tooLong.toList)

/-- Scans the remaining lines, and gives the verdict on the log marker. -/
def scanFrom (scanner : Scanner) (state : ScanState) : List String → List Violation
  | [] => state.log.verdict.toList
  | text :: rest =>
    let (state, found) := scanner.scanLine state text
    found ++ scanner.scanFrom state rest

/-- The violations of the lines of a file. A file without lines has an empty first line as far as
the header is concerned. -/
def scan (scanner : Scanner) (lines : List String) : List Violation :=
  let header := if lines.isEmpty then scanner.markers.checkHeader "" else none
  header.toList ++ scanner.scanFrom { log := scanner.markers.watch } lines

/-- The violations of a file with the given content. -/
def scanContent (scanner : Scanner) (content : String) : List Violation :=
  scanner.scan (Text.splitLines content)

end Scanner

end HouseStyle
