import HouseStyle.Proofs.Scan.Markers
import HouseStyle.Proofs.Scan.Pass
import Mathlib.Data.List.Basic

/-!
# What a scan reports

A scan needs no state to be described. Its report is the verdict on the header, then what is found
on each line in order, then the verdict on the log marker (`scan_eq`). What is found on a line are
the violations of the rules that are on and that the line breaks, always in the same order, and
behind them the method that ends on the line by the count of a tracker of its own.
-/

namespace HouseStyle

/-- The line with the given number, as the line rules see it. -/
def lineWithNumber (lines : List String) (number : Nat) : Line where
  number := number
  text := lineAt lines number
  previous := if number = 1 then none else some (lineAt lines (number - 1))

/-- The violation that comes to light on the line with the given number, by a tracker that is fed
the whole file. -/
def methodEndingOn (max : Nat) (lines : List String) (number : Nat) : Option Violation :=
  (feedLines max none (numberFrom 1 lines))[number - 1]?.bind Prod.snd

namespace Settings

/-- The verdict on the first line of a file. -/
def headerFinding (s : Settings) (first : String) : List Violation :=
  if s.requireHeader && !s.marks .header first then [.onLine .headerMarker 1 first] else []

/-- The rules on single lines that are on and that a line breaks, in order. -/
def brokenRules (s : Settings) (line : Line) : List LineRule :=
  [.classComment, .variableComment, .constantCase, .lineLength s.maxLineLength, .tabIndent,
    .magicNumber].filter fun r => r.isBroken line && (r != .magicNumber || s.checkMagicNumbers)

/-- What is found on the line with the given number. -/
def findingsOn (s : Settings) (lines : List String) (number : Nat) : List Violation :=
  (s.brokenRules (lineWithNumber lines number)).map (·.violation (lineWithNumber lines number)) ++
    (methodEndingOn s.maxMethodLength lines number).toList

/-- The verdict on all lines of a file. -/
def logFinding (s : Settings) (lines : List String) : List Violation :=
  if s.requireLog && !lines.any (s.marks .log) then [.wholeFile .logMarker] else []

end Settings

namespace Scanner

/-- The scanner for given settings has the rules, the markers and the limit of the settings. -/
theorem ofSettings_eq_ok {s : Settings} {scanner : Scanner} (h : ofSettings s = .ok scanner) :
    Markers.ofSettings s = .ok scanner.markers ∧
      scanner.rules = LineRule.standard s.maxLineLength s.checkMagicNumbers ∧
      scanner.maxMethodLength = s.maxMethodLength := by
  obtain ⟨markers, hm, h⟩ := bind_eq_ok.1 h
  obtain rfl := Except.ok.inj h
  exact ⟨hm, rfl, rfl⟩

/-- Settings with every check on. -/
def strictSettings : Settings :=
  { maxLineLength := 20, maxMethodLength := 1, requireHeader := true, requireLog := true,
    checkMagicNumbers := true, headerPattern := "Id", logPattern := "Log+" }

theorem exists_strictScanner : ∃ scanner, ofSettings strictSettings = .ok scanner := by
  have hok : (ofSettings strictSettings).isOk = true := by decide +kernel
  cases hs : ofSettings strictSettings with
  | error e => simp [hs, Except.isOk, Except.toBool] at hok
  | ok scanner => exact ⟨scanner, rfl⟩

theorem checkAll_eq_filter (rules : List LineRule) (line : Line) :
    LineRule.checkAll rules line =
      (rules.filter (·.isBroken line)).map (·.violation line) := by
  rw [← List.filterMap_eq_map, List.filterMap_filter]
  rfl

/-- The rules that a scanner has are those that are on. -/
theorem standard_eq_filter (max : Nat) (magicNumbers : Bool) :
    LineRule.standard max magicNumbers =
      [.classComment, .variableComment, .constantCase, .lineLength max, .tabIndent,
        .magicNumber].filter fun r => r != .magicNumber || magicNumbers := by
  cases magicNumbers <;> rfl

theorem checkAll_standard (s : Settings) (line : Line) :
    LineRule.checkAll (LineRule.standard s.maxLineLength s.checkMagicNumbers) line =
      (s.brokenRules line).map (·.violation line) := by
  rw [checkAll_eq_filter, standard_eq_filter, List.filter_filter]
  rfl

/-- A line that a scan comes to from the start is seen as the line with its number. -/
theorem lineSeen_start (log : LogWatch) {lines : List String} {i : Nat} (h : i < lines.length) :
    lineSeen { log } lines i = lineWithNumber lines (i + 1) := by
  cases i with
  | zero => simp [lineSeen, lineWithNumber, lineAt]
  | succ j =>
    have hj : j < lines.length := Nat.lt_of_succ_lt h
    have hn : 1 + (j + 1) = j + 1 + 1 := Nat.add_comm 1 (j + 1)
    simp [lineSeen, lineWithNumber, lineAt, hj, hn]

/-- The report of a scan: the verdict on the header, what is found on the lines, and the verdict on
the log marker. -/
theorem scan_eq_findings {s : Settings} {scanner : Scanner} (h : ofSettings s = .ok scanner)
    (lines : List String) :
    scanner.scan lines = s.headerFinding (lines.headD "") ++
      scanner.findings { log := scanner.markers.watch } lines ++ s.logFinding lines := by
  obtain ⟨hm, -, -⟩ := ofSettings_eq_ok h
  have hheader : (scanner.markers.checkHeader (lines.headD "")).toList =
      s.headerFinding (lines.headD "") := by
    rw [Markers.checkHeader_eq hm, Settings.headerFinding, Settings.requires]
    split <;> rfl
  have hlog : (scanner.after { log := scanner.markers.watch } lines).log.verdict.toList =
      s.logFinding lines := by
    rw [after_log, LogWatch.verdict_foldl_observe hm, Settings.logFinding, Settings.requires]
    split <;> rfl
  rw [scan_eq_append, hheader, hlog, List.append_assoc]

/-- The report of a scan: the header, the lines one after the other, and the log marker. The empty
file has the empty text for its first line. -/
theorem scan_eq {s : Settings} {scanner : Scanner} (h : ofSettings s = .ok scanner)
    (lines : List String) :
    scanner.scan lines =
      s.headerFinding (lines.headD "") ++ (List.range' 1 lines.length).flatMap (s.findingsOn lines)
        ++ s.logFinding lines := by
  obtain ⟨-, hr, hmax⟩ := ofSettings_eq_ok h
  have hlines : scanner.findings { log := scanner.markers.watch } lines =
      (List.range' 1 lines.length).flatMap (s.findingsOn lines) := by
    rw [findings_eq_flatMap, List.range'_eq_map_range, List.flatMap_map]
    refine List.flatMap_congr fun i hi => ?_
    rw [lineSeen_start _ (List.mem_range.1 hi), hr, hmax, checkAll_standard, Nat.add_comm 1 i]
    rfl
  rw [scan_eq_findings h, hlines]

theorem scan_eq_strict : ∃ scanner, ofSettings strictSettings = .ok scanner ∧
    scanner.scan ["class A", "\tvoid f() \x7b", "a(7);", "", "\x7d"] =
      strictSettings.headerFinding "class A" ++
        (List.range' 1 5).flatMap (strictSettings.findingsOn
          ["class A", "\tvoid f() \x7b", "a(7);", "", "\x7d"]) ++
        strictSettings.logFinding ["class A", "\tvoid f() \x7b", "a(7);", "", "\x7d"] := by
  obtain ⟨scanner, hs⟩ := exists_strictScanner
  exact ⟨scanner, hs, scan_eq hs ["class A", "\tvoid f() \x7b", "a(7);", "", "\x7d"]⟩

end Scanner

end HouseStyle
