import HouseStyle.Proofs.Method.Feeding
import HouseStyle.Scan.Basic

/-!
# A pass over the lines

A scan carries four things from line to line: the number, the line before, the open method and the
watch for the log marker. Behind several lines each of them is told without the other three
(`after_number`, `after_previous`, `after_method`, `after_log`). The header marker is looked for on
the first line alone, so that its verdict stands in front of all that the lines bring
(`scan_eq_append`). What is found on the lines splits at every point (`findings_append`), and is a
list of pieces, one for each line, that only use the line, the one before, and what a tracker of its
own reports on the line (`findings_eq_flatMap`).
-/

namespace HouseStyle

/-- The method that is open in front of the next line. -/
def ScanState.method (state : ScanState) : Option OpenMethod := state.registers.method?

namespace Scanner

variable (scanner : Scanner)

/-! ## One line -/

/-- What a scan finds on a line, the header marker apart. -/
def lineFindings (state : ScanState) (text : String) : List Violation :=
  LineRule.checkAll scanner.rules ⟨state.number, text, state.previous⟩ ++
    (feedLine scanner.maxMethodLength state.method state.number text).2.toList

theorem method_scanLine (state : ScanState) (text : String) :
    (scanner.scanLine state text).1.method =
      (feedLine scanner.maxMethodLength state.method state.number text).1 :=
  congrArg Prod.fst (state.registers.feed_eq scanner.maxMethodLength state.number text)

/-- On a line the header marker comes first, if the line does. -/
theorem scanLine_snd (state : ScanState) (text : String) : (scanner.scanLine state text).2 =
    (if state.number = 1 then scanner.markers.checkHeader text else none).toList ++
      scanner.lineFindings state text := by
  have hfeed := congrArg Prod.snd
    (state.registers.feed_eq scanner.maxMethodLength state.number text)
  simp only at hfeed
  rw [lineFindings, ScanState.method, ← hfeed, ← List.append_assoc]
  rfl

/-! ## States and findings -/

/-- What a scan remembers behind several lines. -/
def after (state : ScanState) (lines : List String) : ScanState :=
  lines.foldl (fun state text => (scanner.scanLine state text).1) state

/-- What a scan finds on several lines, without the verdicts on the markers. -/
def findings (state : ScanState) : List String → List Violation
  | [] => []
  | text :: lines =>
    scanner.lineFindings state text ++ findings (scanner.scanLine state text).1 lines

theorem after_cons (state : ScanState) (text : String) (lines : List String) :
    scanner.after state (text :: lines) =
      scanner.after (scanner.scanLine state text).1 lines :=
  rfl

/-- Behind the first line no line is looked at for the header marker. -/
theorem scanFrom_eq : ∀ {state : ScanState} (lines : List String), 1 < state.number →
    scanner.scanFrom state lines =
      scanner.findings state lines ++ (scanner.after state lines).log.verdict.toList
  | _, [], _ => rfl
  | state, text :: lines, h => by
    have hnext : 1 < (scanner.scanLine state text).1.number := Nat.lt_succ_of_lt h
    have ih := scanFrom_eq lines hnext
    have hfound : (scanner.scanLine state text).2 = scanner.lineFindings state text := by
      rw [scanLine_snd, if_neg (Nat.ne_of_gt h)]
      rfl
    rw [findings, after_cons, List.append_assoc, ← ih, ← hfound]
    rfl

/-- A report is the verdict on the header, what the lines bring, and the verdict on the log marker.
The header of a file without lines is empty. -/
theorem scan_eq_append (lines : List String) : scanner.scan lines =
    (scanner.markers.checkHeader (lines.headD "")).toList ++
      (scanner.findings { log := scanner.markers.watch } lines ++
        (scanner.after { log := scanner.markers.watch } lines).log.verdict.toList) := by
  cases lines with
  | nil => rfl
  | cons text lines =>
    have hfirst := scanner.scanLine_snd { log := scanner.markers.watch } text
    have hnumber : 1 < (scanner.scanLine { log := scanner.markers.watch } text).1.number :=
      Nat.lt_succ_self 1
    have hrest := scanner.scanFrom_eq lines hnumber
    rw [if_pos rfl] at hfirst
    rw [findings, after_cons, List.append_assoc, ← hrest, ← List.append_assoc, List.headD_cons,
      ← hfirst]
    rfl

theorem findings_append : ∀ (state : ScanState) (xs ys : List String),
    scanner.findings state (xs ++ ys) =
      scanner.findings state xs ++ scanner.findings (scanner.after state xs) ys
  | _, [], _ => rfl
  | state, text :: xs, ys => by
    have ih := findings_append (scanner.scanLine state text).1 xs ys
    rw [List.cons_append, findings, ih, findings, after_cons, List.append_assoc]

/-! ## What is remembered -/

theorem after_number : ∀ (state : ScanState) (lines : List String),
    (scanner.after state lines).number = state.number + lines.length
  | _, [] => rfl
  | state, text :: lines => by
    have ih := after_number (scanner.scanLine state text).1 lines
    rw [after_cons, ih, List.length_cons, Nat.add_comm lines.length 1, ← Nat.add_assoc]
    rfl

theorem after_previous : ∀ (state : ScanState) (lines : List String),
    (scanner.after state lines).previous = lines.getLast?.or state.previous
  | _, [] => rfl
  | state, text :: lines => by
    rw [after_cons, after_previous (scanner.scanLine state text).1 lines, List.getLast?_cons]
    cases lines.getLast? <;> rfl

theorem after_method : ∀ (state : ScanState) (lines : List String),
    (scanner.after state lines).method =
      methodAfter scanner.maxMethodLength state.method (numberFrom state.number lines)
  | _, [] => rfl
  | state, text :: lines => by
    rw [after_cons, after_method (scanner.scanLine state text).1 lines, method_scanLine]
    rfl

theorem after_log : ∀ (state : ScanState) (lines : List String),
    (scanner.after state lines).log = lines.foldl LogWatch.observe state.log
  | _, [] => rfl
  | state, text :: lines => by
    rw [after_cons, after_log (scanner.scanLine state text).1 lines]
    rfl

/-! ## What is found -/

/-- The `i`-th of several lines, counted from 0, as the line rules see it. -/
def lineSeen (state : ScanState) (lines : List String) (i : Nat) : Line where
  number := state.number + i
  text := lines.getD i ""
  previous := match i with
    | 0 => state.previous
    | j + 1 => lines[j]?

/-- Behind the first line, the lines are seen as they are by the state behind it. -/
theorem lineSeen_succ (state : ScanState) (text : String) (lines : List String) (i : Nat) :
    lineSeen state (text :: lines) (i + 1) = lineSeen (scanner.scanLine state text).1 lines i := by
  have hn : state.number + (i + 1) = state.number + 1 + i := by omega
  cases i with
  | zero => simp [lineSeen, scanLine]
  | succ j => simp [lineSeen, scanLine, hn]

/-- The findings are those of the single lines: the line rules first, then the method that ends
there. -/
theorem findings_eq_flatMap : ∀ (state : ScanState) (lines : List String),
    scanner.findings state lines = (List.range lines.length).flatMap fun i =>
      LineRule.checkAll scanner.rules (lineSeen state lines i) ++
        ((feedLines scanner.maxMethodLength state.method
          (numberFrom state.number lines))[i]?.bind Prod.snd).toList
  | _, [] => rfl
  | state, text :: lines => by
    have ih := findings_eq_flatMap (scanner.scanLine state text).1 lines
    rw [findings, ih, List.length_cons, List.range_succ_eq_map, List.flatMap_cons,
      List.flatMap_map, method_scanLine]
    simp only [Nat.succ_eq_add_one, lineSeen_succ scanner, numberFrom, feedLines,
      List.getElem?_cons_succ]
    rfl

end Scanner

end HouseStyle
