import HouseStyle.Proofs.Method.Segmentation
import HouseStyle.Proofs.Scan.ClosedForm

/-!
# What violations tell is true

A violation of a file names a line of the file and quotes that very line, or gives the name of the
method that opens there, and it holds a measurement exactly if its rule measures something
(`Violation.Faithful`). The type of violations says none of this: the four ways to make one take
any rule, line and text. Each way is faithful where it is used, by the rules on single lines
(`faithful_of_mem_checkAll`), by the tracker (`faithful_of_mem_tooLong`) and by the verdicts on the
markers, and so is all that is found in a content (`faithful_of_mem_scanContent`).
-/

namespace HouseStyle

/-- The limit that the settings put to what a rule measures. -/
def Settings.limit? (s : Settings) : Rule → Option Nat
  | .lineLength => some s.maxLineLength
  | .methodLength => some s.maxMethodLength
  | _ => none

namespace Violation

/-- The violation with a measurement, the given one if it has none of its own. -/
def measuredOr (fallback : Measurement) (v : Violation) : Violation :=
  { v with measurement := some (v.measurement.getD fallback) }

/-- What a violation found under some settings tells about the lines of a file is true, and it tells
what its rule calls for. -/
structure Faithful (s : Settings) (lines : List String) (v : Violation) : Prop where
  /-- The log marker alone is missed by the file as a whole. -/
  line_eq_none_iff : v.line = none ↔ v.rule = .logMarker
  /-- The line is a line of the file. -/
  line_bounds : ∀ n, v.line = some n → 1 ≤ n ∧ n ≤ lines.length
  /-- There is a text exactly if reports on the rule quote the line. -/
  text_isSome_iff : v.text.isSome ↔ v.rule.quotesLine
  /-- The text is that of the line. -/
  text_eq : ∀ text, v.text = some text → ∃ n, v.line = some n ∧ lines[n - 1]? = some text
  /-- Methods are named where they are too long, and nowhere else. -/
  method_isSome_iff : v.method.isSome ↔ v.rule = .methodLength
  /-- Lengths are measured, and nothing else is. -/
  measurement_isSome_iff :
    v.measurement.isSome ↔ v.rule = .lineLength ∨ v.rule = .methodLength
  /-- What is measured exceeds the limit, which is the one that is set. -/
  exceeds : ∀ m, v.measurement = some m → m.limit < m.actual ∧ s.limit? v.rule = some m.limit
  /-- What stands in for a missing measurement never shows in the description. -/
  description_measuredOr : ∀ fallback, (v.measuredOr fallback).description = v.description
  /-- The length of a line is the number of its characters. -/
  lineLength : v.rule = .lineLength → ∀ m n, v.measurement = some m → v.line = some n →
    m.actual = (lineAt lines n).toList.length
  /-- A method opens on the line, it has that name, and it ends within the file. -/
  methodLength : v.rule = .methodLength → ∀ m n, v.measurement = some m → v.line = some n →
    (openingOn lines n).isSome ∧ v.method = some (methodName (lineAt lines n)) ∧
      n + m.actual + 1 ≤ lines.length

/-! ## Four ways to make a violation -/

variable {s : Settings} {lines : List String} {n : Nat}

theorem getElem?_pred_eq_lineAt (h : 1 ≤ n ∧ n ≤ lines.length) :
    lines[n - 1]? = some (lineAt lines n) := by
  have hn : n - 1 < lines.length := by omega
  simp [lineAt, hn]

/-- A quoted line is told faithfully for every rule that quotes lines and measures nothing. -/
theorem faithful_onLine {rule : Rule} (h : 1 ≤ n ∧ n ≤ lines.length)
    (hq : rule.quotesLine = true) (hl : rule ≠ .lineLength) :
    (onLine rule n (lineAt lines n)).Faithful s lines where
  line_eq_none_iff := by cases rule <;> simp_all [onLine, Rule.quotesLine]
  line_bounds _ hn := Option.some.inj hn ▸ h
  text_isSome_iff := by simp [onLine, hq]
  text_eq _ ht := ⟨n, rfl, (getElem?_pred_eq_lineAt h).trans ht⟩
  method_isSome_iff := by cases rule <;> simp_all [onLine, Rule.quotesLine]
  measurement_isSome_iff := by cases rule <;> simp_all [onLine, Rule.quotesLine]
  exceeds _ hm := nomatch hm
  description_measuredOr _ := by
    cases rule with
    | lineLength => exact absurd rfl hl
    | methodLength | logMarker => exact absurd hq (by decide)
    | _ => rfl
  lineLength hr := absurd hr hl
  methodLength _ _ _ hm := nomatch hm

/-- A long line is told faithfully. -/
theorem faithful_measured {max : Nat} (h : 1 ≤ n ∧ n ≤ lines.length)
    (hs : s.maxLineLength = max) (hmax : max < (lineAt lines n).toList.length) :
    (measured .lineLength n (lineAt lines n) (lineAt lines n).toList.length max).Faithful s
      lines where
  line_eq_none_iff := by simp [measured]
  line_bounds _ hn := Option.some.inj hn ▸ h
  text_isSome_iff := by simp [measured, Rule.quotesLine]
  text_eq _ ht := ⟨n, rfl, (getElem?_pred_eq_lineAt h).trans ht⟩
  method_isSome_iff := by simp [measured]
  measurement_isSome_iff := by simp [measured]
  exceeds m hm := by
    obtain rfl := Option.some.inj hm
    exact ⟨hmax, congrArg some hs⟩
  description_measuredOr _ := rfl
  lineLength _ m k hm hk := by
    obtain rfl := Option.some.inj hm
    obtain rfl := Option.some.inj hk
    rfl
  methodLength hr := nomatch hr

/-- A long method is told faithfully on the line that opens it. -/
theorem faithful_methodTooLong {max body : Nat} (h : 1 ≤ n) (hopen : (openingOn lines n).isSome)
    (hs : s.maxMethodLength = max) (hmax : max < body) (hlast : n + body + 1 ≤ lines.length) :
    (methodTooLong (methodName (lineAt lines n)) n body max).Faithful s lines where
  line_eq_none_iff := by simp [methodTooLong]
  line_bounds k hk := by
    obtain rfl := Option.some.inj hk
    omega
  text_isSome_iff := by simp [methodTooLong, Rule.quotesLine]
  text_eq _ ht := nomatch ht
  method_isSome_iff := by simp [methodTooLong]
  measurement_isSome_iff := by simp [methodTooLong]
  exceeds m hm := by
    obtain rfl := Option.some.inj hm
    exact ⟨hmax, congrArg some hs⟩
  description_measuredOr _ := rfl
  lineLength hr := nomatch hr
  methodLength _ m k hm hk := by
    obtain rfl := Option.some.inj hm
    obtain rfl := Option.some.inj hk
    exact ⟨hopen, rfl, hlast⟩

/-- A missed log marker is told faithfully. -/
theorem faithful_wholeFile : (wholeFile .logMarker).Faithful s lines where
  line_eq_none_iff := by simp [wholeFile]
  line_bounds _ hn := nomatch hn
  text_isSome_iff := by simp [wholeFile, Rule.quotesLine]
  text_eq _ ht := nomatch ht
  method_isSome_iff := by simp [wholeFile]
  measurement_isSome_iff := by simp [wholeFile]
  exceeds _ hm := nomatch hm
  description_measuredOr _ := rfl
  lineLength hr := nomatch hr
  methodLength hr := nomatch hr

end Violation

/-! ## One line -/

variable {s : Settings} {scanner : Scanner} {lines : List String}

/-- The rules on single lines report faithfully on the line they are given. -/
theorem faithful_of_mem_checkAll {line : Line} {v : Violation}
    (hn : 1 ≤ line.number ∧ line.number ≤ lines.length)
    (ht : line.text = lineAt lines line.number)
    (hv : v ∈ LineRule.checkAll (LineRule.standard s.maxLineLength s.checkMagicNumbers) line) :
    v.Faithful s lines := by
  rw [Scanner.checkAll_standard, List.mem_map] at hv
  obtain ⟨r, hr, rfl⟩ := hv
  have hbroken : r.isBroken line = true := by
    have := (List.mem_filter.1 hr).2
    simp only [Bool.and_eq_true] at this
    exact this.1
  have hrules := (List.mem_filter.1 hr).1
  simp only [List.mem_cons, List.not_mem_nil, or_false] at hrules
  -- All rules but the fourth, on lengths, only quote the line.
  rcases hrules with rfl | rfl | rfl | rfl | rfl | rfl
  case inr.inr.inr.inl =>
    have hmax : s.maxLineLength < line.text.toList.length := by
      simpa [LineRule.isBroken] using hbroken
    rw [ht] at hmax
    rw [LineRule.violation, ht]
    exact Violation.faithful_measured hn rfl hmax
  all_goals
    rw [LineRule.violation, ht]
    · exact Violation.faithful_onLine hn rfl (by decide)
    · simp

/-- Every method of a file opens on its first line. -/
theorem Segmentation.isSome_openingOn {cursor : Nat} {spans : List MethodSpan}
    (hs : Segmentation lines cursor spans) : ∀ m ∈ spans, (openingOn lines m.first).isSome := by
  induction hs with
  | done => simp
  | oneLine _ _ _ ih => exact ih
  | endless => simp
  | method hf _ _ _ ih =>
    intro m hm
    rcases List.mem_cons.1 hm with rfl | hm
    · exact hf.1.2
    · exact ih m hm

/-- A tracker that is fed a file reports faithfully. -/
theorem faithful_of_mem_tooLong {v : Violation}
    (hv : v ∈ tooLong s.maxMethodLength none (numberFrom 1 lines)) : v.Faithful s lines := by
  obtain ⟨spans, hs, heq⟩ := exists_segmentation s.maxMethodLength lines [] none trivial
  rw [List.nil_append] at hs heq
  obtain ⟨m, hm, hverdict⟩ := List.mem_filterMap.1 (heq ▸ hv)
  obtain ⟨hfirst, hlt, hlast⟩ := hs.mem_bounds m hm
  unfold MethodSpan.verdict at hverdict
  split_ifs at hverdict with hmax
  obtain rfl := Option.some.inj hverdict
  refine Violation.faithful_methodTooLong hfirst (hs.isSome_openingOn m hm) rfl hmax ?_
  unfold MethodSpan.bodyLength
  omega

/-! ## The whole scan -/

namespace Scanner

/-- What a scan finds on the lines of a file is faithful. -/
theorem faithful_of_mem_findings (h : ofSettings s = .ok scanner) {log : LogWatch} {v : Violation}
    (hv : v ∈ scanner.findings { log } lines) : v.Faithful s lines := by
  obtain ⟨-, hr, hmax⟩ := ofSettings_eq_ok h
  rw [findings_eq_flatMap, hr, hmax, List.mem_flatMap] at hv
  obtain ⟨i, hi, hv⟩ := hv
  have hlt := List.mem_range.1 hi
  rcases List.mem_append.1 hv with hv | hv
  · rw [lineSeen_start log hlt] at hv
    refine faithful_of_mem_checkAll ?_ rfl hv
    exact ⟨Nat.le_add_left 1 i, hlt⟩
  · obtain ⟨result, hresult, hv⟩ := Option.bind_eq_some_iff.1 (Option.mem_toList.1 hv)
    exact faithful_of_mem_tooLong
      (List.mem_filterMap.2 ⟨result, List.mem_of_getElem? hresult, hv⟩)

/-- The verdict on the first line of a file is faithful. -/
theorem faithful_of_checkHeader_eq_some {m : Markers} {v : Violation} (hne : lines ≠ [])
    (hv : m.checkHeader (lines.headD "") = some v) : v.Faithful s lines := by
  have hlen := List.length_pos_of_ne_nil hne
  have hfirst : lines.headD "" = lineAt lines 1 := by
    cases lines with
    | nil => exact absurd rfl hne
    | cons text rest => rfl
  rw [hfirst] at hv
  unfold Markers.checkHeader at hv
  split at hv
  · split at hv
    · cases hv
    · obtain rfl := Option.some.inj hv
      exact Violation.faithful_onLine ⟨Nat.le_refl 1, hlen⟩ rfl (by decide)
  · cases hv

/-- The verdict on the log marker is faithful. -/
theorem faithful_of_verdict_eq_some {w : LogWatch} {v : Violation} (hv : w.verdict = some v) :
    v.Faithful s lines := by
  unfold LogWatch.verdict at hv
  split at hv
  · obtain rfl := Option.some.inj hv
    exact Violation.faithful_wholeFile
  · cases hv

/-- A scanner can be made if something is true of the one that is made. -/
theorem exists_scanner_of_any {p : Scanner → Bool}
    (h : (ofSettings s).toOption.any p = true) : ∃ scanner, ofSettings s = .ok scanner ∧
      p scanner = true := by
  cases hs : ofSettings s with
  | error e => simp [hs, Except.toOption] at h
  | ok scanner => exact ⟨scanner, rfl, by simpa [hs, Except.toOption] using h⟩

/-- Every violation found in a content is faithful to its lines. -/
theorem faithful_of_mem_scanContent (h : ofSettings s = .ok scanner) {content : String}
    {v : Violation} (hv : v ∈ scanner.scanContent content) :
    v.Faithful s (Text.splitLines content) := by
  have hne : Text.splitLines content ≠ [] := by
    simp [Text.splitLines, Text.split_ne_nil]
  rw [scanContent, scan_eq_append, List.mem_append, List.mem_append] at hv
  rcases hv with hv | hv | hv
  · exact faithful_of_checkHeader_eq_some hne (Option.mem_toList.1 hv)
  · exact faithful_of_mem_findings h hv
  · exact faithful_of_verdict_eq_some (Option.mem_toList.1 hv)

theorem faithful_of_mem_scanContent_strict : ∃ scanner, ofSettings strictSettings = .ok scanner ∧
    Violation.methodTooLong "f()" 2 2 1 ∈
      scanner.scanContent "class A\n\tvoid f() \x7b\na(7);\n\n\x7d" ∧
    (Violation.methodTooLong "f()" 2 2 1).Faithful strictSettings
      (Text.splitLines "class A\n\tvoid f() \x7b\na(7);\n\n\x7d") := by
  obtain ⟨scanner, hs, hv⟩ := exists_scanner_of_any (s := strictSettings)
    (p := fun scanner => decide (Violation.methodTooLong "f()" 2 2 1 ∈
      scanner.scanContent "class A\n\tvoid f() \x7b\na(7);\n\n\x7d")) (by decide +kernel)
  exact ⟨scanner, hs, of_decide_eq_true hv, faithful_of_mem_scanContent hs (of_decide_eq_true hv)⟩

end Scanner

end HouseStyle
