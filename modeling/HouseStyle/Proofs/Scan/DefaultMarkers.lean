import HouseStyle.Proofs.Pattern.Keyword
import HouseStyle.Proofs.Scan.Cutting
import HouseStyle.Proofs.Settings.Validity

/-!
# What a scan reports on markers

Whatever the settings are, a missing header marker comes first in a report and a missing log marker
last, and neither comes twice (`header_first`, `log_last`). Whether they come at all is a matter of
the first line and of all lines. With the default patterns, it is a matter of a keyword between
dollar signs there (`scan_defaultMarkers`).
-/

namespace HouseStyle

open Pattern

/-- If all of a list but a single entry at its start fails a test, then no other entry passes it. -/
theorem once_at_start {α : Type} {test : α → Bool} {start rest : List α} (hstart : start.length ≤ 1)
    (hrest : ∀ a ∈ rest, test a = false) :
    (start ++ rest).countP test ≤ 1 ∧
      ∀ a ∈ start ++ rest, test a = true → (start ++ rest).head? = some a := by
  have hnone : rest.countP test = 0 := by
    rw [List.countP_eq_zero]
    exact fun a ha => Bool.eq_false_iff.1 (hrest a ha)
  constructor
  · rw [List.countP_append, hnone]
    exact (List.countP_le_length).trans hstart
  · intro a ha htest
    rcases List.mem_append.1 ha with ha | ha
    · obtain ⟨b, rfl⟩ := List.length_eq_one_iff.1 (hstart.antisymm (List.length_pos_of_mem ha))
      obtain rfl := List.mem_singleton.1 ha
      rfl
    · rw [hrest a ha] at htest
      cases htest

namespace Settings

variable {s : Settings} {v : Violation}

theorem mem_headerFinding_iff {first : String} : v ∈ s.headerFinding first ↔
    v = .onLine .headerMarker 1 first ∧ s.requires .header = true ∧
      s.marks .header first = false := by
  simp [headerFinding, requires, and_comm]

theorem mem_logFinding_iff {lines : List String} : v ∈ s.logFinding lines ↔
    v = .wholeFile .logMarker ∧ s.requires .log = true ∧
      ∀ line ∈ lines, s.marks .log line = false := by
  simp [logFinding, requires, and_comm]

/-- The default patterns find their keywords. -/
theorem marks_default {m : Marker} (h : s.patternText m = ({} : Settings).patternText m)
    (text : String) : s.marks m text = true ↔ HoldsKeyword m.keyword text.toList := by
  have hpattern : s.pattern? m = .ok (Pattern.keyword m.keyword).regex := by
    rw [pattern?, h, ofString?_default]
  rw [marks, hpattern]
  exact search_keyword_iff

end Settings

namespace Scanner

variable {s : Settings} {scanner : Scanner}

/-- All that a report says about markers is one of the two verdicts. -/
theorem mem_scan_iff_of_isMarker (h : ofSettings s = .ok scanner) {lines : List String}
    {v : Violation} (hmarker : v.rule.isMarker = true) : v ∈ scanner.scan lines ↔
      v ∈ s.headerFinding (lines.headD "") ∨ v ∈ s.logFinding lines := by
  have hlines : v ∉ scanner.findings { log := scanner.markers.watch } lines := fun hv =>
    scanner.rule_ne_of_mem_findings hmarker hv rfl
  rw [scan_eq_findings h]
  simp [hlines]

/-- The header marker is reported if it is required and the first line lacks it. -/
theorem exists_header_iff (h : ofSettings s = .ok scanner) (lines : List String) :
    (∃ v ∈ scanner.scan lines, v.rule = .headerMarker) ↔
      s.requires .header = true ∧ s.marks .header (lines.headD "") = false := by
  constructor
  · rintro ⟨v, hv, hrule⟩
    rcases (mem_scan_iff_of_isMarker h (by rw [hrule]; rfl)).1 hv with hv | hv
    · exact (Settings.mem_headerFinding_iff.1 hv).2
    · obtain ⟨rfl, -⟩ := Settings.mem_logFinding_iff.1 hv
      cases hrule
  · intro hmissing
    have hfound := Settings.mem_headerFinding_iff.2 ⟨rfl, hmissing⟩
    exact ⟨_, (mem_scan_iff_of_isMarker h rfl).2 (.inl hfound), rfl⟩

/-- The log marker is reported if it is required and all lines lack it. -/
theorem exists_log_iff (h : ofSettings s = .ok scanner) (lines : List String) :
    (∃ v ∈ scanner.scan lines, v.rule = .logMarker) ↔
      s.requires .log = true ∧ ∀ line ∈ lines, s.marks .log line = false := by
  constructor
  · rintro ⟨v, hv, hrule⟩
    rcases (mem_scan_iff_of_isMarker h (by rw [hrule]; rfl)).1 hv with hv | hv
    · obtain ⟨rfl, -⟩ := Settings.mem_headerFinding_iff.1 hv
      cases hrule
    · exact (Settings.mem_logFinding_iff.1 hv).2
  · intro hmissing
    have hfound := Settings.mem_logFinding_iff.2 ⟨rfl, hmissing⟩
    exact ⟨_, (mem_scan_iff_of_isMarker h rfl).2 (.inr hfound), rfl⟩

/-- The header marker is reported once at most, in the first place. -/
theorem header_first (h : ofSettings s = .ok scanner) (lines : List String) :
    (scanner.scan lines).countP (·.rule == .headerMarker) ≤ 1 ∧
      ∀ v ∈ scanner.scan lines, v.rule = .headerMarker → (scanner.scan lines).head? = some v := by
  have hlength : (s.headerFinding (lines.headD "")).length ≤ 1 := by
    unfold Settings.headerFinding
    split <;> simp
  have hrest (v : Violation) (hv : v ∈ scanner.findings { log := scanner.markers.watch } lines ++
      s.logFinding lines) : (v.rule == Rule.headerMarker) = false := by
    rcases List.mem_append.1 hv with hv | hv
    · exact beq_eq_false_iff_ne.2 (scanner.rule_ne_of_mem_findings rfl hv)
    · obtain ⟨rfl, -⟩ := Settings.mem_logFinding_iff.1 hv
      rfl
  rw [scan_eq_findings h, List.append_assoc]
  simpa only [beq_iff_eq] using once_at_start hlength hrest

/-- The log marker is reported once at most, in the last place. -/
theorem log_last (h : ofSettings s = .ok scanner) (lines : List String) :
    (scanner.scan lines).countP (·.rule == .logMarker) ≤ 1 ∧
      ∀ v ∈ scanner.scan lines, v.rule = .logMarker → (scanner.scan lines).getLast? = some v := by
  have hlength : (s.logFinding lines).reverse.length ≤ 1 := by
    unfold Settings.logFinding
    split <;> simp
  have hrest (v : Violation) (hv : v ∈ (s.headerFinding (lines.headD "") ++
      scanner.findings { log := scanner.markers.watch } lines).reverse) :
      (v.rule == Rule.logMarker) = false := by
    rcases List.mem_append.1 (List.mem_reverse.1 hv) with hv | hv
    · obtain ⟨rfl, -⟩ := Settings.mem_headerFinding_iff.1 hv
      rfl
    · exact beq_eq_false_iff_ne.2 (scanner.rule_ne_of_mem_findings rfl hv)
  have honce := once_at_start hlength hrest
  rw [← List.reverse_append, ← scan_eq_findings h, List.countP_reverse, List.head?_reverse] at honce
  simpa only [beq_iff_eq, List.mem_reverse] using honce

/-- With both markers required and the default patterns, a report complains about a first line
without the keyword of the header marker, and about lines that all lack the one of the log
marker. -/
theorem scan_defaultMarkers (hrequires : ∀ m, s.requires m = true)
    (hpatterns : ∀ m, s.patternText m = ({} : Settings).patternText m) :
    ∃ scanner, ofSettings s = .ok scanner ∧ ∀ lines : List String,
      ((∃ v ∈ scanner.scan lines, v.rule = .headerMarker) ↔
        ¬HoldsKeyword ['I', 'd'] (lines.headD "").toList) ∧
      ((∃ v ∈ scanner.scan lines, v.rule = .logMarker) ↔
        ∀ line ∈ lines, ¬HoldsKeyword ['L', 'o', 'g'] line.toList) ∧
      ((scanner.scan lines).countP (·.rule == .headerMarker) ≤ 1 ∧
        ∀ v ∈ scanner.scan lines, v.rule = .headerMarker → (scanner.scan lines).head? = some v) ∧
      ((scanner.scan lines).countP (·.rule == .logMarker) ≤ 1 ∧
        ∀ v ∈ scanner.scan lines, v.rule = .logMarker →
          (scanner.scan lines).getLast? = some v) := by
  have hkeyword (m : Marker) (text : String) :
      s.marks m text = false ↔ ¬HoldsKeyword m.keyword text.toList := by
    rw [← Settings.marks_default (hpatterns m), Bool.not_eq_true]
  obtain ⟨scanner, hscanner⟩ := Settings.exists_scanner_of_patterns (s := s) fun m => by
    rw [Settings.pattern?, hpatterns, Settings.ofString?_default]
    exact ⟨_, rfl⟩
  refine ⟨scanner, hscanner, fun lines => ⟨?_, ?_, header_first hscanner lines,
    log_last hscanner lines⟩⟩
  · rw [exists_header_iff hscanner, hkeyword .header, hrequires, eq_self_iff_true, true_and]
    rfl
  · simp only [exists_log_iff hscanner, hkeyword .log, hrequires, true_and]
    rfl

/-- A first line where the keyword stands only from the second dollar sign on, and one where no
dollar sign follows the colon. -/
theorem scan_defaultMarkers_attempts :
    ∃ scanner, ofSettings { requireHeader := true, requireLog := true } = .ok scanner ∧
      (¬∃ v ∈ scanner.scan ["$Id $Id:x$", "$Log"], v.rule = .headerMarker) ∧
      (∃ v ∈ scanner.scan ["$Id $Id:x$", "$Log"], v.rule = .logMarker) ∧
      (∃ v ∈ scanner.scan ["$$Id:x", "/", "$Log$Log:x"], v.rule = .headerMarker) ∧
      ¬∃ v ∈ scanner.scan ["$$Id:x", "/", "$Log$Log:x"], v.rule = .logMarker := by
  obtain ⟨scanner, hscanner, hlines⟩ :=
    scan_defaultMarkers (s := { requireHeader := true, requireLog := true })
      (fun m => by cases m <;> rfl) (fun m => by cases m <;> rfl)
  obtain ⟨hheader, hlog, -⟩ := hlines ["$Id $Id:x$", "$Log"]
  obtain ⟨hheader', hlog', -⟩ := hlines ["$$Id:x", "/", "$Log$Log:x"]
  refine ⟨scanner, hscanner, ?_, hlog.2 (by decide), hheader'.2 (by decide), ?_⟩
  · rw [hheader]
    decide
  · rw [hlog']
    decide

end Scanner

end HouseStyle
