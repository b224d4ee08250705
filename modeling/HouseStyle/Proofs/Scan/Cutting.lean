import HouseStyle.Proofs.Scan.ClosedForm

/-!
# Cutting a file in two

Lines that follow never change what has been found, the log marker apart. Where the file is cut
outside of a method and behind a line without a comment, the lines behind the cut are scanned as a
file of their own, only that their numbers are greater (`scan_append`).

Two scans that stand at such a cut and at the start of a file are related by `ScanState.Shifted`,
which one line preserves (`ScanState.Shifted.scanLine`).
-/

namespace HouseStyle

/-! ## Further down -/

/-- The same violation, `k` lines further down. -/
def Violation.shift (k : Nat) (v : Violation) : Violation :=
  { v with line := v.line.map (· + k) }

/-- The same method, `k` lines further down. -/
def OpenMethod.shift (k : Nat) (m : OpenMethod) : OpenMethod :=
  { m with startLine := m.startLine + k }

theorem OpenMethod.verdict_shift (k max : Nat) (m : OpenMethod) :
    (m.shift k).verdict max = (m.verdict max).map (Violation.shift k) := by
  unfold verdict
  show (if max < m.bodyLines then _ else _) = _
  split <;> rfl

/-- A tracker further down does the same further down. -/
theorem feedLine_shift (k max number : Nat) (text : String) : ∀ state : Option OpenMethod,
    feedLine max (state.map (OpenMethod.shift k)) (number + k) text =
      ((feedLine max state number text).1.map (OpenMethod.shift k),
        (feedLine max state number text).2.map (Violation.shift k))
  | none => by
    rw [Option.map_none]
    cases ho : Opening.find? text.toList with
    | none =>
      rw [feedLine_of_not_opening _ _ ho, feedLine_of_not_opening _ _ ho]
      rfl
    | some o =>
      by_cases hd : braceDepth 1 o.body = 0
      · rw [feedLine_of_closed_opening _ _ ho hd, feedLine_of_closed_opening _ _ ho hd]
        rfl
      · rw [feedLine_of_opening _ _ ho hd, feedLine_of_opening _ _ ho hd]
        rfl
  | some m => by
    rw [Option.map_some]
    by_cases hd : braceDepth m.depth text.toList = 0
    · rw [feedLine_closing _ _ hd, feedLine_closing max (number + k) (m := m.shift k) hd,
        OpenMethod.verdict_shift]
      rfl
    · rw [feedLine_inside _ _ hd, feedLine_inside max (number + k) (m := m.shift k) hd]
      rfl

/-- Whether a line is commented by the line before. -/
def commentedAbove (previous : Option String) : Bool :=
  previous.any fun p => isCommentLine p.toList

/-- The same line further down. All that counts of the line before is whether it is a comment. -/
structure Line.Shifted (k : Nat) (line below : Line) : Prop where
  number_eq : below.number = line.number + k
  text_eq : below.text = line.text
  /-- Either both lines before are comments or none is. -/
  commented_eq : commentedAbove below.previous = commentedAbove line.previous

theorem Line.Shifted.isBroken_eq {k : Nat} {line below : Line} (h : Line.Shifted k line below)
    (r : LineRule) : r.isBroken below = r.isBroken line := by
  have hc := h.commented_eq
  unfold commentedAbove at hc
  cases r <;> simp only [LineRule.isBroken, h.text_eq, hc]

theorem Line.Shifted.check_eq {k : Nat} {line below : Line} (h : Line.Shifted k line below)
    (r : LineRule) : r.check below = (r.check line).map (Violation.shift k) := by
  have hv : r.violation below = (r.violation line).shift k := by
    cases r <;> simp [LineRule.violation, Violation.onLine, Violation.measured, Violation.shift,
      h.number_eq, h.text_eq]
  rw [LineRule.check, LineRule.check, h.isBroken_eq r, hv]
  split <;> rfl

theorem Line.Shifted.checkAll_eq {k : Nat} {line below : Line} (h : Line.Shifted k line below)
    (rules : List LineRule) :
    LineRule.checkAll rules below = (LineRule.checkAll rules line).map (Violation.shift k) := by
  rw [LineRule.checkAll, LineRule.checkAll, List.map_filterMap]
  exact congrArg (List.filterMap · rules) (funext h.check_eq)

/-! ## Two scans side by side -/

/-- The second scan is `k` lines further down, and otherwise stands where the first one does. The
watches for the log marker may differ. -/
structure ScanState.Shifted (k : Nat) (state below : ScanState) : Prop where
  number_eq : below.number = state.number + k
  commented_eq : commentedAbove below.previous = commentedAbove state.previous
  /-- The open method is the same one, further down. -/
  method_eq : below.method = state.method.map (OpenMethod.shift k)

variable (scanner : Scanner)

/-- Both scans find the same on a line, and stand side by side behind it. -/
theorem ScanState.Shifted.scanLine {k : Nat} {state below : ScanState}
    (h : ScanState.Shifted k state below) (text : String) :
    ScanState.Shifted k (scanner.scanLine state text).1 (scanner.scanLine below text).1 ∧
      scanner.lineFindings below text =
        (scanner.lineFindings state text).map (Violation.shift k) := by
  have hfeed := feedLine_shift k scanner.maxMethodLength state.number text state.method
  rw [← h.method_eq, ← h.number_eq] at hfeed
  have hline : Line.Shifted k ⟨state.number, text, state.previous⟩
      ⟨below.number, text, below.previous⟩ := ⟨h.number_eq, rfl, h.commented_eq⟩
  have hnumber : below.number + 1 = state.number + 1 + k := by
    have := h.number_eq
    omega
  refine ⟨⟨hnumber, rfl, ?_⟩, ?_⟩
  · rw [Scanner.method_scanLine, Scanner.method_scanLine, hfeed]
  · simp only [Scanner.lineFindings, hfeed, hline.checkAll_eq, List.map_append]
    congr 1
    cases (feedLine scanner.maxMethodLength state.method state.number text).2 <;> rfl

theorem ScanState.Shifted.findings_eq {k : Nat} : ∀ {state below : ScanState}
    (lines : List String), ScanState.Shifted k state below →
      scanner.findings below lines = (scanner.findings state lines).map (Violation.shift k)
  | _, _, [], _ => rfl
  | state, below, text :: lines, h => by
    obtain ⟨hnext, hfound⟩ := h.scanLine scanner text
    rw [Scanner.findings, Scanner.findings, hfound, hnext.findings_eq lines, List.map_append]

/-! ## The log marker apart -/

/-- The violations that are not about the log marker. -/
def withoutLog (found : List Violation) : List Violation :=
  found.filter (·.rule != .logMarker)

theorem withoutLog_append (xs ys : List Violation) :
    withoutLog (xs ++ ys) = withoutLog xs ++ withoutLog ys :=
  List.filter_append xs ys

theorem LineRule.rule_violation (r : LineRule) (line : Line) :
    (r.violation line).rule = r.rule := by
  cases r <;> rfl

/-- Whether a rule asks for a marker. -/
def Rule.isMarker : Rule → Bool
  | headerMarker | logMarker => true
  | _ => false

theorem LineRule.isMarker_rule (r : LineRule) : r.rule.isMarker = false := by
  cases r <;> rfl

theorem isMarker_of_mem_checkAll {rules : List LineRule} {line : Line} {v : Violation}
    (h : v ∈ LineRule.checkAll rules line) : v.rule.isMarker = false := by
  obtain ⟨r, -, hr⟩ := List.mem_filterMap.1 h
  unfold LineRule.check at hr
  split at hr
  · obtain rfl := Option.some.inj hr
    rw [r.rule_violation]
    exact r.isMarker_rule
  · cases hr

/-- All that a tracker reports are methods. -/
theorem rule_of_feedLine_eq_some {max number : Nat} {state : Option OpenMethod} {text : String}
    {v : Violation} (h : (feedLine max state number text).2 = some v) :
    v.rule = .methodLength := by
  cases state with
  | none => cases h
  | some m =>
    by_cases hd : braceDepth m.depth text.toList = 0
    · rw [feedLine_closing _ _ hd] at h
      unfold OpenMethod.verdict at h
      split at h
      · obtain rfl := Option.some.inj h
        rfl
      · cases h
    · rw [feedLine_inside _ _ hd] at h
      cases h

namespace Scanner

/-- Nothing that is found on the lines is about a marker. -/
theorem isMarker_of_mem_findings :
    ∀ {state : ScanState} {lines : List String} {v : Violation},
      v ∈ scanner.findings state lines → v.rule.isMarker = false
  | _, [], _, h => by cases h
  | state, text :: lines, v, h => by
    rcases List.mem_append.1 h with h | h
    · rcases List.mem_append.1 h with h | h
      · exact isMarker_of_mem_checkAll h
      · rw [rule_of_feedLine_eq_some (Option.mem_toList.1 h)]
        rfl
    · exact isMarker_of_mem_findings h

theorem rule_ne_of_mem_findings {state : ScanState} {lines : List String} {v : Violation}
    {rule : Rule} (hmarker : rule.isMarker = true) (hv : v ∈ scanner.findings state lines) :
    v.rule ≠ rule := by
  rintro rfl
  rw [scanner.isMarker_of_mem_findings hv] at hmarker
  cases hmarker

/-- All of a report but the log marker is the verdict on the header and what the lines bring. -/
theorem withoutLog_scan (lines : List String) :
    withoutLog (scanner.scan lines) = (scanner.markers.checkHeader (lines.headD "")).toList ++
      scanner.findings { log := scanner.markers.watch } lines := by
  have hheader : withoutLog (scanner.markers.checkHeader (lines.headD "")).toList =
      (scanner.markers.checkHeader (lines.headD "")).toList := by
    unfold Markers.checkHeader
    split
    · split <;> rfl
    · rfl
  have hlines : withoutLog (scanner.findings { log := scanner.markers.watch } lines) =
      scanner.findings { log := scanner.markers.watch } lines :=
    List.filter_eq_self.2 fun v hv => bne_iff_ne.2 (scanner.rule_ne_of_mem_findings rfl hv)
  have hlog (w : LogWatch) : withoutLog w.verdict.toList = [] := by
    unfold LogWatch.verdict
    split <;> rfl
  rw [scan_eq_append, withoutLog_append, withoutLog_append, hheader, hlines, hlog, List.append_nil]

/-! ## The cut -/

/-- The scanner that looks for no marker. -/
def withoutMarkers : Scanner :=
  { scanner with markers := ⟨none, none⟩ }

theorem findings_withoutMarkers : ∀ (state : ScanState) (lines : List String),
    scanner.withoutMarkers.findings state lines = scanner.findings state lines
  | _, [] => rfl
  | state, text :: lines => by
    rw [findings, findings, findings_withoutMarkers]
    rfl

/-- Without markers only the lines bring violations. -/
theorem scan_withoutMarkers (lines : List String) :
    scanner.withoutMarkers.scan lines =
      scanner.findings { log := { pattern := none } } lines := by
  have hlog : (scanner.withoutMarkers.after { log := { pattern := none } } lines).log.verdict =
      none := by
    rw [after_log, LogWatch.foldl_observe]
    rfl
  have hwatch : scanner.withoutMarkers.markers.watch = { pattern := none } := rfl
  have hscan := scanner.withoutMarkers.scan_eq_append lines
  rw [hwatch, hlog, findings_withoutMarkers] at hscan
  exact hscan.trans (List.append_nil _)

theorem ofSettings_withoutMarkers {s : Settings} {scanner : Scanner}
    (h : ofSettings s = .ok scanner) :
    ofSettings { s with requireHeader := false, requireLog := false } =
      .ok scanner.withoutMarkers := by
  obtain ⟨-, hr, hmax⟩ := ofSettings_eq_ok h
  rw [withoutMarkers, hr, hmax]
  rfl

/-- Behind lines that end outside of a method and without a comment, a scan stands as at the start
of a file, further down. -/
theorem shifted_after (log log' : LogWatch) {xs : List String} (hxs : xs ≠ [])
    (hm : methodAfter scanner.maxMethodLength none (numberFrom 1 xs) = none)
    (hc : isCommentLine (xs.getLast hxs).toList = false) :
    ScanState.Shifted xs.length { log } (scanner.after { log := log' } xs) where
  number_eq := scanner.after_number _ xs
  commented_eq := by
    rw [after_previous, List.getLast?_eq_some_getLast hxs]
    exact hc
  method_eq := (scanner.after_method _ xs).trans hm

/-- Lines that are appended leave the report as it is, the log marker apart. If the cut lies
outside of a method and behind a line without a comment, they add what a scan without markers finds
in them, further down. -/
theorem scan_append {s : Settings} {scanner : Scanner} (h : ofSettings s = .ok scanner)
    {xs : List String} (hxs : xs ≠ []) (ys : List String) :
    withoutLog (scanner.scan xs) <+: withoutLog (scanner.scan (xs ++ ys)) ∧
      (methodAfter s.maxMethodLength none (numberFrom 1 xs) = none →
        isCommentLine (xs.getLast hxs).toList = false →
        ∃ plain, ofSettings { s with requireHeader := false, requireLog := false } = .ok plain ∧
          withoutLog (scanner.scan (xs ++ ys)) =
            withoutLog (scanner.scan xs) ++ (plain.scan ys).map (Violation.shift xs.length)) := by
  have hhead : (xs ++ ys).headD "" = xs.headD "" := by
    cases xs with
    | nil => exact absurd rfl hxs
    | cons x xs => rfl
  have hsplit : withoutLog (scanner.scan (xs ++ ys)) = withoutLog (scanner.scan xs) ++
      scanner.findings (scanner.after { log := scanner.markers.watch } xs) ys := by
    rw [withoutLog_scan, withoutLog_scan, hhead, findings_append, List.append_assoc]
  refine ⟨⟨_, hsplit.symm⟩, fun hm hc => ⟨scanner.withoutMarkers, ofSettings_withoutMarkers h, ?_⟩⟩
  rw [← (ofSettings_eq_ok h).2.2] at hm
  have hshift := scanner.shifted_after { pattern := none } scanner.markers.watch hxs hm hc
  rw [hsplit, scan_withoutMarkers, hshift.findings_eq]

theorem scan_append_strict : ∃ scanner plain : Scanner, ofSettings strictSettings = .ok scanner ∧
    ofSettings { strictSettings with requireHeader := false, requireLog := false } = .ok plain ∧
    withoutLog (scanner.scan (["void f() \x7b", "a(7);", "b();", "\x7d"] ++ ["class A", "\t"])) =
      withoutLog (scanner.scan ["void f() \x7b", "a(7);", "b();", "\x7d"]) ++
        (plain.scan ["class A", "\t"]).map (Violation.shift 4) := by
  obtain ⟨scanner, hs⟩ := exists_strictScanner
  obtain ⟨-, hcut⟩ := scan_append hs (List.cons_ne_nil "void f() \x7b" ["a(7);", "b();", "\x7d"])
    ["class A", "\t"]
  obtain ⟨plain, hp, heq⟩ := hcut (by decide) (by decide)
  exact ⟨scanner, plain, hs, hp, heq⟩

end Scanner

end HouseStyle
