import HouseStyle.Proofs.Scan.Faithfulness

/-!
# Asking for less

If limits are raised and checks are switched off, nothing new is found. What is left are the old
violations in their order, without those whose check is off and those that measure no more than the
new limit (`scan_relaxed`). Only the limits that the violations mention may differ, so they are
compared without them (`Violation.withoutLimit`).

No limit and no check has a say in what a scan remembers: two scans that look at a line with the
same memory remember the same behind it (`ScanState.Agrees.scanLine`), and of what the strict one
has found on the line the relaxed one leaves out what it tolerates (`Settings.Leaves`).
-/

namespace HouseStyle

/-! ## Relaxed settings -/

namespace Settings

/-- The first settings ask for at most what the second ones ask for, by the same patterns. -/
structure Relaxes (relaxed strict : Settings) : Prop where
  headerPattern_eq : relaxed.headerPattern = strict.headerPattern
  logPattern_eq : relaxed.logPattern = strict.logPattern
  maxLineLength_le : strict.maxLineLength ≤ relaxed.maxLineLength
  maxMethodLength_le : strict.maxMethodLength ≤ relaxed.maxMethodLength
  requireHeader_imp : relaxed.requireHeader = true → strict.requireHeader = true
  requireLog_imp : relaxed.requireLog = true → strict.requireLog = true
  checkMagicNumbers_imp : relaxed.checkMagicNumbers = true → strict.checkMagicNumbers = true

/-- Whether the check of a rule is on. -/
def checks (s : Settings) : Rule → Bool
  | .headerMarker => s.requireHeader
  | .logMarker => s.requireLog
  | .magicNumber => s.checkMagicNumbers
  | _ => true

/-- Whether some settings have nothing against a violation: its check is off, or what was measured
is within their limit. -/
def tolerates (s : Settings) (v : Violation) : Bool :=
  !s.checks v.rule || v.measurement.any fun m => (s.limit? v.rule).any (m.actual ≤ ·)

end Settings

/-- The violation with the limit erased from its measurement. -/
def Violation.withoutLimit (v : Violation) : Violation :=
  { v with measurement := v.measurement.map fun m => { m with limit := 0 } }

/-! ## What relaxed settings leave of some findings -/

namespace Settings

/-- The second list is what the settings leave of the first one, limits apart. -/
def Leaves (s : Settings) (found left : List Violation) : Prop :=
  left.map Violation.withoutLimit =
    (found.filter fun v => !s.tolerates v).map Violation.withoutLimit

variable {s : Settings}

theorem Leaves.nil : s.Leaves [] [] :=
  rfl

theorem Leaves.append {found left found' left' : List Violation} (h : s.Leaves found left)
    (h' : s.Leaves found' left') : s.Leaves (found ++ found') (left ++ left') := by
  unfold Leaves at h h' ⊢
  rw [List.filter_append, List.map_append, List.map_append, h, h']

/-- What is not tolerated is left as it is. -/
theorem Leaves.refl {found : List Violation} (h : ∀ v ∈ found, s.tolerates v = false) :
    s.Leaves found found := by
  have hfilter : found.filter (fun v => !s.tolerates v) = found :=
    List.filter_eq_self.2 fun v hv => by simp [h v hv]
  rw [Leaves, hfilter]

/-- Nothing is left of what is tolerated. -/
theorem Leaves.nil_of_tolerates {found : List Violation} (h : ∀ v ∈ found, s.tolerates v = true) :
    s.Leaves found [] := by
  have hfilter : found.filter (fun v => !s.tolerates v) = [] :=
    List.filter_eq_nil_iff.2 fun v hv => by simp [h v hv]
  rw [Leaves, hfilter]

/-- A finding without a measurement is left exactly if its check stays on. -/
theorem Leaves.ite {v : Violation} (hv : v.measurement = none) {on on' : Bool}
    (hon : on' = true → on = true) (hchecks : s.checks v.rule = on') (broken : Bool) :
    s.Leaves (if on && broken then [v] else []) (if on' && broken then [v] else []) := by
  cases broken with
  | false => simpa using Leaves.nil
  | true =>
    cases hon' : on' with
    | false =>
      refine Leaves.nil_of_tolerates fun w hw => ?_
      have : w = v := by
        split at hw <;> simp_all
      simp [tolerates, this, hchecks, hon']
    | true =>
      rw [hon hon']
      refine Leaves.refl fun w hw => ?_
      obtain rfl : w = v := by simpa using hw
      simp [tolerates, hchecks, hon', hv]

/-- Of a finding that measures something, nothing is left if the measured value is within the new
limit, and otherwise the same with that limit. -/
theorem Leaves.measured {f : Nat → Violation} {r : Rule} {actual limit limit' : Nat}
    (hf : ∀ n, (f n).rule = r ∧ (f n).measurement = some ⟨actual, n⟩)
    (hw : ∀ n k, (f n).withoutLimit = (f k).withoutLimit) (hchecks : s.checks r = true)
    (hs : s.limit? r = some limit') (hle : limit ≤ limit') :
    s.Leaves (if limit < actual then [f limit] else [])
      (if limit' < actual then [f limit'] else []) := by
  have htolerates : s.tolerates (f limit) = decide (actual ≤ limit') := by
    simp [tolerates, hf, hchecks, hs]
  by_cases hlt : limit < actual
  · rw [if_pos hlt]
    by_cases hlt' : limit' < actual
    · rw [if_pos hlt', Leaves, List.filter_cons_of_pos (by simpa [htolerates] using hlt')]
      simp [hw limit' limit]
    · rw [if_neg hlt']
      refine Leaves.nil_of_tolerates fun v hv => ?_
      obtain rfl : v = f limit := by simpa using hv
      simpa [htolerates] using hlt'
  · rw [if_neg hlt, if_neg (by omega)]
    exact Leaves.nil

end Settings

/-! ## One line -/

variable {strict relaxed : Settings}

/-- What a rule finds on a line, if its check is on. -/
def LineRule.finding (on : Bool) (r : LineRule) (line : Line) : List Violation :=
  if on && r.isBroken line then [r.violation line] else []

theorem LineRule.toList_check (r : LineRule) (line : Line) :
    (r.check line).toList = r.finding true line := by
  unfold check finding
  cases r.isBroken line <;> rfl

/-- The rules of the house style find what each of them finds, in order. -/
theorem checkAll_standard_eq_append (max : Nat) (on : Bool) (line : Line) :
    LineRule.checkAll (LineRule.standard max on) line =
      LineRule.finding true .classComment line ++ (LineRule.finding true .variableComment line ++
        (LineRule.finding true .constantCase line ++
          (LineRule.finding true (.lineLength max) line ++
            (LineRule.finding true .tabIndent line ++ LineRule.finding on .magicNumber line)))) := by
  cases on
  · simp [LineRule.checkAll, LineRule.standard, filterMap_cons_toList, LineRule.toList_check,
      LineRule.finding]
  · simp [LineRule.checkAll, LineRule.standard, filterMap_cons_toList, LineRule.toList_check]

/-- What a rule finds without measuring is left exactly if its check stays on. -/
theorem Settings.leaves_finding {r : LineRule} (hr : r.rule ≠ .lineLength) {on on' : Bool}
    (hon : on' = true → on = true) (hchecks : relaxed.checks r.rule = on') (line : Line) :
    relaxed.Leaves (r.finding on line) (r.finding on' line) := by
  have hv : (r.violation line).measurement = none := by
    cases r with
    | lineLength max => exact absurd rfl hr
    | _ => rfl
  have hrule : (r.violation line).rule = r.rule := by
    cases r <;> rfl
  exact .ite hv hon (hrule ▸ hchecks) _

/-- Of what is found on the length of a line, nothing is left if the new limit allows it. -/
theorem Settings.Relaxes.leaves_lineLength (h : relaxed.Relaxes strict) (line : Line) :
    relaxed.Leaves (LineRule.finding true (.lineLength strict.maxLineLength) line)
      (LineRule.finding true (.lineLength relaxed.maxLineLength) line) := by
  have := Settings.Leaves.measured (s := relaxed) (r := .lineLength)
    (f := Violation.measured .lineLength line.number line.text line.text.toList.length)
    (fun _ => ⟨rfl, rfl⟩) (fun _ _ => rfl) rfl rfl h.maxLineLength_le
  simpa [LineRule.finding, LineRule.isBroken, LineRule.violation, LineRule.rule] using this

/-- Relaxed settings leave some of what the rules on single lines find. -/
theorem Settings.Relaxes.leaves_checkAll (h : relaxed.Relaxes strict) (line : Line) :
    relaxed.Leaves
      (LineRule.checkAll (LineRule.standard strict.maxLineLength strict.checkMagicNumbers) line)
      (LineRule.checkAll (LineRule.standard relaxed.maxLineLength relaxed.checkMagicNumbers)
        line) := by
  rw [checkAll_standard_eq_append, checkAll_standard_eq_append]
  refine .append ?_ (.append ?_ (.append ?_ (.append (h.leaves_lineLength line) (.append ?_ ?_))))
  · exact Settings.leaves_finding (r := .classComment) (by decide) id rfl line
  · exact Settings.leaves_finding (r := .variableComment) (by decide) id rfl line
  · exact Settings.leaves_finding (r := .constantCase) (by decide) id rfl line
  · exact Settings.leaves_finding (r := .tabIndent) (by decide) id rfl line
  · exact Settings.leaves_finding (r := .magicNumber) (by decide) h.checkMagicNumbers_imp rfl line

/-- The limit has no say in what the tracker holds behind a line. -/
theorem feedLine_fst_eq (max max' number : Nat) (text : String) : ∀ state : Option OpenMethod,
    (feedLine max state number text).1 = (feedLine max' state number text).1
  | none => rfl
  | some m => by
    by_cases hd : braceDepth m.depth text.toList = 0
    · rw [feedLine_closing _ _ hd, feedLine_closing _ _ hd]
    · rw [feedLine_inside _ _ hd, feedLine_inside _ _ hd]

theorem OpenMethod.toList_verdict (max : Nat) (m : OpenMethod) : (m.verdict max).toList =
    if max < m.bodyLines then [.methodTooLong m.name m.startLine m.bodyLines max] else [] := by
  unfold verdict
  split <;> rfl

/-- Relaxed settings leave some of what the tracker reports on a line. -/
theorem Settings.Relaxes.leaves_feedLine (h : relaxed.Relaxes strict) (number : Nat)
    (text : String) : ∀ state : Option OpenMethod,
    relaxed.Leaves (feedLine strict.maxMethodLength state number text).2.toList
      (feedLine relaxed.maxMethodLength state number text).2.toList
  | none => .nil
  | some m => by
    by_cases hd : braceDepth m.depth text.toList = 0
    · rw [feedLine_closing _ _ hd, feedLine_closing _ _ hd, OpenMethod.toList_verdict,
        OpenMethod.toList_verdict]
      exact .measured (r := .methodLength)
        (f := Violation.methodTooLong m.name m.startLine m.bodyLines)
        (fun _ => ⟨rfl, rfl⟩) (fun _ _ => rfl) rfl rfl h.maxMethodLength_le
    · rw [feedLine_inside _ _ hd, feedLine_inside _ _ hd]
      exact .nil

/-! ## Two scans side by side -/

/-- Two scans remember the same, the log marker apart. -/
structure ScanState.Agrees (state other : ScanState) : Prop where
  number_eq : other.number = state.number
  previous_eq : other.previous = state.previous
  method_eq : other.method = state.method

variable {scanner scanner' : Scanner}

/-- Both scans agree behind a line, and the relaxed one leaves some of what the strict one finds on
it. -/
theorem ScanState.Agrees.scanLine (h : relaxed.Relaxes strict)
    (hs : Scanner.ofSettings strict = .ok scanner)
    (hr : Scanner.ofSettings relaxed = .ok scanner') {state other : ScanState}
    (ha : state.Agrees other) (text : String) :
    (scanner.scanLine state text).1.Agrees (scanner'.scanLine other text).1 ∧
      relaxed.Leaves (scanner.lineFindings state text) (scanner'.lineFindings other text) := by
  obtain ⟨-, hrules, hmax⟩ := Scanner.ofSettings_eq_ok hs
  obtain ⟨-, hrules', hmax'⟩ := Scanner.ofSettings_eq_ok hr
  refine ⟨⟨congrArg (· + 1) ha.number_eq, rfl, ?_⟩, ?_⟩
  · rw [Scanner.method_scanLine, Scanner.method_scanLine, ha.number_eq, ha.method_eq]
    exact feedLine_fst_eq ..
  · simp only [Scanner.lineFindings, hrules, hmax, hrules', hmax', ha.number_eq, ha.previous_eq,
      ha.method_eq]
    exact (h.leaves_checkAll _).append (h.leaves_feedLine _ _ _)

theorem ScanState.Agrees.leaves_findings (h : relaxed.Relaxes strict)
    (hs : Scanner.ofSettings strict = .ok scanner)
    (hr : Scanner.ofSettings relaxed = .ok scanner') : ∀ {state other : ScanState}
    (lines : List String), state.Agrees other →
      relaxed.Leaves (scanner.findings state lines) (scanner'.findings other lines)
  | _, _, [], _ => .nil
  | state, other, text :: lines, ha => by
    obtain ⟨hnext, hfound⟩ := ha.scanLine h hs hr text
    exact hfound.append (hnext.leaves_findings h hs hr lines)

/-! ## The markers -/

/-- Settings with the same patterns see the same markers. -/
theorem Settings.Relaxes.marks_eq (h : relaxed.Relaxes strict) (m : Marker) (text : String) :
    relaxed.marks m text = strict.marks m text := by
  have hp : relaxed.patternText m = strict.patternText m := by
    cases m with
    | header => exact h.headerPattern_eq
    | log => exact h.logPattern_eq
  simp only [Settings.marks, Settings.pattern?, hp]

theorem toList_ite {α : Type} (b : Bool) (a : α) :
    (if b then some a else none).toList = if b then [a] else [] := by
  cases b <;> rfl

/-- Relaxed settings leave the verdict on the header marker or drop it. -/
theorem Settings.Relaxes.leaves_checkHeader (h : relaxed.Relaxes strict) {m m' : Markers}
    (hm : Markers.ofSettings strict = .ok m) (hm' : Markers.ofSettings relaxed = .ok m')
    (text : String) :
    relaxed.Leaves (m.checkHeader text).toList (m'.checkHeader text).toList := by
  rw [Markers.checkHeader_eq hm, Markers.checkHeader_eq hm', h.marks_eq, toList_ite, toList_ite]
  exact .ite rfl h.requireHeader_imp rfl _

/-- Relaxed settings leave the verdict on the log marker or drop it. -/
theorem Settings.Relaxes.leaves_logVerdict (h : relaxed.Relaxes strict) {m m' : Markers}
    (hm : Markers.ofSettings strict = .ok m) (hm' : Markers.ofSettings relaxed = .ok m')
    (lines : List String) :
    relaxed.Leaves (lines.foldl LogWatch.observe m.watch).verdict.toList
      (lines.foldl LogWatch.observe m'.watch).verdict.toList := by
  have hmarks : relaxed.marks .log = strict.marks .log := funext (h.marks_eq .log)
  rw [LogWatch.verdict_foldl_observe hm, LogWatch.verdict_foldl_observe hm', hmarks, toList_ite,
    toList_ite]
  exact .ite rfl h.requireLog_imp rfl _

/-! ## The whole scan -/

namespace Scanner

/-- A scan under relaxed settings finds, in the same order, what the scan under the strict ones
finds, without what the relaxed settings tolerate; limits apart. -/
theorem scan_relaxed (h : relaxed.Relaxes strict) (hs : ofSettings strict = .ok scanner)
    (hr : ofSettings relaxed = .ok scanner') (lines : List String) :
    ((scanner'.scan lines).map Violation.withoutLimit).Sublist
        ((scanner.scan lines).map Violation.withoutLimit) ∧
      (scanner'.scan lines).map Violation.withoutLimit =
        ((scanner.scan lines).filter fun v => !relaxed.tolerates v).map
          Violation.withoutLimit := by
  have hm := (ofSettings_eq_ok hs).1
  have hm' := (ofSettings_eq_ok hr).1
  have hlines : relaxed.Leaves (scanner.findings { log := scanner.markers.watch } lines)
      (scanner'.findings { log := scanner'.markers.watch } lines) :=
    ScanState.Agrees.leaves_findings h hs hr lines ⟨rfl, rfl, rfl⟩
  have hscan : relaxed.Leaves (scanner.scan lines) (scanner'.scan lines) := by
    rw [scan_eq_append, scan_eq_append, after_log, after_log]
    exact (h.leaves_checkHeader hm hm' _).append (hlines.append (h.leaves_logVerdict hm hm' lines))
  refine ⟨?_, hscan⟩
  rw [hscan]
  exact List.filter_sublist.map _

/-- Settings that relax the strict ones. -/
def mildSettings : Settings :=
  { strictSettings with
    maxLineLength := 40, maxMethodLength := 2, requireLog := false, checkMagicNumbers := false }

theorem scan_relaxed_mild : ∃ scanner scanner' : Scanner,
    ofSettings strictSettings = .ok scanner ∧ ofSettings mildSettings = .ok scanner' ∧
    mildSettings.Relaxes strictSettings ∧
    ((scanner'.scan ["\tvoid f() \x7b", "a(7);", "", "\x7d"]).map Violation.withoutLimit).Sublist
        ((scanner.scan ["\tvoid f() \x7b", "a(7);", "", "\x7d"]).map Violation.withoutLimit) ∧
      (scanner'.scan ["\tvoid f() \x7b", "a(7);", "", "\x7d"]).map Violation.withoutLimit =
        ((scanner.scan ["\tvoid f() \x7b", "a(7);", "", "\x7d"]).filter
          fun v => !mildSettings.tolerates v).map Violation.withoutLimit := by
  obtain ⟨scanner, hs⟩ := exists_strictScanner
  obtain ⟨scanner', hr, -⟩ := exists_scanner_of_any (s := mildSettings) (p := fun _ => true)
    (by decide +kernel)
  have h : mildSettings.Relaxes strictSettings :=
    ⟨rfl, rfl, by decide, by decide, by decide, by decide, by decide⟩
  exact ⟨scanner, scanner', hs, hr, h,
    scan_relaxed h hs hr ["\tvoid f() \x7b", "a(7);", "", "\x7d"]⟩

end Scanner

end HouseStyle
