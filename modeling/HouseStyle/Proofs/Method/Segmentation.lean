import HouseStyle.Proofs.Method.Feeding
import Mathlib.Order.Bounds.Basic

/-!
# Methods as intervals of lines

Which methods a file holds can be told without a state: from a cursor on, the next method opens on
the least line that opens one and ends on the least line behind it where the depth is zero, and
the search goes on behind that line (`Segmentation`). Feeding the lines to a tracker reports the
long ones among these intervals, in their order (`tooLong_eq_segmentation`).

Between two lines the tracker is described by `Following`: inside a method it holds the depth, the
name, the first line and the length so far of the interval that is being read (`Inside`).
-/

namespace HouseStyle

/-! ## The segmentation -/

/-- The opening of the method that a line opens. -/
def openingOn (lines : List String) (number : Nat) : Option Opening :=
  Opening.find? (lineAt lines number).toList

/-- The depth behind the `n`-th line after the opening one. -/
def depthAfterOpening (lines : List String) (first : Nat) : Nat → Nat
  | 0 => ((openingOn lines first).map fun o => braceDepth 1 o.body).getD 0
  | n + 1 => braceDepth (depthAfterOpening lines first n) (lineAt lines (first + n + 1)).toList

/-- The depth behind a line, in the method that opens on line `first`. -/
def depthBehind (lines : List String) (first number : Nat) : Nat :=
  depthAfterOpening lines first (number - first)

/-- The lines of a method, from the one that opens it to the one that ends it. -/
structure MethodSpan where
  /-- The number of the opening line. -/
  first : Nat
  /-- The number of the closing line. -/
  last : Nat
  deriving DecidableEq, Repr

namespace MethodSpan

/-- How many lines lie between the opening line and the closing one. -/
def bodyLength (m : MethodSpan) : Nat :=
  m.last - m.first - 1

/-- The violation by a method, if its body is longer than `max` lines. -/
def verdict (max : Nat) (lines : List String) (m : MethodSpan) : Option Violation :=
  if max < m.bodyLength then
    some (.methodTooLong (methodName (lineAt lines m.first)) m.first m.bodyLength max)
  else none

end MethodSpan

/-- The first line from `cursor` on that opens a method. -/
def NextOpening (lines : List String) (cursor first : Nat) : Prop :=
  IsLeast {i | cursor ≤ i ∧ (openingOn lines i).isSome} first

/-- The methods of several lines from a cursor on, in order. -/
inductive Segmentation (lines : List String) : Nat → List MethodSpan → Prop
  /-- No more line opens a method. -/
  | done {cursor : Nat} (h : ∀ i, cursor ≤ i → openingOn lines i = none) :
    Segmentation lines cursor []
  /-- The method ends on its opening line. -/
  | oneLine {cursor first : Nat} {spans : List MethodSpan}
      (hf : NextOpening lines cursor first) (hd : depthBehind lines first first = 0)
      (rest : Segmentation lines (first + 1) spans) : Segmentation lines cursor spans
  /-- The method has no end. -/
  | endless {cursor first : Nat} (hf : NextOpening lines cursor first)
      (hd : ∀ i, first ≤ i → depthBehind lines first i ≠ 0) : Segmentation lines cursor []
  /-- The method ends on a later line. -/
  | method {cursor first last : Nat} {spans : List MethodSpan}
      (hf : NextOpening lines cursor first) (hd : depthBehind lines first first ≠ 0)
      (hl : IsLeast {i | first < i ∧ depthBehind lines first i = 0} last)
      (rest : Segmentation lines (last + 1) spans) :
      Segmentation lines cursor (⟨first, last⟩ :: spans)

/-! ## The depth within a method -/

theorem depthBehind_self {lines : List String} {first : Nat} {o : Opening}
    (h : openingOn lines first = some o) :
    depthBehind lines first first = braceDepth 1 o.body := by
  simp [depthBehind, depthAfterOpening, h]

theorem depthBehind_succ (lines : List String) {first i : Nat} (h : first ≤ i) :
    depthBehind lines first (i + 1) =
      braceDepth (depthBehind lines first i) (lineAt lines (i + 1)).toList := by
  have hi : i + 1 - first = (i - first) + 1 := by omega
  have hn : first + (i - first) + 1 = i + 1 := by omega
  rw [depthBehind, hi, depthAfterOpening, hn, depthBehind]

/-- Beyond the file the depth stays what it is. -/
theorem depthBehind_succ_of_length_le {lines : List String} {first i : Nat} (h : first ≤ i)
    (hi : lines.length ≤ i) : depthBehind lines first (i + 1) = depthBehind lines first i := by
  rw [depthBehind_succ lines h, lineAt_of_length_lt (by omega)]
  simp [braceDepth]

theorem openingOn_of_length_lt {lines : List String} {i : Nat} (h : lines.length < i) :
    openingOn lines i = none := by
  simp [openingOn, lineAt_of_length_lt h, Opening.find?]

/-! ## Facts about segmentations -/

theorem NextOpening.of_not_opening {lines : List String} {cursor first : Nat}
    (h : openingOn lines cursor = none) (hf : NextOpening lines (cursor + 1) first) :
    NextOpening lines cursor first := by
  refine ⟨⟨by have := hf.1.1; omega, hf.1.2⟩, fun i hi => hf.2 ⟨?_, hi.2⟩⟩
  have hne : i ≠ cursor := by
    rintro rfl
    simp [h] at hi
  have := hi.1
  omega

/-- A line that opens a method is the next one for the cursor that stands on it. -/
theorem NextOpening.self {lines : List String} {first : Nat}
    (h : (openingOn lines first).isSome) : NextOpening lines first first :=
  ⟨⟨Nat.le_refl _, h⟩, fun _ hi => hi.1⟩

/-- A cursor on a line that opens no method can be moved on. -/
theorem Segmentation.of_not_opening {lines : List String} {cursor : Nat}
    {spans : List MethodSpan} (h : openingOn lines cursor = none)
    (hs : Segmentation lines (cursor + 1) spans) : Segmentation lines cursor spans := by
  cases hs with
  | done hn =>
    refine .done fun i hi => ?_
    rcases Nat.eq_or_lt_of_le hi with rfl | hlt
    · exact h
    · exact hn i hlt
  | oneLine hf hd rest => exact .oneLine (hf.of_not_opening h) hd rest
  | endless hf hd => exact .endless (hf.of_not_opening h) hd
  | method hf hd hl rest => exact .method (hf.of_not_opening h) hd hl rest

theorem NextOpening.not_done {lines : List String} {cursor first : Nat}
    (hf : NextOpening lines cursor first) (h : ∀ i, cursor ≤ i → openingOn lines i = none) :
    False := by
  have hs := hf.1.2
  rw [h first hf.1.1] at hs
  simp at hs

/-- The methods of a file are determined by its lines. -/
theorem Segmentation.unique {lines : List String} {cursor : Nat} {spans others : List MethodSpan}
    (hs : Segmentation lines cursor spans) (ho : Segmentation lines cursor others) :
    spans = others := by
  induction hs generalizing others with
  | done h =>
    cases ho with
    | done _ => rfl
    | oneLine hf _ _ => exact (hf.not_done h).elim
    | endless _ _ => rfl
    | method hf _ _ _ => exact (hf.not_done h).elim
  | oneLine hf hd _ ih =>
    cases ho with
    | done h => exact (hf.not_done h).elim
    | oneLine hf' _ rest =>
      obtain rfl := hf.unique hf'
      exact ih rest
    | endless hf' hd' =>
      obtain rfl := hf.unique hf'
      exact absurd hd (hd' _ (Nat.le_refl _))
    | method hf' hd' _ _ =>
      obtain rfl := hf.unique hf'
      exact absurd hd hd'
  | endless hf hd =>
    cases ho with
    | done _ => rfl
    | oneLine hf' hd' _ =>
      obtain rfl := hf.unique hf'
      exact absurd hd' (hd _ (Nat.le_refl _))
    | endless _ _ => rfl
    | method hf' _ hl _ =>
      obtain rfl := hf.unique hf'
      exact absurd hl.1.2 (hd _ (Nat.le_of_lt hl.1.1))
  | method hf hd hl _ ih =>
    cases ho with
    | done h => exact (hf.not_done h).elim
    | oneLine hf' hd' _ =>
      obtain rfl := hf.unique hf'
      exact absurd hd' hd
    | endless hf' hd' =>
      obtain rfl := hf.unique hf'
      exact absurd hl.1.2 (hd' _ (Nat.le_of_lt hl.1.1))
    | method hf' _ hl' rest =>
      obtain rfl := hf.unique hf'
      obtain rfl := hl.unique hl'
      rw [ih rest]

/-- The closing line is a line of the file. -/
theorem le_length_of_closing {lines : List String} {first last : Nat}
    (hd : depthBehind lines first first ≠ 0)
    (hl : IsLeast {i | first < i ∧ depthBehind lines first i = 0} last) :
    last ≤ lines.length := by
  by_contra hlt
  obtain ⟨n, rfl⟩ : ∃ n, last = n + 1 := ⟨last - 1, by have := hl.1.1; omega⟩
  have hfn : first ≤ n := Nat.le_of_lt_succ hl.1.1
  have hn : depthBehind lines first n = 0 := by
    rw [← depthBehind_succ_of_length_le hfn (by omega)]
    exact hl.1.2
  rcases Nat.eq_or_lt_of_le hfn with rfl | hlt'
  · exact hd hn
  · have := hl.2 ⟨hlt', hn⟩
    omega

/-- Every method lies behind the cursor and within the file. -/
theorem Segmentation.mem_bounds {lines : List String} {cursor : Nat} {spans : List MethodSpan}
    (hs : Segmentation lines cursor spans) :
    ∀ m ∈ spans, cursor ≤ m.first ∧ m.first < m.last ∧ m.last ≤ lines.length := by
  induction hs with
  | done h => simp
  | oneLine hf hd _ ih =>
    intro m hm
    obtain ⟨h1, h2, h3⟩ := ih m hm
    have := hf.1.1
    exact ⟨by omega, h2, h3⟩
  | endless hf hd => simp
  | method hf hd hl _ ih =>
    intro m hm
    have hc := hf.1.1
    have hfl := hl.1.1
    rcases List.mem_cons.1 hm with rfl | hm
    · exact ⟨hc, hfl, le_length_of_closing hd hl⟩
    · obtain ⟨h1, h2, h3⟩ := ih m hm
      exact ⟨by omega, h2, h3⟩

/-- Methods do not overlap, and stand in the order of their lines. -/
theorem Segmentation.pairwise {lines : List String} {cursor : Nat} {spans : List MethodSpan}
    (hs : Segmentation lines cursor spans) : spans.Pairwise fun a b => a.last < b.first := by
  induction hs with
  | done h => exact .nil
  | oneLine hf hd _ ih => exact ih
  | endless hf hd => exact .nil
  | method hf hd hl rest ih => exact .cons (fun m hm => (rest.mem_bounds m hm).1) ih

/-! ## What the tracker holds -/

/-- The tracker is inside the method that opens on line `first`, and line `i` is the last one it
has seen. -/
structure Inside (lines : List String) (first i : Nat) (m : OpenMethod) : Prop where
  opens : (openingOn lines first).isSome
  le : first ≤ i
  depth_eq : m.depth = depthBehind lines first i
  /-- The method has not ended so far. -/
  depth_ne : ∀ j, first ≤ j → j ≤ i → depthBehind lines first j ≠ 0
  name_eq : m.name = methodName (lineAt lines first)
  bodyLines_eq : m.bodyLines = i - first
  startLine_eq : m.startLine = first

/-- What the tracker holds behind line `i`. -/
def Following (lines : List String) (i : Nat) : Option OpenMethod → Prop
  | none => True
  | some m => Inside lines m.startLine i m

/-- Where the search for methods stands behind line `i`: on the open method, or on the next line. -/
def cursorBehind (i : Nat) : Option OpenMethod → Nat
  | none => i + 1
  | some m => m.startLine

theorem Inside.of_opening {lines : List String} {first : Nat} {o : Opening}
    (h : openingOn lines first = some o) (hd : braceDepth 1 o.body ≠ 0) :
    Inside lines first first
      ⟨braceDepth 1 o.body, methodName (lineAt lines first), 0, first⟩ where
  opens := by simp [h]
  le := Nat.le_refl _
  depth_eq := (depthBehind_self h).symm
  depth_ne j hj hj' := by
    obtain rfl := Nat.le_antisymm hj hj'
    rwa [depthBehind_self h]
  name_eq := rfl
  bodyLines_eq := (Nat.sub_self _).symm
  startLine_eq := rfl

theorem Inside.step {lines : List String} {first i : Nat} {m : OpenMethod}
    (h : Inside lines first i m) (hd : depthBehind lines first (i + 1) ≠ 0) :
    Inside lines first (i + 1)
      { m with depth := depthBehind lines first (i + 1), bodyLines := m.bodyLines + 1 } where
  opens := h.opens
  le := Nat.le_succ_of_le h.le
  depth_eq := rfl
  depth_ne j hj hj' := by
    rcases Nat.eq_or_lt_of_le hj' with rfl | hlt
    · exact hd
    · exact h.depth_ne j hj (Nat.le_of_lt_succ hlt)
  name_eq := h.name_eq
  bodyLines_eq := by
    have := h.bodyLines_eq
    have := h.le
    show m.bodyLines + 1 = i + 1 - first
    omega
  startLine_eq := h.startLine_eq

/-- The verdict of the tracker on a method is that on its interval of lines. -/
theorem Inside.verdict_eq {lines : List String} {first i : Nat} {m : OpenMethod}
    (h : Inside lines first i m) (max : Nat) :
    m.verdict max = MethodSpan.verdict max lines ⟨first, i + 1⟩ := by
  have hb : m.bodyLines = i + 1 - first - 1 := by
    have := h.bodyLines_eq
    omega
  rw [OpenMethod.verdict, MethodSpan.verdict, MethodSpan.bodyLength, h.name_eq, h.startLine_eq, hb]

/-- A method that is open behind the last line has no end. -/
theorem Inside.endless {lines : List String} {first : Nat} {m : OpenMethod}
    (h : Inside lines first lines.length m) :
    ∀ i, first ≤ i → depthBehind lines first i ≠ 0 := by
  intro i hi
  rcases Nat.le_total i lines.length with hle | hge
  · exact h.depth_ne i hi hle
  · induction i, hge using Nat.le_induction with
    | base => exact h.depth_ne _ hi (Nat.le_refl _)
    | succ n hn ih =>
      rw [depthBehind_succ_of_length_le (h.le.trans hn) hn]
      exact ih (h.le.trans hn)

/-- A method ends on the first line that brings its depth to zero. -/
theorem Inside.isLeast_closing {lines : List String} {first i : Nat} {m : OpenMethod}
    (h : Inside lines first i m) (hd : depthBehind lines first (i + 1) = 0) :
    IsLeast {j | first < j ∧ depthBehind lines first j = 0} (i + 1) := by
  refine ⟨⟨Nat.lt_succ_of_le h.le, hd⟩, fun j hj => ?_⟩
  by_contra hlt
  exact h.depth_ne j (Nat.le_of_lt hj.1) (by omega) hj.2

/-! ## The tracker finds the segmentation -/

/-- Feeding line `i + 1` leads from `state` to `result`: the tracker still follows the lines, and
the methods from its new cursor on, behind the verdict on this line, are those from the old one. -/
structure StepFound (max : Nat) (lines : List String) (i : Nat) (state : Option OpenMethod)
    (result : Option OpenMethod × Option Violation) : Prop where
  following : Following lines (i + 1) result.1
  /-- The verdict on this line comes before those on the methods from the new cursor on. -/
  found : ∀ spans, Segmentation lines (cursorBehind (i + 1) result.1) spans →
    ∃ all, Segmentation lines (cursorBehind i state) all ∧
      all.filterMap (MethodSpan.verdict max lines) =
        result.2.toList ++ spans.filterMap (MethodSpan.verdict max lines)

theorem stepFound_outside (max : Nat) {lines : List String} {i : Nat} {text : String}
    (hline : lineAt lines (i + 1) = text) :
    StepFound max lines i none (feedLine max none (i + 1) text) := by
  cases ho : Opening.find? text.toList with
  | none =>
    have hopen : openingOn lines (i + 1) = none := by rw [openingOn, hline, ho]
    rw [feedLine_of_not_opening _ _ ho]
    exact ⟨trivial, fun spans hs => ⟨spans, hs.of_not_opening hopen, rfl⟩⟩
  | some o =>
    have hopen : openingOn lines (i + 1) = some o := by rw [openingOn, hline, ho]
    by_cases hd : braceDepth 1 o.body = 0
    · have hnext := NextOpening.self (Option.isSome_iff_exists.2 ⟨o, hopen⟩)
      have hself := (depthBehind_self hopen).trans hd
      rw [feedLine_of_closed_opening _ _ ho hd]
      exact ⟨trivial, fun spans hs => ⟨spans, .oneLine hnext hself hs, rfl⟩⟩
    · have hin := Inside.of_opening hopen hd
      rw [hline] at hin
      rw [feedLine_of_opening _ _ ho hd]
      exact ⟨hin, fun spans hs => ⟨spans, hs, rfl⟩⟩

theorem stepFound_inside (max : Nat) {lines : List String} {i : Nat} {text : String}
    {m : OpenMethod} (hline : lineAt lines (i + 1) = text) (h : Inside lines m.startLine i m) :
    StepFound max lines i (some m) (feedLine max (some m) (i + 1) text) := by
  have hdepth : depthBehind lines m.startLine (i + 1) = braceDepth m.depth text.toList := by
    rw [depthBehind_succ _ h.le, hline, ← h.depth_eq]
  by_cases hd : braceDepth m.depth text.toList = 0
  · have hlast := h.isLeast_closing (hdepth.trans hd)
    have hfirst := h.depth_ne _ (Nat.le_refl _) h.le
    rw [feedLine_closing _ _ hd]
    refine ⟨trivial, fun spans hs => ⟨⟨m.startLine, i + 1⟩ :: spans,
      .method (.self h.opens) hfirst hlast hs, ?_⟩⟩
    rw [filterMap_cons_toList, h.verdict_eq max]
  · have hin := h.step (hdepth.trans_ne hd)
    rw [hdepth] at hin
    rw [feedLine_inside _ _ hd]
    exact ⟨hin, fun spans hs => ⟨spans, hs, rfl⟩⟩

theorem Following.step (max : Nat) {lines : List String} {i : Nat} {text : String}
    (hline : lineAt lines (i + 1) = text) :
    ∀ {state : Option OpenMethod}, Following lines i state →
      StepFound max lines i state (feedLine max state (i + 1) text)
  | none, _ => stepFound_outside max hline
  | some _, h => stepFound_inside max hline h

/-- Behind the last line there is nothing left to find. -/
theorem Following.segmentation_nil {lines : List String} : ∀ {state : Option OpenMethod},
    Following lines lines.length state →
      Segmentation lines (cursorBehind lines.length state) []
  | none, _ => .done fun _ hi => openingOn_of_length_lt hi
  | some _, h => .endless (.self h.opens) h.endless

/-- What the tracker reports on the remaining lines are the verdicts on the methods from its
cursor on. -/
theorem exists_segmentation (max : Nat) : ∀ (rest seen : List String) (state : Option OpenMethod),
    Following (seen ++ rest) seen.length state →
    ∃ spans, Segmentation (seen ++ rest) (cursorBehind seen.length state) spans ∧
      tooLong max state (numberFrom (seen.length + 1) rest) =
        spans.filterMap (MethodSpan.verdict max (seen ++ rest))
  -- By induction on the lines to come; `Following` is what the lines seen so far leave behind.
  | [], seen, state, h => by
    rw [List.append_nil] at h ⊢
    exact ⟨[], h.segmentation_nil, rfl⟩
  | text :: rest, seen, state, h => by
    have hstep := h.step max (lineAt_append_cons seen text rest)
    have ih := exists_segmentation max rest (seen ++ [text])
    rw [List.length_append, List.length_singleton, List.append_assoc, List.singleton_append] at ih
    obtain ⟨spans, hs, hv⟩ := ih _ hstep.following
    obtain ⟨all, hall, hfound⟩ := hstep.found spans hs
    refine ⟨all, hall, ?_⟩
    rw [numberFrom, tooLong_cons, hv, hfound]

theorem MethodSpan.line_of_verdict {max : Nat} {lines : List String} {m : MethodSpan}
    {v : Violation} (hm : m.first < m.last) (h : m.verdict max lines = some v) :
    ∃ body, v.measurement = some ⟨body, max⟩ ∧ v.line = some (m.last - body - 1) := by
  unfold verdict at h
  split_ifs at h with hlt
  obtain rfl := Option.some.inj h
  refine ⟨m.bodyLength, rfl, congrArg some ?_⟩
  show m.first = m.last - m.bodyLength - 1
  unfold bodyLength
  omega

/-- The violations reported while the lines of a file are fed to a fresh tracker are those of the
long methods in its segmentation, of which there is exactly one. The methods do not overlap, they
stand in the order of their lines, and each reported line lies as many lines as the body has, and
one more, in front of the closing one. -/
theorem tooLong_eq_segmentation (max : Nat) (lines : List String) :
    ∃ spans, Segmentation lines 1 spans ∧ (∀ others, Segmentation lines 1 others → others = spans) ∧
      tooLong max none (numberFrom 1 lines) = spans.filterMap (MethodSpan.verdict max lines) ∧
      spans.Pairwise (fun a b => a.last < b.first) ∧
      ∀ m ∈ spans, 1 ≤ m.first ∧ m.first < m.last ∧ m.last ≤ lines.length ∧
        ∀ v, m.verdict max lines = some v →
          ∃ body, v.measurement = some ⟨body, max⟩ ∧ v.line = some (m.last - body - 1) := by
  obtain ⟨spans, hs, hv⟩ := exists_segmentation max lines [] none trivial
  refine ⟨spans, hs, fun others ho => ho.unique hs, hv, hs.pairwise, fun m hm => ?_⟩
  obtain ⟨h1, h2, h3⟩ := hs.mem_bounds m hm
  exact ⟨h1, h2, h3, fun v h => MethodSpan.line_of_verdict h2 h⟩

example : tooLong 1 none (numberFrom 1 ["int a() \x7b return b; \x7d", "void run() \x7b",
    "if (c) \x7b", "\x7d else \x7b", "\x7d", "\x7d"]) =
      [.methodTooLong "run()" 2 3 1] := by
  decide

end HouseStyle
