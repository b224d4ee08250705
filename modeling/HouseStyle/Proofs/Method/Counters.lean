import HouseStyle.Proofs.Method.Nesting
import HouseStyle.Proofs.Method.Segmentation
import Mathlib.Algebra.Group.Nat.Defs

/-!
# Counting without running over

The counters of a tracker may not go far enough (`Registers.feed?`). If they do, the registers hold
the method that is open, or nothing at all (`Registers.feedAll?_eq`).

The depth never exceeds the number of braces that have been opened from the opening line on,
behind a line and within one (`Counted.depth_le`, `depthWithin_le`). Hence no counter runs over
that goes as far as there are characters in the file (`registers_behind`).
-/

namespace HouseStyle

open Text

/-! ## Registers -/

/-- The registers that hold an open method, or none. -/
def Registers.holding : Option OpenMethod → Registers
  | none => {}
  | some m => ⟨m.depth, m.name, m.bodyLines, m.startLine⟩

/-- Registers that are empty outside a method hold nothing else than the method. -/
theorem Registers.holding_method? {r : Registers} (hr : r.depth = 0 → r = {}) :
    holding r.method? = r := by
  by_cases hd : r.depth = 0
  · rw [hr hd]
    rfl
  · rw [method?, if_neg hd, holding]

theorem Registers.method?_holding {state : Option OpenMethod} (h : ∀ m ∈ state, m.depth ≠ 0) :
    (holding state).method? = state := by
  cases state with
  | none => rfl
  | some m => exact if_neg (h m rfl)

/-- What the registers hold behind the lines of a file. -/
def Registers.behind (max : Nat) (lines : List String) : Registers :=
  holding (methodAfter max none (numberFrom 1 lines))

/-- The registers describe the method of a file that is open behind the last line. -/
structure Registers.Describe (r : Registers) (lines : List String) : Prop where
  /-- The method has not ended. -/
  depth_pos : 0 < r.depth
  one_le : 1 ≤ r.startLine
  /-- It is one of the lines that have been read. -/
  le_length : r.startLine ≤ lines.length
  opens : (openingOn lines r.startLine).isSome
  name_eq : r.name = methodName (lineAt lines r.startLine)
  /-- All lines behind it are counted. -/
  bodyLines_eq : r.bodyLines = lines.length - r.startLine

/-- One more, if the counter goes on that far. -/
def countUp? (bound n : Nat) : Option Nat := if n < bound then some (n + 1) else none

/-- The depth behind a text, if the counter does not run over within it. -/
def braceDepth? (bound depth : Nat) (text : List Char) : Option Nat :=
  text.foldlM (fun d c =>
    if c = '{' then countUp? bound d else if c = '}' then some (d - 1) else some d) depth

namespace Registers

/-- Counts the braces of a text. -/
def applyBraces? (bound : Nat) (r : Registers) (text : List Char) : Option Registers :=
  (braceDepth? bound r.depth text).map fun d => { r with depth := d }

/-- Feeds a line outside a method. A method that ends on its opening line leaves nothing behind. -/
def enter? (bound number : Nat) (r : Registers) (text : String) : Option Registers :=
  match Opening.find? text.toList with
  | none => some r
  | some o => do
    let opened ← applyBraces? bound ⟨1, methodName text, 0, number⟩ o.body
    return if opened.depth = 0 then {} else opened

/-- Feeds a line of a body. The end of the method leaves nothing behind. -/
def follow? (bound : Nat) (r : Registers) (text : String) : Option Registers := do
  let behind ← r.applyBraces? bound text.toList
  if behind.depth = 0 then return {}
  else return { behind with bodyLines := ← countUp? bound behind.bodyLines }

/-- Feeds a numbered line. -/
def feed? (bound : Nat) (r : Registers) (line : Nat × String) : Option Registers :=
  if r.depth = 0 then r.enter? bound line.1 line.2 else r.follow? bound line.2

/-- Feeds numbered lines one after the other, unless a counter runs over. -/
def feedAll? (bound : Nat) (r : Registers) (lines : List (Nat × String)) : Option Registers :=
  lines.foldlM (feed? bound) r

end Registers

/-! ## Counters that go far enough -/

theorem Opening.one_le_count_head {text : List Char} {o : Opening}
    (h : Opening.find? text = some o) : 1 ≤ o.head.count '{' :=
  List.one_le_count_iff.2 (List.mem_of_getLast? (Opening.eq_of_find? h).2)

/-- The opening brace counts, and those behind it. -/
theorem Opening.succ_count_le {text : List Char} {o : Opening} (h : Opening.find? text = some o) :
    1 + o.body.count '{' ≤ text.count '{' := by
  rw [(Opening.eq_of_find? h).1, List.count_append]
  exact Nat.add_le_add_right (Opening.one_le_count_head h) _

theorem braceDepth?_eq {bound : Nat} : ∀ (d : Nat) (text : List Char),
    d + text.count '{' ≤ bound → braceDepth? bound d text = some (braceDepth d text)
  | d, [], _ => rfl
  | d, c :: text, h => by
    by_cases ho : c = '{'
    · subst ho
      rw [List.count_cons_self] at h
      have hd : d < bound := by omega
      have ih : braceDepth? bound (d + 1) text = _ := braceDepth?_eq (d + 1) text (by omega)
      rw [braceDepth_cons_open, ← ih]
      simp [braceDepth?, countUp?, hd]
    · rw [List.count_cons_of_ne ho] at h
      by_cases hc : c = '}'
      · subst hc
        have ih : braceDepth? bound (d - 1) text = _ := braceDepth?_eq (d - 1) text (by omega)
        rw [braceDepth_cons_close, ← ih]
        simp [braceDepth?]
      · have ih : braceDepth? bound d text = _ := braceDepth?_eq d text h
        rw [braceDepth_cons_of_ne ho hc, ← ih]
        simp [braceDepth?, ho, hc]

variable {bound : Nat}

theorem Registers.applyBraces?_eq {r : Registers} {text : List Char}
    (h : r.depth + text.count '{' ≤ bound) :
    r.applyBraces? bound text = some (r.applyBraces text) := by
  rw [applyBraces?, braceDepth?_eq _ _ h]
  rfl

/-- Counters that go far enough do what counters without a bound do. -/
theorem Registers.feed?_eq (max number : Nat) {r : Registers} {text : String}
    (hdepth : r.depth + text.toList.count '{' ≤ bound)
    (hlines : r.depth ≠ 0 → r.bodyLines < bound) :
    r.feed? bound (number, text) = some (r.feed max number text).1 := by
  by_cases hr : r.depth = 0
  · rw [feed?, if_pos hr, feed, if_neg (not_not_intro hr), enter?, enter]
    cases ho : Opening.find? text.toList with
    | none => rfl
    | some o =>
      have hroom : 1 + o.body.count '{' ≤ bound := by
        have := Opening.succ_count_le ho
        omega
      simp only [applyBraces?_eq (r := ⟨1, methodName text, 0, number⟩) hroom]
      rfl
  · rw [feed?, if_neg hr, feed, if_pos hr, follow?, follow, applyBraces?_eq hdepth]
    by_cases hd : braceDepth r.depth text.toList = 0
    · simp [applyBraces, hd]
    · have hcount : countUp? bound r.bodyLines = some (r.bodyLines + 1) := if_pos (hlines hr)
      simp [applyBraces, hd, hcount]

/-- Behind a line that is fed to them, counters that go far enough hold the open method. -/
theorem Registers.feed?_holding (max number : Nat) {state : Option OpenMethod} {text : String}
    (hopen : ∀ m ∈ state, m.depth ≠ 0)
    (hdepth : (holding state).depth + text.toList.count '{' ≤ bound)
    (hlines : ∀ m ∈ state, m.bodyLines < bound) :
    (holding state).feed? bound (number, text) =
      some (holding (feedLine max state number text).1) := by
  have hempty : (holding state).depth = 0 → holding state = {} := by
    cases state with
    | none => exact fun _ => rfl
    | some m => exact fun hd => absurd hd (hopen m rfl)
  have hbody : (holding state).depth ≠ 0 → (holding state).bodyLines < bound := by
    cases state with
    | none => exact fun hd => absurd rfl hd
    | some m => exact fun _ => hlines m rfl
  have hfeed := congrArg Prod.fst ((holding state).feed_eq max number text)
  rw [method?_holding hopen] at hfeed
  rw [feed?_eq max number hdepth hbody, ← hfeed, holding_method? (feed_eq_empty hempty)]

/-! ## Within a line -/

/-- The number of the line that opens the method which the next line belongs to. -/
def firstWithin (state : Option OpenMethod) (number : Nat) : Nat :=
  (state.map OpenMethod.startLine).getD number

/-- The text of the lines `seen` from this line on. -/
def textFromOpening (state : Option OpenMethod) (seen : List String) : List Char :=
  joinedText (seen.drop (firstWithin state (seen.length + 1) - 1))

/-- The depth behind the first part `u` of the next line. Outside a method, counting starts behind
an opening brace. -/
def depthWithin (state : Option OpenMethod) (text u : List Char) : Nat :=
  match state with
  | some m => braceDepth m.depth u
  | none =>
    match Opening.find? text with
    | some o => if o.head <+: u then braceDepth 1 (u.drop o.head.length) else 0
    | none => 0

theorem depthWithin_of_opening {text : List Char} {o : Opening} (h : Opening.find? text = some o) :
    depthWithin none text text = braceDepth 1 o.body := by
  obtain ⟨htext, -⟩ := Opening.eq_of_find? h
  have hdrop : text.drop o.head.length = o.body := by
    rw [htext, List.drop_left]
  rw [depthWithin, h, ← hdrop]
  exact if_pos ⟨o.body, htext.symm⟩

/-- What a line leaves behind: nothing if the depth behind it is zero, and else the method that was
open in front of it, or opens there. -/
theorem fst_feedLine (max number : Nat) (state : Option OpenMethod) (text : String) :
    (feedLine max state number text).1 =
      if depthWithin state text.toList text.toList = 0 then none
      else some ⟨depthWithin state text.toList text.toList,
        (state.map OpenMethod.name).getD (methodName text),
        (state.map fun m => m.bodyLines + 1).getD 0, firstWithin state number⟩ := by
  cases state with
  | none =>
    cases ho : Opening.find? text.toList with
    | none =>
      rw [feedLine_of_not_opening max number ho, depthWithin, ho]
      rfl
    | some o =>
      rw [depthWithin_of_opening ho]
      by_cases hd : braceDepth 1 o.body = 0
      · rw [feedLine_of_closed_opening max number ho hd, if_pos hd]
      · rw [feedLine_of_opening max number ho hd, if_neg hd]
        rfl
  | some m =>
    rw [depthWithin]
    by_cases hd : braceDepth m.depth text.toList = 0
    · rw [feedLine_closing max number hd, if_pos hd]
    · rw [feedLine_inside max number hd, if_neg hd]
      rfl

/-! ## Along a file -/

/-- What is known of the method that is open behind the lines `seen`, with `rest` to come. -/
structure Counted (seen rest : List String) (m : OpenMethod) : Prop where
  inside : Inside (seen ++ rest) m.startLine seen.length m
  one_le : 1 ≤ m.startLine
  /-- The depth is at most the number of braces opened from the opening line on. -/
  depth_le : m.depth ≤ (joinedText (seen.drop (m.startLine - 1))).count '{'

theorem Counted.depth_pos {seen rest : List String} {m : OpenMethod} (h : Counted seen rest m) :
    0 < m.depth := by
  rw [h.inside.depth_eq]
  exact Nat.pos_of_ne_zero (h.inside.depth_ne _ h.inside.le (Nat.le_refl _))

/-- Behind the last line, the registers describe the method. -/
theorem Counted.describe {lines : List String} {m : OpenMethod} (h : Counted lines [] m) :
    (Registers.holding (some m)).Describe lines := by
  have hinside := h.inside
  rw [List.append_nil] at hinside
  exact ⟨h.depth_pos, h.one_le, hinside.le, hinside.opens, hinside.name_eq, hinside.bodyLines_eq⟩

/-- Within a line, too, the depth is at most this number. -/
theorem depthWithin_le {seen rest : List String} {state : Option OpenMethod} (text u : List Char)
    (h : ∀ m ∈ state, Counted seen rest m) :
    depthWithin state text u ≤ (textFromOpening state seen ++ u).count '{' := by
  rw [List.count_append]
  cases state with
  | some m =>
    have hdepth := (h m rfl).depth_le
    exact (braceDepth_le_add_count m.depth u).trans (Nat.add_le_add_right hdepth _)
  | none =>
    refine Nat.le_trans ?_ (Nat.le_add_left _ _)
    rw [depthWithin]
    split
    next o ho =>
      split
      next hu =>
        obtain ⟨v, rfl⟩ := hu
        rw [List.drop_left, List.count_append]
        exact (braceDepth_le_add_count 1 v).trans
          (Nat.add_le_add_right (Opening.one_le_count_head ho) _)
      next => exact Nat.zero_le _
    next => exact Nat.zero_le _

theorem counted_feedLine (max : Nat) {seen rest : List String} {text : String}
    {state : Option OpenMethod} (h : ∀ m ∈ state, Counted seen (text :: rest) m) :
    ∀ m ∈ (feedLine max state (seen.length + 1) text).1, Counted (seen ++ [text]) rest m := by
  intro m hm
  have hfollowing : Following (seen ++ text :: rest) seen.length state := by
    cases state with
    | none => trivial
    | some m => exact (h m rfl).inside
  have hinside := (hfollowing.step max (lineAt_append_cons seen text rest)).following
  rw [Option.mem_def.1 hm] at hinside
  obtain ⟨hdepth, hfirst⟩ : m.depth = depthWithin state text.toList text.toList ∧
      m.startLine = firstWithin state (seen.length + 1) := by
    rw [fst_feedLine] at hm
    split at hm
    · cases hm
    · cases hm
      exact ⟨rfl, rfl⟩
  have hone : 1 ≤ m.startLine := by
    rw [hfirst]
    cases state with
    | none => exact Nat.le_add_left _ _
    | some m' => exact (h m' rfl).one_le
  refine ⟨?_, hone, ?_⟩
  · rw [List.append_assoc, List.length_append]
    exact hinside
  · have hle : m.startLine ≤ seen.length + 1 := hinside.le
    have hdrop : (seen ++ [text]).drop (m.startLine - 1) =
        seen.drop (m.startLine - 1) ++ [text] := List.drop_append_of_le_length (by omega)
    have hbound := depthWithin_le text.toList text.toList h
    rw [← hdepth, textFromOpening, ← hfirst] at hbound
    rw [hdrop]
    simpa [joinedText] using hbound

theorem counted_methodAfter (max : Nat) (seen rest : List String) :
    ∀ m ∈ methodAfter max none (numberFrom 1 seen), Counted seen rest m := by
  induction seen using List.reverseRecOn generalizing rest with
  | nil => simp [methodAfter, numberFrom]
  | append_singleton seen text ih =>
    rw [methodAfter_concat]
    exact counted_feedLine max (ih (text :: rest))

/-- No counter runs over that goes as far as there are braces, and lines behind the first. -/
theorem Registers.feedAll?_eq (max : Nat) (lines : List String) (hlines : lines.length ≤ bound + 1)
    (hbraces : (joinedText lines).count '{' ≤ bound) :
    feedAll? bound (holding none) (numberFrom 1 lines) =
      some (holding (methodAfter max none (numberFrom 1 lines))) := by
  induction lines using List.reverseRecOn with
  | nil => rfl
  | append_singleton lines text ih =>
    rw [List.length_append, List.length_singleton] at hlines
    have hcount : (joinedText (lines ++ [text])).count '{' =
        (joinedText lines).count '{' + text.toList.count '{' := by
      simp [joinedText]
    rw [hcount] at hbraces
    have hfeed : (holding (methodAfter max none (numberFrom 1 lines))).feed? bound
        (lines.length + 1, text) =
        some (holding (methodAfter max none (numberFrom 1 (lines ++ [text])))) := by
      rw [methodAfter_concat]
      refine feed?_holding max _ (fun m hm => ?_) ?_ fun m hm => ?_
      · exact Nat.ne_of_gt (counted_methodAfter max lines [] m hm).depth_pos
      · cases hstate : methodAfter max none (numberFrom 1 lines) with
        | none => exact (Nat.zero_add _).trans_le (by omega)
        | some m =>
          have hdepth := (counted_methodAfter max lines [] m hstate).depth_le.trans
            (count_joinedText_drop_le lines _ '{')
          exact (Nat.add_le_add_right hdepth _).trans hbraces
      · have hcounted := counted_methodAfter max lines [] m hm
        have hbody := hcounted.inside.bodyLines_eq
        have hone := hcounted.one_le
        have hle := hcounted.inside.le
        omega
    rw [← hfeed, numberFrom_append, Nat.add_comm 1, feedAll?, List.foldlM_append, ← feedAll?,
      ih (by omega) (by omega)]
    simp [numberFrom]

/-! ## The size of a file -/

/-- A file has enough characters for its braces and its lines. -/
theorem le_length_joinLines (lines : List String) :
    lines.length ≤ (joinLines lines).length + 1 ∧
      (joinedText lines).count '{' ≤ (joinLines lines).length := by
  rw [joinLines, String.length_ofList]
  refine ⟨by simpa using length_le_length_join '\n' (lines.map String.toList), ?_⟩
  exact List.count_le_length.trans (joinedText_sublist lines).length_le

/-- Behind the lines of a file the registers are empty, or they describe the method that is open.
Within each line the depth is at most the number of braces opened from the opening line on. So a
counter that goes as far as the file has characters does not run over; below `2 ^ 64` characters
one of 64 bits will do. -/
theorem registers_behind (max : Nat) (lines : List String) :
    (∀ bound, (joinLines lines).length ≤ bound →
      Registers.feedAll? bound {} (numberFrom 1 lines) = some (Registers.behind max lines)) ∧
    (Registers.behind max lines = {} ∨ (Registers.behind max lines).Describe lines) ∧
    ∀ xs text ys, lines = xs ++ text :: ys → ∀ u, u <+: text.toList →
      depthWithin (methodAfter max none (numberFrom 1 xs)) text.toList u ≤
        (textFromOpening (methodAfter max none (numberFrom 1 xs)) xs ++ u).count '{' := by
  refine ⟨fun bound hbound => ?_, ?_, ?_⟩
  · obtain ⟨hlines, hbraces⟩ := le_length_joinLines lines
    exact Registers.feedAll?_eq max lines (by omega) (by omega)
  · rw [Registers.behind]
    cases hstate : methodAfter max none (numberFrom 1 lines) with
    | none => exact .inl rfl
    | some m => exact .inr (counted_methodAfter max lines [] m hstate).describe
  · rintro xs text ys - u -
    exact depthWithin_le text.toList u (counted_methodAfter max xs [])

theorem registers_behind_nested :
    (joinLines ["int a() \x7b b(); \x7d", "void run() \x7b", "if (c) \x7b"]).length ≤ 2 ^ 64 - 1 ∧
      Registers.feedAll? (2 ^ 64 - 1) {}
          (numberFrom 1 ["int a() \x7b b(); \x7d", "void run() \x7b", "if (c) \x7b"]) =
        some ⟨2, "run()", 1, 2⟩ := by
  have hsize : (joinLines ["int a() \x7b b(); \x7d", "void run() \x7b", "if (c) \x7b"]).length ≤
      2 ^ 64 - 1 := by decide
  obtain ⟨hrun, -⟩ :=
    registers_behind 50 ["int a() \x7b b(); \x7d", "void run() \x7b", "if (c) \x7b"]
  exact ⟨hsize, (hrun _ hsize).trans (by decide)⟩

end HouseStyle
