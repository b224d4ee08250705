import HouseStyle.Method.Name
import HouseStyle.Proofs.Text.Runs
import Mathlib.Data.List.Basic
import Mathlib.Data.Nat.Find
import Mathlib.Order.Bounds.Basic

/-!
# The name and the arguments of a method

A call is a name of letters, at most one blank, and an opening parenthesis with a closing one
somewhere behind it (`StartsCall`). A line can hold several, one within another, and several
closing parentheses. A method is shown from the first call behind a blank to the last closing
parenthesis of the line (`displayName_of_call`).
-/

namespace HouseStyle

open Text

/-! ## The part of a text up to its last parenthesis -/

section ThroughLast

variable {c : Char}

theorem throughLast?_append (u : List Char) {v : List Char} (h : c ∉ v) :
    throughLast? c (u ++ c :: v) = some (u ++ [c]) := by
  have hrun : ∀ d ∈ v.reverse, (d != c) = true := fun d hd =>
    bne_iff_ne.2 (ne_of_mem_of_not_mem (List.mem_reverse.1 hd) h)
  have hdrop : (u ++ c :: v).reverse.dropWhile (· != c) = c :: u.reverse := by
    rw [List.reverse_append, List.reverse_cons, List.append_assoc,
      List.dropWhile_append_of_pos hrun]
    simp
  rw [throughLast?, hdrop]
  simp

theorem throughLast?_of_not_mem {text : List Char} (h : c ∉ text) : throughLast? c text = none := by
  have hdrop : text.reverse.dropWhile (· != c) = [] :=
    List.dropWhile_eq_nil_iff.2 fun d hd =>
      bne_iff_ne.2 (ne_of_mem_of_not_mem (List.mem_reverse.1 hd) h)
  rw [throughLast?, hdrop]

/-- A text that holds a character can be cut behind the last place where it does. -/
theorem exists_append_last {text : List Char} (h : c ∈ text) :
    ∃ u v, text = u ++ c :: v ∧ c ∉ v := by
  obtain ⟨v, u, huv, hv⟩ := List.eq_append_cons_of_mem (List.mem_reverse.2 h)
  refine ⟨u.reverse, v.reverse, ?_, by simpa using hv⟩
  rw [← List.reverse_reverse text, huv]
  simp

theorem throughLast?_cons (c d : Char) (text : List Char) : throughLast? c (d :: text) =
    ((throughLast? c text).map (d :: ·)).or (if d = c then some [c] else none) := by
  by_cases h : c ∈ text
  · obtain ⟨u, v, rfl, hv⟩ := exists_append_last h
    rw [← List.cons_append, throughLast?_append _ hv, throughLast?_append _ hv]
    rfl
  · rw [throughLast?_of_not_mem h]
    by_cases hd : d = c
    · subst hd
      rw [if_pos rfl]
      exact throughLast?_append [] h
    · rw [if_neg hd]
      exact throughLast?_of_not_mem (by simp [h, Ne.symm hd])

end ThroughLast

/-! ## Letters -/

/-- The letters of ASCII. -/
def asciiLetters : CodeSet := ⟨[(0x41, 0x5A), (0x61, 0x7A)]⟩

theorem contains_asciiLetters (c : Char) : asciiLetters.contains c = c.isAlpha := by
  have halpha : c.isAlpha =
      (decide (c.val ≥ 65 ∧ c.val ≤ 90) || c.val ≥ 97 && c.val ≤ 122) := rfl
  rw [halpha, Bool.eq_iff_iff, CodeSet.contains_eq_true_iff]
  simp only [asciiLetters, List.mem_cons, List.not_mem_nil, or_false, exists_eq_or_imp,
    exists_eq_left, Bool.or_eq_true, Bool.and_eq_true, decide_eq_true_eq, ge_iff_le,
    UInt32.le_iff_toNat_le, Char.toNat_val]
  rfl

/-! ## Calls -/

/-- Nothing or one blank. -/
def AtMostOneBlank (gap : List Char) : Prop := gap = [] ∨ ∃ b, gap = [b] ∧ isBlank b = true

/-- A name of letters, at most one blank, and an opening parenthesis with a closing one behind. -/
def StartsCall (text : List Char) : Prop :=
  ∃ name gap rest, text = name ++ (gap ++ '(' :: rest) ∧
    (name ≠ [] ∧ ∀ c ∈ name, c.isAlpha = true) ∧ AtMostOneBlank gap ∧ ')' ∈ rest

/-- Behind the `i`-th character of a text, which is a blank, there is a call. -/
def CallBehind (text : List Char) (i : ℕ) : Prop :=
  ∃ c rest, text.drop i = c :: rest ∧ isBlank c = true ∧ StartsCall rest

/-- A blank is no letter. -/
theorem not_isAlpha_of_isBlank {c : Char} (h : isBlank c = true) : c.isAlpha = false := by
  rw [← contains_asciiLetters]
  exact CodeSet.contains_eq_false_of_disjoint (by decide) h

/-- Behind a name there is no letter, if what follows opens the arguments. -/
theorem AtMostOneBlank.spans_isAlpha {name gap : List Char} (hname : ∀ c ∈ name, c.isAlpha = true)
    (hgap : AtMostOneBlank gap) (rest : List Char) :
    Spans Char.isAlpha name (gap ++ '(' :: rest) := by
  refine ⟨hname, fun c hc => ?_⟩
  obtain rfl | ⟨b, rfl, hb⟩ := hgap
  · rw [← Option.some_inj.1 (Option.mem_def.1 hc)]
    decide
  · rw [← Option.some_inj.1 (Option.mem_def.1 hc)]
    exact not_isAlpha_of_isBlank hb

theorem argumentsOpening?_append {gap : List Char} (h : AtMostOneBlank gap) (rest : List Char) :
    argumentsOpening? (gap ++ '(' :: rest) = some (gap ++ ['('], rest) := by
  obtain rfl | ⟨b, rfl, hb⟩ := h
  · rfl
  · have hne : b ≠ '(' := fun h => absurd (h ▸ hb) (by decide)
    simp [argumentsOpening?, hb]

theorem exists_of_argumentsOpening?_eq_some {text opening rest : List Char}
    (h : argumentsOpening? text = some (opening, rest)) :
    ∃ gap, AtMostOneBlank gap ∧ text = gap ++ '(' :: rest := by
  unfold argumentsOpening? at h
  split at h
  · cases h
  · cases h
    exact ⟨[], .inl rfl, rfl⟩
  · split at h
    · split at h
      · cases h
        exact ⟨[_], .inr ⟨_, rfl, ‹_›⟩, rfl⟩
      · cases h
    · cases h

/-- A call is read up to the last closing parenthesis. -/
theorem callAt?_append {name gap arguments tail : List Char}
    (hname : name ≠ [] ∧ ∀ c ∈ name, c.isAlpha = true) (hgap : AtMostOneBlank gap)
    (hline : '\n' ∉ arguments ++ ')' :: tail) (htail : ')' ∉ tail) :
    callAt? (name ++ (gap ++ '(' :: (arguments ++ ')' :: tail))) =
      some (name ++ (gap ++ ['(']) ++ (arguments ++ [')'])) := by
  have hspans := hgap.spans_isAlpha hname.2 (arguments ++ ')' :: tail)
  have hwhole : (arguments ++ ')' :: tail).takeWhile (· != '\n') = arguments ++ ')' :: tail :=
    List.takeWhile_eq_self_iff.2 fun c hc => bne_iff_ne.2 (ne_of_mem_of_not_mem hc hline)
  rw [callAt?, hspans.takeWhile_eq, hspans.dropWhile_eq, argumentsOpening?_append hgap]
  simp [hname.1, hwhole, throughLast?_append arguments htail]

theorem startsCall_of_callAt?_eq_some {text found : List Char} (h : callAt? text = some found) :
    StartsCall text := by
  obtain ⟨name, rest, rfl, hspans⟩ := exists_spans Char.isAlpha text
  rw [callAt?, hspans.takeWhile_eq, hspans.dropWhile_eq] at h
  by_cases hne : name = []
  · simp [hne] at h
  simp only [Option.bind_eq_bind, Option.bind_eq_some_iff, Prod.exists] at h
  obtain ⟨-, -, opening, after, hopening, arguments, harguments, -⟩ := h
  obtain ⟨gap, hgap, rfl⟩ := exists_of_argumentsOpening?_eq_some hopening
  refine ⟨name, gap, after, rfl, ⟨hne, hspans.1⟩, hgap, ?_⟩
  by_contra hmem
  rw [throughLast?_of_not_mem fun h => hmem ((List.takeWhile_sublist _).subset h)] at harguments
  cases harguments

/-! ## The first call of a line -/

@[simp] theorem callBehind_zero {c : Char} {rest : List Char} :
    CallBehind (c :: rest) 0 ↔ isBlank c = true ∧ StartsCall rest := by
  simp [CallBehind]

@[simp] theorem callBehind_succ {c : Char} {rest : List Char} {i : ℕ} :
    CallBehind (c :: rest) (i + 1) ↔ CallBehind rest i := by
  simp [CallBehind]

/-- On a line, a call is read up to the last closing parenthesis. -/
theorem StartsCall.exists_callAt? {text : List Char} (hline : '\n' ∉ text)
    (h : StartsCall text) : ∃ found tail, text = found ++ tail ∧ found.getLast? = some ')' ∧
      ')' ∉ tail ∧ callAt? text = some found := by
  obtain ⟨name, gap, rest, rfl, hname, hgap, hmem⟩ := h
  obtain ⟨arguments, tail, rfl, htail⟩ := exists_append_last hmem
  refine ⟨name ++ (gap ++ ['(']) ++ (arguments ++ [')']), tail, by simp, ?_, htail,
    callAt?_append hname hgap (fun h => hline ?_) htail⟩
  · rw [← List.append_assoc, List.getLast?_concat]
  · exact List.mem_append_right _ (List.mem_append_right _ (List.mem_cons_of_mem _ h))

theorem signature?_cons_of_call {c : Char} {rest found : List Char} (hc : isBlank c = true)
    (h : callAt? rest = some found) : signature? (c :: rest) = some found := by
  rw [signature?, if_pos hc, h]

theorem signature?_cons_of_no_call {c : Char} {rest : List Char}
    (h : ¬ (isBlank c = true ∧ StartsCall rest)) : signature? (c :: rest) = signature? rest := by
  have hnone : (if isBlank c then callAt? rest else none) = none := by
    by_cases hc : isBlank c = true
    · rw [if_pos hc, Option.eq_none_iff_forall_ne_some]
      exact fun found hfound => h ⟨hc, startsCall_of_callAt?_eq_some hfound⟩
    · rw [if_neg hc]
  rw [signature?, hnone]

/-- The signature of a line starts at its first call. -/
theorem signature?_of_isLeast : ∀ {text : List Char} {i : ℕ}, '\n' ∉ text →
    IsLeast {i | CallBehind text i} i → ∃ found tail, text.drop (i + 1) = found ++ tail ∧
      found.getLast? = some ')' ∧ ')' ∉ tail ∧ signature? text = some found
  | [], i, _, h => by simp [IsLeast, CallBehind] at h
  | c :: rest, 0, hline, h => by
    obtain ⟨hc, hcall⟩ := callBehind_zero.1 h.1
    obtain ⟨found, tail, hrest, hlast, htail, hfound⟩ :=
      hcall.exists_callAt? fun h => hline (List.mem_cons_of_mem _ h)
    exact ⟨found, tail, hrest, hlast, htail, signature?_cons_of_call hc hfound⟩
  | c :: rest, i + 1, hline, h => by
    have hfirst : ¬ (isBlank c = true ∧ StartsCall rest) := fun hcall =>
      absurd (h.2 (callBehind_zero.2 hcall)) (Nat.not_succ_le_zero i)
    have hleast : IsLeast {i | CallBehind rest i} i :=
      ⟨callBehind_succ.1 h.1, fun j hj => Nat.le_of_succ_le_succ (h.2 (callBehind_succ.2 hj))⟩
    rw [signature?_cons_of_no_call hfirst]
    exact signature?_of_isLeast (fun h => hline (List.mem_cons_of_mem _ h)) hleast

/-- A line that holds a call is shown from its first call behind a blank up to its last closing
parenthesis. -/
theorem displayName_of_call {text : List Char} (hline : '\n' ∉ text)
    (hcall : ∃ i, CallBehind text i) :
    ∃ i name tail, IsLeast {i | CallBehind text i} i ∧ text.drop (i + 1) = name ++ tail ∧
      name.getLast? = some ')' ∧ ')' ∉ tail ∧ displayName text = name := by
  classical
  have hleast : IsLeast {i | CallBehind text i} (Nat.find hcall) :=
    ⟨Nat.find_spec hcall, fun _ h => Nat.find_min' hcall h⟩
  obtain ⟨name, tail, htext, hlast, htail, hname⟩ := signature?_of_isLeast hline hleast
  refine ⟨Nat.find hcall, name, tail, hleast, htext, hlast, htail, ?_⟩
  rw [displayName, hname, Option.getD_some]

/-- Calls that do not count: `g1` is no name of letters, `f` stands within a call and behind no
blank, and `h` is not closed. -/
theorem displayName_of_call_among_others :
    ∃ i name tail, IsLeast {i | CallBehind "é g1(x) run (f(a), é); h(b".toList i} i ∧
      "é g1(x) run (f(a), é); h(b".toList.drop (i + 1) = name ++ tail ∧
      name.getLast? = some ')' ∧ ')' ∉ tail ∧ name = "run (f(a), é)".toList := by
  have hline : '\n' ∉ "é g1(x) run (f(a), é); h(b".toList := by decide
  have hcall : StartsCall "run (f(a), é); h(b".toList :=
    ⟨"run".toList, [' '], "f(a), é); h(b".toList, by decide, ⟨by decide, by simp⟩,
      .inr ⟨' ', rfl, by decide⟩, by decide⟩
  obtain ⟨i, name, tail, hleast, htext, hlast, htail, hname⟩ :=
    displayName_of_call hline ⟨7, ' ', _, by decide, by decide, hcall⟩
  exact ⟨i, name, tail, hleast, htext, hlast, htail, hname.symm.trans (by decide)⟩

end HouseStyle
