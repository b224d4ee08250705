import HouseStyle.Pattern.Anchor
import HouseStyle.Pattern.CharClass

/-!
# Regular expressions

The expressions themselves, and what it means that one matches. `Matches r before found after`
says that `r` matches `found` where the text before it is `before` and the text after it is
`after`; the surroundings matter because of the anchors. `Occurs r text` says that some part of
`text` is matched. The leaves of an expression carry a value of a type `κ`, which is a character
class in a pattern as written.
-/

namespace HouseStyle

namespace Pattern

/-- A regular expression with a `κ` at each one-character leaf. -/
inductive Regex (κ : Type) where
  | empty
  | one (k : κ)
  | anchor (a : Anchor)
  | seq (p q : Regex κ)
  | alt (p q : Regex κ)
  /-- Matches one text of `p` or more, one after the other. -/
  | plus (p : Regex κ)

namespace Regex

variable {κ μ : Type}

/-- Replaces the value at every leaf. -/
def map (f : κ → μ) : Regex κ → Regex μ
  | empty => empty
  | one k => one (f k)
  | anchor a => anchor a
  | seq p q => seq (p.map f) (q.map f)
  | alt p q => alt (p.map f) (q.map f)
  | plus p => plus (p.map f)

/-- A text of `p` or nothing. -/
def opt (p : Regex κ) : Regex κ := alt p empty

/-- Any number of texts of `p`, one after the other. -/
def star (p : Regex κ) : Regex κ := opt (plus p)

/-- The expressions of a list, one after the other. -/
def sequence : List (Regex κ) → Regex κ
  | [] => empty
  | [p] => p
  | p :: ps => seq p (sequence ps)

/-- One of the expressions of a list, the empty text if there is none. -/
def choice : List (Regex κ) → Regex κ
  | [] => empty
  | [p] => p
  | p :: ps => alt p (choice ps)

/-- Exactly `n` texts of `p`. The two halves are one and the same expression, so that it takes
little room until a search tells them apart. -/
def power (p : Regex κ) (n : Nat) : Regex κ :=
  if n = 0 then empty
  else if n = 1 then p
  else
    let half := power p (n / 2)
    if n % 2 = 0 then seq half half else seq p (seq half half)

/-- At least `min` and at most `max` texts of `p`. -/
def counted (p : Regex κ) (min : Nat) : (max : Option Nat) → Regex κ
  | some max => seq (power p min) (power (opt p) (max - min))
  | none => if min = 0 then star p else seq (power p (min - 1)) (plus p)

end Regex

end Pattern

/-- A pattern: a regular expression over character classes. -/
abbrev Pattern := Pattern.Regex Pattern.CharClass

namespace Pattern

/-- `Matches r before found after`: the expression matches `found` between the two texts. -/
inductive Matches : Pattern → List Char → List Char → List Char → Prop where
  | empty {before after : List Char} : Matches .empty before [] after
  | one {k : CharClass} {c : Char} {before after : List Char} (h : k.contains c = true) :
      Matches (.one k) before [c] after
  | anchor {a : Anchor} {before after : List Char}
      (h : a.holds ⟨before.getLast?, after.head?⟩ = true) : Matches (.anchor a) before [] after
  | seq {p q : Pattern} {before u v after : List Char} (hp : Matches p before u (v ++ after))
      (hq : Matches q (before ++ u) v after) : Matches (.seq p q) before (u ++ v) after
  | altLeft {p q : Pattern} {before u after : List Char} (h : Matches p before u after) :
      Matches (.alt p q) before u after
  | altRight {p q : Pattern} {before u after : List Char} (h : Matches q before u after) :
      Matches (.alt p q) before u after
  | plusOne {p : Pattern} {before u after : List Char} (hp : Matches p before u after) :
      Matches (.plus p) before u after
  | plusCons {p : Pattern} {before u v after : List Char} (hp : Matches p before u (v ++ after))
      (hs : Matches (.plus p) (before ++ u) v after) : Matches (.plus p) before (u ++ v) after

/-- Some part of the text is matched. -/
def Occurs (r : Pattern) (text : List Char) : Prop :=
  ∃ before found after, text = before ++ found ++ after ∧ Matches r before found after

/-! ## Matching, part by part -/

namespace Matches

theorem seq_iff {p q : Pattern} {before found after : List Char} :
    Matches (.seq p q) before found after ↔
      ∃ u v, found = u ++ v ∧ Matches p before u (v ++ after) ∧
        Matches q (before ++ u) v after := by
  constructor
  · intro h
    cases h with
    | seq hp hq => exact ⟨_, _, rfl, hp, hq⟩
  · rintro ⟨u, v, rfl, hp, hq⟩
    exact .seq hp hq

theorem alt_iff {p q : Pattern} {before found after : List Char} :
    Matches (.alt p q) before found after ↔
      Matches p before found after ∨ Matches q before found after := by
  constructor
  · intro h
    cases h with
    | altLeft h => exact .inl h
    | altRight h => exact .inr h
  · rintro (h | h)
    · exact .altLeft h
    · exact .altRight h

theorem one_iff {k : CharClass} {before found after : List Char} :
    Matches (.one k) before found after ↔ ∃ c, found = [c] ∧ k.contains c = true := by
  constructor
  · intro h
    cases h with
    | one h => exact ⟨_, rfl, h⟩
  · rintro ⟨c, rfl, h⟩
    exact .one h

theorem empty_iff {before found after : List Char} :
    Matches .empty before found after ↔ found = [] := by
  constructor
  · intro h
    cases h
    rfl
  · rintro rfl
    exact .empty

theorem anchor_iff {a : Anchor} {before found after : List Char} :
    Matches (.anchor a) before found after ↔
      found = [] ∧ a.holds ⟨before.getLast?, after.head?⟩ = true := by
  constructor
  · intro h
    cases h with
    | anchor h => exact ⟨rfl, h⟩
  · rintro ⟨rfl, h⟩
    exact .anchor h

theorem opt_iff {p : Pattern} {before found after : List Char} :
    Matches p.opt before found after ↔ Matches p before found after ∨ found = [] := by
  rw [Regex.opt, alt_iff, empty_iff]

theorem star_iff {p : Pattern} {before found after : List Char} :
    Matches p.star before found after ↔ Matches (.plus p) before found after ∨ found = [] :=
  opt_iff

/-- One more text of the body can be put behind a repetition. -/
theorem plus_snoc {p : Pattern} {before u v after : List Char}
    (hs : Matches (.plus p) before u (v ++ after)) (hp : Matches p (before ++ u) v after) :
    Matches (.plus p) before (u ++ v) after := by
  generalize hr : Regex.plus p = r at hs
  generalize hw : v ++ after = w at hs
  induction hs with
  | plusOne h =>
    cases hr
    subst hw
    exact .plusCons h (.plusOne hp)
  | plusCons hp' _ _ ih =>
    cases hr
    subst hw
    rw [List.append_assoc]
    exact .plusCons (by simpa using hp') (ih (by simpa using hp) rfl rfl)
  | _ => cases hr

/-- A repetition matches the empty text exactly if its body does. -/
theorem plus_nil_iff {p : Pattern} {before after : List Char} :
    Matches (.plus p) before [] after ↔ Matches p before [] after := by
  constructor
  · intro h
    generalize hr : Regex.plus p = r at h
    generalize hf : ([] : List Char) = found at h
    induction h with
    | plusOne h =>
      cases hr
      subst hf
      exact h
    | plusCons hp _ _ _ =>
      cases hr
      obtain ⟨rfl, rfl⟩ := List.append_eq_nil_iff.1 hf.symm
      simpa using hp
    | _ => cases hr
  · exact .plusOne

/-- A repetition that matches some characters ends with a text of the body that does, behind
nothing or behind a repetition. -/
theorem exists_last_of_plus {p : Pattern} {before found after : List Char}
    (h : Matches (.plus p) before found after) (hne : found ≠ []) :
    ∃ u v, v ≠ [] ∧ found = u ++ v ∧ (u = [] ∨ Matches (.plus p) before u (v ++ after)) ∧
      Matches p (before ++ u) v after := by
  generalize hr : Regex.plus p = r at h
  induction h with
  | plusOne h =>
    cases hr
    exact ⟨[], _, hne, rfl, .inl rfl, by simpa using h⟩
  | @plusCons q before u v after hp hs _ ih =>
    cases hr
    by_cases hv : v = []
    · subst hv
      exact ⟨[], u, by simpa using hne, by simp, .inl rfl, by simpa using hp⟩
    · obtain ⟨x, y, hy, rfl, hx, hp'⟩ := ih hv rfl
      refine ⟨u ++ x, y, hy, by simp, .inr ?_, by simpa using hp'⟩
      rcases hx with rfl | hx
      · simpa using .plusOne (by simpa using hp)
      · exact .plusCons (by simpa using hp) (by simpa using hx)
  | _ => cases hr

end Matches

end Pattern

end HouseStyle
