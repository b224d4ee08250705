import HouseStyle.Method.Tracker
import Mathlib.Data.List.Infix

/-!
# Counting braces

The depth behind a text only depends on its braces. A text from which no closing brace is lost
moves the depth by the difference of its counts (`braceDepth_add_count`); a balanced one does not
move it at all (`braceDepth_of_balanced`), and never takes it below where it started
(`le_braceDepth_of_isPrefix`).
-/

namespace HouseStyle

/-! ## One character at a time -/

@[simp] theorem braceDepth_nil (d : Nat) : braceDepth d [] = d :=
  rfl

@[simp] theorem braceDepth_cons_open (d : Nat) (text : List Char) :
    braceDepth d ('{' :: text) = braceDepth (d + 1) text :=
  rfl

@[simp] theorem braceDepth_cons_close (d : Nat) (text : List Char) :
    braceDepth d ('}' :: text) = braceDepth (d - 1) text :=
  rfl

theorem braceDepth_cons_of_ne {c : Char} (ho : c ≠ '{') (hc : c ≠ '}') (d : Nat)
    (text : List Char) : braceDepth d (c :: text) = braceDepth d text := by
  simp [braceDepth, ho, hc]

/-- Two texts in a row are walked one after the other. -/
theorem braceDepth_append (d : Nat) (s t : List Char) :
    braceDepth d (s ++ t) = braceDepth (braceDepth d s) t :=
  List.foldl_append

/-- A text opens no more braces than it holds. -/
theorem braceDepth_le_add_count : ∀ (d : Nat) (text : List Char),
    braceDepth d text ≤ d + text.count '{'
  | d, [] => by simp
  | d, c :: text => by
    by_cases ho : c = '{'
    · subst ho
      have ih := braceDepth_le_add_count (d + 1) text
      rw [braceDepth_cons_open, List.count_cons_self]
      omega
    · rw [List.count_cons_of_ne ho]
      by_cases hc : c = '}'
      · subst hc
        have ih := braceDepth_le_add_count (d - 1) text
        rw [braceDepth_cons_close]
        omega
      · rw [braceDepth_cons_of_ne ho hc]
        exact braceDepth_le_add_count d text

/-- A text without braces leaves the depth alone. -/
theorem braceDepth_of_not_mem (d : Nat) :
    ∀ {text : List Char}, '{' ∉ text → '}' ∉ text → braceDepth d text = d
  | [], _, _ => rfl
  | c :: text, ho, hc => by
    simp only [List.mem_cons, not_or] at ho hc
    rw [braceDepth_cons_of_ne (Ne.symm ho.1) (Ne.symm hc.1), braceDepth_of_not_mem d ho.2 hc.2]

/-! ## Texts that lose no closing brace -/

/-- Every closing brace of the text finds an open one, if `d` are open in front. -/
def Covered (d : Nat) (text : List Char) : Prop :=
  ∀ p, p <+: text → p.count '}' ≤ d + p.count '{'

theorem Covered.of_isPrefix {d : Nat} {s t : List Char} (h : Covered d t) (hs : s <+: t) :
    Covered d s :=
  fun p hp => h p (hp.trans hs)

/-- A covered character moves the depth by what it opens less what it closes. -/
theorem braceDepth_singleton_add_count {d : Nat} {c : Char} (h : Covered d [c]) :
    braceDepth d [c] + [c].count '}' = d + [c].count '{' := by
  have hc := h [c] (List.prefix_refl _)
  by_cases ho : c = '{'
  · subst ho
    rfl
  · by_cases he : c = '}'
    · subst he
      have hd : 1 ≤ d := by simpa using hc
      simpa using Nat.sub_add_cancel hd
    · simp [braceDepth_cons_of_ne ho he, ho, he]

/-- The rest of a covered text is covered at the depth behind its first character. -/
theorem Covered.tail {d : Nat} {c : Char} {text : List Char} (h : Covered d (c :: text)) :
    Covered (braceDepth d [c]) text := by
  intro p hp
  have hcp := h ([c] ++ p) (by simpa using hp)
  have hc := braceDepth_singleton_add_count (h.of_isPrefix (s := [c]) (by simp))
  rw [List.count_append, List.count_append] at hcp
  omega

/-- A covered text moves the depth by what it opens less what it closes. -/
theorem braceDepth_add_count :
    ∀ {d : Nat} {text : List Char}, Covered d text →
      braceDepth d text + text.count '}' = d + text.count '{'
  | d, [], _ => by simp
  | d, c :: text, h => by
    have ih := braceDepth_add_count h.tail
    have hc := braceDepth_singleton_add_count (h.of_isPrefix (s := [c]) (by simp))
    rw [← List.singleton_append, braceDepth_append, List.count_append, List.count_append]
    omega

/-! ## Balanced texts -/

/-- Braces nest: no prefix closes more than it opens, and all that is opened is closed. -/
structure Balanced (text : List Char) : Prop where
  /-- No prefix closes more than it opens. -/
  covered : ∀ p, p <+: text → p.count '}' ≤ p.count '{'
  /-- All that is opened is closed. -/
  count_eq : text.count '{' = text.count '}'

instance (text : List Char) : Decidable (Balanced text) :=
  decidable_of_iff
    ((∀ p ∈ text.inits, p.count '}' ≤ p.count '{') ∧ text.count '{' = text.count '}')
    ⟨fun h => ⟨fun p hp => h.1 p ((List.mem_inits p text).2 hp), h.2⟩,
      fun h => ⟨fun p hp => h.1 p ((List.mem_inits p text).1 hp), h.2⟩⟩

theorem Balanced.covered_at {text : List Char} (h : Balanced text) (d : Nat) : Covered d text :=
  fun p hp => Nat.le_trans (h.covered p hp) (Nat.le_add_left _ _)

/-- A balanced text leaves the depth where it was. -/
theorem braceDepth_of_balanced {text : List Char} (h : Balanced text) (d : Nat) :
    braceDepth d text = d := by
  have hd := braceDepth_add_count (h.covered_at d)
  have hn := h.count_eq
  omega

/-- Within a balanced text the depth never falls below where it was. -/
theorem le_braceDepth_of_isPrefix {text p : List Char} (h : Balanced text) (hp : p <+: text)
    (d : Nat) : d ≤ braceDepth d p := by
  have hd := braceDepth_add_count ((h.covered_at d).of_isPrefix hp)
  have hn := h.covered p hp
  omega

end HouseStyle
