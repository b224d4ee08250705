import HouseStyle.Proofs.Method.Counters
import Mathlib.Algebra.Order.Group.Int
import Mathlib.Order.Bounds.Basic

/-!
# The depth behind a text

A closing brace too many is forgotten, and the braces behind it are counted from zero. So the depth
behind a text is not just the depth in front moved by the braces of the text, and depends on their
order. It is the greatest of this number and of what the suffixes of the text open less what they
close, which is zero for the empty suffix (`isGreatest_braceDepth`). One half of this is that
nothing but closing braces is forgotten (`add_braceNet_le`), the other that the braces behind the
last one that is forgotten give the depth (`braceDepth_eq_or_exists_isSuffix`).

A line of a body ends its method if none of these numbers is positive (`braceDepth_eq_zero_iff`).
-/

namespace HouseStyle

/-! ## What a text opens less what it closes -/

/-- The number of braces that a text opens less the number of those that it closes. -/
def braceNet (text : List Char) : ℤ := text.count '{' - text.count '}'

@[simp] theorem braceNet_nil : braceNet [] = 0 :=
  rfl

theorem braceNet_append (s t : List Char) : braceNet (s ++ t) = braceNet s + braceNet t := by
  simp only [braceNet, List.count_append]
  omega

theorem braceNet_nonpos_iff {text : List Char} :
    braceNet text ≤ 0 ↔ ¬ text.count '}' < text.count '{' := by
  rw [braceNet]
  omega

/-! ## The walk along a text -/

/-- A character moves the depth by what it opens less what it closes, but not below zero. -/
theorem braceDepth_singleton (d : ℕ) (c : Char) :
    (braceDepth d [c] : ℤ) = max (d + braceNet [c]) 0 := by
  by_cases ho : c = '{'
  · subst ho
    have hnet : braceNet ['{'] = 1 := rfl
    rw [braceDepth_cons_open, braceDepth_nil, hnet]
    omega
  · by_cases hc : c = '}'
    · subst hc
      have hnet : braceNet ['}'] = -1 := rfl
      rw [braceDepth_cons_close, braceDepth_nil, hnet]
      omega
    · have hnet : braceNet [c] = 0 := by simp [braceNet, ho, hc]
      rw [braceDepth_cons_of_ne ho hc, braceDepth_nil, hnet]
      omega

/-- Nothing but closing braces is forgotten. -/
theorem add_braceNet_le : ∀ (d : ℕ) (text : List Char), d + braceNet text ≤ braceDepth d text
  | d, [] => by simp
  | d, c :: text => by
    have hfirst := braceDepth_singleton d c
    have ih := add_braceNet_le (braceDepth d [c]) text
    rw [← List.singleton_append, braceDepth_append, braceNet_append]
    omega

/-- At least as many braces are open behind a text as a suffix of it opens less those it closes. -/
theorem braceNet_le_of_isSuffix {u text : List Char} (h : u <:+ text) (d : ℕ) :
    braceNet u ≤ braceDepth d text := by
  obtain ⟨p, rfl⟩ := h
  have hle := add_braceNet_le (braceDepth d p) u
  rw [braceDepth_append]
  omega

/-- Either nothing is forgotten, or the suffix behind the last brace that is forgotten gives the
depth. -/
theorem braceDepth_eq_or_exists_isSuffix : ∀ (d : ℕ) (text : List Char),
    (braceDepth d text : ℤ) = d + braceNet text ∨
      ∃ u, u <:+ text ∧ (braceDepth d text : ℤ) = braceNet u
  | d, [] => .inl (by simp)
  | d, c :: text => by
    have hfirst := braceDepth_singleton d c
    rw [← List.singleton_append, braceDepth_append, braceNet_append]
    rcases braceDepth_eq_or_exists_isSuffix (braceDepth d [c]) text with h | ⟨u, hu, h⟩
    -- If the walk is held at zero by `c`, the whole rest is the suffix that is counted afresh.
    · rcases max_choice (d + braceNet [c]) 0 with hmoved | hheld
      · exact .inl (by omega)
      · exact .inr ⟨text, List.suffix_append [c] text, by omega⟩
    · exact .inr ⟨u, hu.trans (List.suffix_append [c] text), h⟩

/-! ## The end of a method -/

/-- A text leads to depth zero if none of the numbers whose greatest is the depth is positive. -/
theorem braceDepth_eq_zero_iff {d : ℕ} {text : List Char} : braceDepth d text = 0 ↔
    d + braceNet text ≤ 0 ∧ ∀ u, u <:+ text → ¬ u.count '}' < u.count '{' := by
  constructor
  · intro hzero
    refine ⟨?_, fun u hu => braceNet_nonpos_iff.1 ?_⟩
    · have hle := add_braceNet_le d text
      omega
    · have hle := braceNet_le_of_isSuffix hu d
      omega
  · rintro ⟨hmoved, hsuffixes⟩
    rcases braceDepth_eq_or_exists_isSuffix d text with h | ⟨u, hu, h⟩
    · omega
    · have hnet := braceNet_nonpos_iff.2 (hsuffixes u hu)
      omega

theorem fst_feedLine_eq_none_iff (max number : ℕ) (m : OpenMethod) (text : String) :
    (feedLine max (some m) number text).1 = none ↔ braceDepth m.depth text.toList = 0 := by
  rw [fst_feedLine, depthWithin]
  split
  next hd => exact iff_of_true rfl hd
  next hd => exact iff_of_false (Option.some_ne_none _) hd

/-- The depth behind a text is the greatest of the depth in front moved by the braces of the text
and of what its suffixes open less what they close. So a line of a body ends the method exactly if
the first of these numbers is at most zero and no suffix opens more than it closes. Two texts in a
row are walked one after the other. -/
theorem isGreatest_braceDepth (d : ℕ) (text : List Char) :
    IsGreatest {n : ℤ | n = d + braceNet text ∨ ∃ u, u <:+ text ∧ n = braceNet u}
      (braceDepth d text) ∧
    (1 ≤ d → ∀ max number name bodyLines startLine,
      ((feedLine max (some ⟨d, name, bodyLines, startLine⟩) number (String.ofList text)).1 = none ↔
        d + braceNet text ≤ 0 ∧ ∀ u, u <:+ text → ¬ u.count '}' < u.count '{')) ∧
    ∀ rest, braceDepth d (text ++ rest) = braceDepth (braceDepth d text) rest := by
  refine ⟨⟨braceDepth_eq_or_exists_isSuffix d text, ?_⟩, ?_, braceDepth_append d text⟩
  · rintro n (rfl | ⟨u, hu, rfl⟩)
    · exact add_braceNet_le d text
    · exact braceNet_le_of_isSuffix hu d
  · intro _ max number name bodyLines startLine
    rw [fst_feedLine_eq_none_iff, String.toList_ofList]
    exact braceDepth_eq_zero_iff

/-- More braces are closed than were open, but another one is opened behind them. -/
theorem isGreatest_braceDepth_reopened :
    1 ≤ 2 ∧ (2 : ℤ) + braceNet "\x7d\x7d\x7d \x7b".toList ≤ 0 ∧
      (feedLine 50 (some ⟨2, "run()", 3, 7⟩) 11 (String.ofList "\x7d\x7d\x7d \x7b".toList)).1 ≠
        none := by
  have hdepth : 1 ≤ 2 := by decide
  have hnet : (2 : ℤ) + braceNet "\x7d\x7d\x7d \x7b".toList ≤ 0 := by decide
  have hends := (isGreatest_braceDepth 2 "\x7d\x7d\x7d \x7b".toList).2.1 hdepth 50 11 "run()" 3 7
  refine ⟨hdepth, hnet, fun hnone => ?_⟩
  exact (hends.1 hnone).2 ['{'] ⟨"\x7d\x7d\x7d ".toList, by decide⟩ (by decide)

end HouseStyle
