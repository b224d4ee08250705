import HouseStyle.Report.Basic
import Mathlib.Data.List.Nodup
import Mathlib.Data.List.Induction

/-!
# What a tally holds

A tally names each commandment that was broken once, in the order in which they were first broken,
with the number of its violations (`ofViolations_eq`).
-/

namespace HouseStyle

/-- The commandments that were broken, once for each violation. -/
def commandmentsOf (vs : List Violation) : List Nat := vs.map fun v => v.rule.commandment

theorem commandmentsOf_concat (vs : List Violation) (v : Violation) :
    commandmentsOf (vs ++ [v]) = commandmentsOf vs ++ [v.rule.commandment] :=
  List.map_append

/-! ## First occurrences -/

/-- A further entry counts as a first occurrence if it is new. -/
theorem eraseDups_concat (l : List Nat) (c : Nat) :
    (l ++ [c]).eraseDups = if c ∈ l then l.eraseDups else l.eraseDups ++ [c] := by
  rw [List.eraseDups_append]
  by_cases h : c ∈ l <;> simp [List.removeAll, List.eraseDups_cons, h]

theorem nodup_eraseDups (l : List Nat) : l.eraseDups.Nodup := by
  induction l using List.reverseRecOn with
  | nil => exact List.nodup_nil
  | append_singleton l c ih =>
    rw [eraseDups_concat]
    split
    · exact ih
    · have hnew : c ∉ l.eraseDups := by rwa [List.mem_eraseDups]
      rw [← List.concat_eq_append]
      exact ih.concat hnew

/-! ## Counting one more violation -/

namespace Tally

/-- A commandment that was not broken before comes last. -/
theorem add_of_not_mem {c : Nat} (f : Nat → Nat) : ∀ {keys : List Nat}, c ∉ keys →
    add c (keys.map fun k => (k, f k)) = (keys.map fun k => (k, f k)) ++ [(c, 1)]
  | [], _ => rfl
  | k :: keys, h => by
    obtain ⟨hk, hkeys⟩ := not_or.mp (mt List.mem_cons.mpr h)
    simp [add, Ne.symm hk, add_of_not_mem f hkeys]

/-- One more violation of a commandment leaves the numbers of the others as they are. -/
theorem map_count_of_not_mem {c : Nat} (f : Nat → Nat) {keys : List Nat} (h : c ∉ keys) :
    (keys.map fun k => (k, f k + if c = k then 1 else 0)) = keys.map fun k => (k, f k) := by
  refine List.map_congr_left fun k hk => ?_
  have hne : c ≠ k := fun heq => h (heq ▸ hk)
  simp [hne]

/-- A commandment that was broken before keeps its place. -/
theorem add_of_mem {c : Nat} (f : Nat → Nat) : ∀ {keys : List Nat}, keys.Nodup → c ∈ keys →
    add c (keys.map fun k => (k, f k)) = keys.map fun k => (k, f k + if c = k then 1 else 0)
  | k :: keys, hn, h => by
    obtain ⟨hnew, hn⟩ := List.nodup_cons.mp hn
    by_cases hk : k = c
    · subst hk
      simp [add, map_count_of_not_mem f hnew]
    · have hmem := (List.mem_cons.mp h).resolve_left (Ne.symm hk)
      simp [add, hk, Ne.symm hk, add_of_mem f hn hmem]

theorem ofViolations_concat (vs : List Violation) (v : Violation) :
    ofViolations (vs ++ [v]) = (ofViolations vs).add v.rule.commandment := by
  simp [ofViolations]

/-- A tally names each commandment once, in the order in which they were first broken, with the
number of its violations. -/
theorem ofViolations_eq (vs : List Violation) :
    ofViolations vs
      = (commandmentsOf vs).eraseDups.map fun c => (c, (commandmentsOf vs).count c) := by
  induction vs using List.reverseRecOn with
  | nil => rfl
  | append_singleton vs v ih =>
    rw [ofViolations_concat, ih, commandmentsOf_concat, eraseDups_concat]
    have hcount (c : Nat) : (commandmentsOf vs ++ [v.rule.commandment]).count c
        = (commandmentsOf vs).count c + if v.rule.commandment = c then 1 else 0 := by
      simp [List.count_append, List.count_singleton]
    simp only [hcount]
    by_cases h : v.rule.commandment ∈ commandmentsOf vs
    · rw [if_pos h, add_of_mem _ (nodup_eraseDups _) (List.mem_eraseDups.mpr h)]
    · have hnew := mt List.mem_eraseDups.mp h
      rw [if_neg h, add_of_not_mem _ hnew, List.map_append, map_count_of_not_mem _ hnew]
      simp [List.count_eq_zero_of_not_mem h]

end Tally

end HouseStyle
