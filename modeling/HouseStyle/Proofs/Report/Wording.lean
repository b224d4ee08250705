import HouseStyle.Report.Text
import Mathlib

/-!
# The words of a report

What a report says by itself, apart from the paths, lines and names that it is given, holds no
control character (`Violation.lacks_description`, `TextReport.lacks_breakdown`): no newline and
nothing that a terminal would obey.
-/

namespace HouseStyle

/-- The character does not occur in the text. -/
def Lacks (c : Char) (s : String) : Prop := c ∉ s.toList

instance (c : Char) (s : String) : Decidable (Lacks c s) :=
  inferInstanceAs (Decidable (c ∉ s.toList))

/-- What holds of the parts and of what stands between them holds of the whole. -/
theorem forall_mem_intercalate {α : Type} {P : α → Prop} {sep : List α} (hsep : ∀ x ∈ sep, P x) :
    ∀ (parts : List (List α)), (∀ part ∈ parts, ∀ x ∈ part, P x) → ∀ x ∈ sep.intercalate parts, P x
  | [], _ => by simp
  | [part], h => by simpa using h
  | part :: next :: parts, h => by
    obtain ⟨hpart, hparts⟩ := List.forall_mem_cons.1 h
    rw [List.intercalate_cons_cons, List.forall_mem_append, List.forall_mem_append]
    exact ⟨⟨hpart, hsep⟩, forall_mem_intercalate hsep (next :: parts) hparts⟩

section

variable {c : Char}

theorem Lacks.append {s t : String} (hs : Lacks c s) (ht : Lacks c t) : Lacks c (s ++ t) := by
  rw [Lacks, String.toList_append, List.mem_append, not_or]
  exact ⟨hs, ht⟩

theorem Lacks.intercalate {s : String} (hs : Lacks c s) {parts : List String}
    (h : ∀ part ∈ parts, Lacks c part) : Lacks c (s.intercalate parts) := by
  have hne {t : String} (ht : Lacks c t) : ∀ d ∈ t.toList, d ≠ c :=
    fun d hd heq => ht (heq ▸ hd)
  have hall := forall_mem_intercalate (hne hs) (parts.map String.toList)
    (List.forall_mem_map.2 fun part hpart => hne (h part hpart))
  rw [← String.toList_intercalate] at hall
  exact fun hmem => hall _ hmem rfl

theorem lacks_toString (hc : c.toNat < 0x30) (n : Nat) : Lacks c (toString n) := by
  intro hmem
  have hdigit := Nat.isDigit_of_mem_toDigits (b := 10) (n := n) (by decide) (by decide)
    (by simpa using hmem)
  have hle : 0x30 ≤ c.toNat := (Char.isDigit_iff_toNat.1 hdigit).1
  omega

variable (hc : c.toNat < 0x20)
include hc

theorem lacks_of_printable {s : String} (h : s.toList.all (0x20 ≤ ·.toNat) = true) : Lacks c s := by
  intro hmem
  have hprintable := of_decide_eq_true (List.all_eq_true.1 h c hmem)
  omega

theorem lacks_number (n : Nat) : Lacks c (toString n) :=
  lacks_toString (by omega) n

namespace TextReport

omit hc in
theorem toList_separator : separator.toList = List.replicate 72 '=' :=
  String.toList_ofList

theorem lacks_separator : Lacks c separator := by
  rw [Lacks, toList_separator]
  intro hmem
  rw [List.eq_of_mem_replicate hmem] at hc
  exact absurd hc (by decide)

theorem lacks_plural (n : Nat) {word : String} (h : Lacks c word) : Lacks c (plural n word) := by
  rw [plural]
  split
  · exact h
  · exact h.append (lacks_of_printable hc (by decide))

theorem lacks_breakdown (tally : Tally) : Lacks c (breakdown tally) := by
  refine .intercalate (lacks_of_printable hc (by decide)) (List.forall_mem_map.2 fun entry _ => ?_)
  have hcommandment := (lacks_of_printable hc (s := "commandment ") (by decide)).append
    (lacks_number hc entry.1)
  exact (hcommandment.append (lacks_of_printable hc (by decide))).append (lacks_number hc entry.2)

end TextReport

theorem Violation.lacks_description (v : Violation) : Lacks c v.description := by
  rw [description]
  cases v.rule with
  | methodLength | lineLength =>
    refine ((((lacks_of_printable hc ?_).append (lacks_number hc _)).append
      (lacks_of_printable hc ?_)).append (lacks_number hc _)).append (lacks_of_printable hc ?_)
    all_goals decide
  | _ =>
    dsimp only
    exact lacks_of_printable hc (by decide)

end

end HouseStyle
