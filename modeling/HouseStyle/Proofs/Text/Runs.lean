import HouseStyle.Text.Word
import Mathlib.Data.List.TakeWhile

/-!
# Runs of one kind

A run of characters of one kind goes on for as long as it can: `Spans` says where it ends. A word
stands in a text where a run of word characters, which nothing extends at either end, spells it.
-/

namespace HouseStyle.Text

/-- A run of characters of a kind that ends where the rest of the text begins. -/
def Spans (kind : Char → Bool) (run rest : List Char) : Prop :=
  (∀ c ∈ run, kind c = true) ∧ ∀ c ∈ rest.head?, kind c = false

section Spans

variable {kind : Char → Bool} {run rest : List Char}

theorem spans_takeWhile (kind : Char → Bool) (text : List Char) :
    Spans kind (text.takeWhile kind) (text.dropWhile kind) := by
  refine ⟨fun c hc => List.mem_takeWhile_imp hc, fun c hc => ?_⟩
  have hhead := List.head?_dropWhile_not kind text
  rwa [Option.mem_def.1 hc] at hhead

theorem exists_spans (kind : Char → Bool) (text : List Char) :
    ∃ run rest, text = run ++ rest ∧ Spans kind run rest :=
  ⟨_, _, List.takeWhile_append_dropWhile.symm, spans_takeWhile kind text⟩

theorem Spans.takeWhile_eq (h : Spans kind run rest) : (run ++ rest).takeWhile kind = run := by
  rw [List.takeWhile_append_of_pos h.1]
  cases rest with
  | nil => simp
  | cons c rest => rw [List.takeWhile_cons_of_neg (by simp [h.2 c rfl]), List.append_nil]

theorem Spans.dropWhile_eq (h : Spans kind run rest) : (run ++ rest).dropWhile kind = rest := by
  rw [List.dropWhile_append_of_pos h.1]
  cases rest with
  | nil => rfl
  | cons c rest => rw [List.dropWhile_cons_of_neg (by simp [h.2 c rfl])]

end Spans

theorem mem_dropWhile_iff {α : Type} {p : α → Bool} {x : α} {l : List α} (hx : p x = false) :
    x ∈ l.dropWhile p ↔ x ∈ l := by
  refine ⟨fun h => (List.dropWhile_sublist p).subset h, fun h => ?_⟩
  rw [← List.takeWhile_append_dropWhile (p := p) (l := l), List.mem_append] at h
  refine h.resolve_left fun htake => ?_
  rw [List.mem_takeWhile_imp htake] at hx
  cases hx

/-- Trimming takes blanks only. -/
theorem mem_trim_iff {c : Char} {text : List Char} (h : isBlank c = false) :
    c ∈ trim text ↔ c ∈ text := by
  rw [trim, trimEnd, trimStart, List.mem_reverse, mem_dropWhile_iff h, List.mem_reverse,
    mem_dropWhile_iff h]

/-- A text is cut in front of its first `c`. -/
theorem takeWhile_append_of_not_mem {c : Char} {code : List Char} (h : c ∉ code)
    (tail : List Char) : (code ++ c :: tail).takeWhile (· != c) = code := by
  have hall : ∀ d ∈ code, (d != c) = true := fun d hd => bne_iff_ne.2 (ne_of_mem_of_not_mem hd h)
  rw [List.takeWhile_append_of_pos hall, List.takeWhile_cons_of_neg (by simp), List.append_nil]

/-- The word stands in the text, as a whole word. -/
def HasWord (word text : List Char) : Prop :=
  ∃ before after, text = before ++ (word ++ after) ∧ (∀ c ∈ before.getLast?, isWord c = false) ∧
    Spans isWord word after

theorem not_hasWord_nil {word : List Char} (hword : word ≠ []) : ¬ HasWord word [] := by
  rintro ⟨before, after, h, -⟩
  simp [hword] at h

theorem getLast?_append_cons {x y : List Char} {c : Char} :
    (x ++ c :: y).getLast? = some (y.getLast?.getD c) := by
  rw [List.getLast?_append, List.getLast?_cons, Option.some_or]

/-- A whole word lies on one side of a character that belongs to no word. -/
theorem hasWord_append_cons_iff {word x y : List Char} {c : Char} (hword : word ≠ [])
    (hc : isWord c = false) :
    HasWord word (x ++ c :: y) ↔ HasWord word x ∨ HasWord word y := by
  constructor
  · rintro ⟨before, after, h, hbefore, hall, hafter⟩
    have hmem : c ∉ word := fun hmem => by simp [hall c hmem] at hc
    rcases List.append_eq_append_iff.1 h with ⟨u, rfl, hu⟩ | ⟨u, rfl, hu⟩
    · -- The word starts behind `x`, and so behind `c`, which is none of its letters.
      cases u with
      | nil =>
        obtain ⟨d, word, rfl⟩ := List.exists_cons_of_ne_nil hword
        exact absurd (by simp [(List.cons.inj hu).1]) hmem
      | cons d u =>
        obtain ⟨rfl, rfl⟩ := List.cons.inj hu
        refine .inr ⟨u, after, rfl, fun e he => hbefore e ?_, hall, hafter⟩
        rw [getLast?_append_cons, Option.mem_def.1 he]
        rfl
    · -- The word starts in `x`, and cannot reach beyond it.
      rcases List.append_eq_append_iff.1 hu with ⟨v, rfl, rfl⟩ | ⟨v, rfl, hv⟩
      · refine .inl ⟨before, v, rfl, hbefore, hall, fun e he => hafter e ?_⟩
        rw [List.head?_append, Option.mem_def.1 he]
        rfl
      · cases v with
        | nil => exact .inl ⟨before, [], by simp, hbefore, by simpa using hall, by simp⟩
        | cons d v => exact absurd (by simp [(List.cons.inj hv).1]) hmem
  · rintro (⟨before, after, rfl, hbefore, hall, hafter⟩ |
      ⟨before, after, rfl, hbefore, hall, hafter⟩)
    · refine ⟨before, after ++ c :: y, by simp, hbefore, hall, fun e he => ?_⟩
      cases after with
      | nil => rwa [← Option.some_inj.1 (Option.mem_def.1 he)]
      | cons d after => exact hafter e he
    · refine ⟨x ++ c :: before, after, by simp, fun e he => ?_, hall, hafter⟩
      rw [getLast?_append_cons, Option.mem_def, Option.some_inj] at he
      cases hlast : before.getLast? with
      | none => rwa [← he, hlast]
      | some d => exact hbefore e (by rw [hlast] at he ⊢; rw [← he]; rfl)

end HouseStyle.Text
