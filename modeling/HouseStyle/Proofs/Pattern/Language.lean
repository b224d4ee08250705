import HouseStyle.Pattern.Regex

/-!
# The texts that a pattern matches

A pattern without anchors matches a text wherever it stands, so that all there is to know about it
is a set of texts. `Means p L` says that the texts of `p` are those of `L`; there is a lemma for
each way of putting a pattern together, and one for the repetition of a class of characters.
-/

namespace HouseStyle.Pattern

/-- The pattern matches the texts of `L`, whatever stands around them. -/
def Means (p : Pattern) (L : List Char → Prop) : Prop :=
  ∀ before found after, Matches p before found after ↔ L found

variable {p q : Pattern} {L M : List Char → Prop}

theorem Means.congr (hp : Means p L) (h : ∀ t, L t ↔ M t) : Means p M := by
  intro before found after
  rw [hp, h]

theorem means_one (k : CharClass) : Means (.one k) fun t => ∃ c, t = [c] ∧ k.contains c = true :=
  fun _ _ _ => Matches.one_iff

theorem means_empty : Means .empty fun t => t = [] :=
  fun _ _ _ => Matches.empty_iff

theorem Means.seq (hp : Means p L) (hq : Means q M) :
    Means (.seq p q) fun t => ∃ u v, t = u ++ v ∧ L u ∧ M v := by
  intro before found after
  simp only [Matches.seq_iff, hp _ _ _, hq _ _ _]

theorem Means.alt (hp : Means p L) (hq : Means q M) : Means (.alt p q) fun t => L t ∨ M t := by
  intro before found after
  rw [Matches.alt_iff, hp, hq]

theorem Means.opt (hp : Means p L) : Means p.opt fun t => L t ∨ t = [] :=
  hp.alt means_empty

theorem Means.star (hp : Means (.plus p) L) : Means p.star fun t => L t ∨ t = [] := by
  intro before found after
  rw [Matches.star_iff, hp]

/-- A repetition matches the texts of its body, one after the other. -/
theorem Means.plus (hp : Means p L) : Means (.plus p) fun t =>
    ∃ parts, parts ≠ [] ∧ t = parts.flatten ∧ ∀ part ∈ parts, L part := by
  intro before found after
  constructor
  · intro h
    generalize hr : Regex.plus p = r at h
    induction h with
    | @plusOne _ _ u _ hu =>
      cases hr
      exact ⟨[u], by simp, by simp, by simpa using (hp _ _ _).1 hu⟩
    | @plusCons _ _ u _ _ hu _ _ ih =>
      cases hr
      obtain ⟨parts, -, rfl, hparts⟩ := ih rfl
      refine ⟨u :: parts, by simp, by simp, ?_⟩
      rw [List.forall_mem_cons]
      exact ⟨(hp _ _ _).1 hu, hparts⟩
    | _ => cases hr
  · rintro ⟨parts, hne, rfl, hparts⟩
    induction parts generalizing before with
    | nil => exact absurd rfl hne
    | cons part parts ih =>
      rw [List.forall_mem_cons] at hparts
      cases parts with
      | nil => simpa using Matches.plusOne ((hp _ _ _).2 hparts.1)
      | cons next parts =>
        exact .plusCons ((hp _ _ _).2 hparts.1) (ih _ (by simp) hparts.2)

theorem means_plus_one (k : CharClass) :
    Means (.plus (.one k)) fun t => t ≠ [] ∧ ∀ c ∈ t, k.contains c = true := by
  intro before found after
  rw [(means_one k).plus]
  constructor
  · rintro ⟨parts, hne, rfl, hparts⟩
    constructor
    · obtain ⟨part, hpart⟩ := List.exists_mem_of_ne_nil _ hne
      obtain ⟨c, rfl, -⟩ := hparts part hpart
      exact List.ne_nil_of_mem (List.mem_flatten.2 ⟨[c], hpart, List.mem_singleton_self c⟩)
    · intro c hc
      obtain ⟨part, hpart, hc⟩ := List.mem_flatten.1 hc
      obtain ⟨d, rfl, hd⟩ := hparts part hpart
      rwa [List.mem_singleton.1 hc]
  · rintro ⟨hne, hall⟩
    refine ⟨found.map fun c => [c], by simpa using hne,
      by rw [← List.flatMap_def, List.flatMap_singleton'], ?_⟩
    intro part hpart
    obtain ⟨c, hc, rfl⟩ := List.mem_map.1 hpart
    exact ⟨c, rfl, hall c hc⟩

theorem means_star_one (k : CharClass) :
    Means (.star (.one k)) fun t => ∀ c ∈ t, k.contains c = true := by
  intro before found after
  rw [Means.star (means_plus_one k)]
  by_cases h : found = [] <;> simp [h]

/-- What is counted at most once is optional. -/
theorem Means.counted_optional (hp : Means p L) :
    Means (.counted p 0 (some 1)) fun t => L t ∨ t = [] := by
  have hcounted : Regex.counted p 0 (some 1) = .seq .empty p.opt := by
    simp [Regex.counted, Regex.power]
  rw [hcounted]
  refine (means_empty.seq hp.opt).congr fun t => ?_
  constructor
  · rintro ⟨_, v, rfl, rfl, hv⟩
    exact hv
  · intro ht
    exact ⟨[], t, rfl, rfl, ht⟩

/-- The letters of a word match the word. -/
theorem means_letters : ∀ word : List Char,
    Means (.sequence (word.map fun c => .one (.single c))) fun t => t = word
  | [] => fun _ _ _ => Matches.empty_iff
  | [c] => (means_one (.single c)).congr fun t => by simp
  | c :: d :: word =>
    have hparts : Means (.seq (.one (.single c)) _) _ :=
      (means_one (.single c)).seq (means_letters (d :: word))
    hparts.congr fun t => by simp

/-- A pattern occurs in a text if one of its texts is a part of it. -/
theorem Means.occurs_iff_isInfix (h : Means p L) {text : List Char} :
    Occurs p text ↔ ∃ found, found <:+: text ∧ L found := by
  simp only [Occurs, h _ _ _, List.IsInfix]
  constructor
  · rintro ⟨before, found, after, rfl, hfound⟩
    exact ⟨found, ⟨before, after, rfl⟩, hfound⟩
  · rintro ⟨found, ⟨before, after, rfl⟩, hfound⟩
    exact ⟨before, found, after, rfl, hfound⟩

/-- A pattern that is anchored at the start of the text occurs if it matches a part there. -/
theorem Means.occurs_iff {ps : List Pattern} (hps : ps ≠ []) (h : Means (.sequence ps) L)
    {text : List Char} : Occurs (.sequence (.anchor .textStart :: ps)) text ↔
      ∃ found after, text = found ++ after ∧ L found := by
  obtain ⟨q, qs, rfl⟩ := List.exists_cons_of_ne_nil hps
  have hstart (before found after : List Char) :
      Matches (.sequence (.anchor .textStart :: q :: qs)) before found after ↔
        before = [] ∧ L found := by
    rw [Regex.sequence, Matches.seq_iff]
    · simp only [Matches.anchor_iff, h _ _ _, Anchor.holds, Option.isNone_iff_eq_none,
        List.getLast?_eq_none_iff]
      constructor
      · rintro ⟨u, v, rfl, ⟨rfl, hbefore⟩, hv⟩
        exact ⟨hbefore, hv⟩
      · rintro ⟨hbefore, hfound⟩
        exact ⟨[], found, rfl, ⟨rfl, hbefore⟩, hfound⟩
    · simp
  simp only [Occurs, hstart]
  constructor
  · rintro ⟨before, found, after, rfl, rfl, hfound⟩
    exact ⟨found, after, rfl, hfound⟩
  · rintro ⟨found, after, rfl, hfound⟩
    exact ⟨[], found, after, rfl, rfl, hfound⟩

end HouseStyle.Pattern
