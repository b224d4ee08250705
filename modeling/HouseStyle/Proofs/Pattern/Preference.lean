import HouseStyle.Pattern.Occurrence
import HouseStyle.Proofs.Text.Runs

/-!
# Which match a search takes

An expression can match several texts at one place, and a search takes the one that it prefers: by
the first branch of a choice rather than the second, by one more text of a repetition rather than
by one less. `reach` lists the places where the matches that start at a place end, in this order,
and `listsEnds_reach` says that none is left out. A search for all matches takes the first place
where there is one (`first?_eq_none_iff`), and goes on where the preferred match ends; `captures`
lists what such a search finds of a part of the expression.
-/

namespace HouseStyle.Pattern

open Text

/-- A place in a text: what has been read, last character first, and the rest. -/
structure Place where
  /-- The text before the place, last character first. -/
  read : List Char
  /-- The text behind the place. -/
  rest : List Char

namespace Place

/-- Reading `found` leads from the place `x` to the place `y`. -/
def Leads (x : Place) (found : List Char) (y : Place) : Prop :=
  x.rest = found ++ y.rest ∧ y.read = found.reverse ++ x.read

/-- The text between two places, the second of which lies behind the first. -/
def upTo (x y : Place) : List Char := x.rest.take (x.rest.length - y.rest.length)

variable {x y z : Place} {u v : List Char}

theorem leads_nil_iff : x.Leads [] y ↔ y = x := by
  obtain ⟨read, rest⟩ := x
  obtain ⟨read', rest'⟩ := y
  simp [Leads, and_comm, eq_comm]

theorem Leads.trans (h : x.Leads u y) (h' : y.Leads v z) : x.Leads (u ++ v) z := by
  refine ⟨?_, ?_⟩
  · rw [h.1, h'.1, List.append_assoc]
  · rw [h'.2, h.2, List.reverse_append, List.append_assoc]

theorem Leads.upTo_eq (h : x.Leads u y) : x.upTo y = u := by
  rw [upTo, h.1, List.length_append, Nat.add_sub_cancel_right, List.take_left']
  rfl

/-- Behind the first part of a text there is a place. -/
theorem leads_append (read u rest : List Char) :
    Leads ⟨read, u ++ rest⟩ u ⟨u.reverse ++ read, rest⟩ := ⟨rfl, rfl⟩

/-- The place behind a text that the rest starts with. -/
def past (x : Place) (found : List Char) : Place :=
  ⟨found.reverse ++ x.read, x.rest.drop found.length⟩

/-- The place behind a text is reached by its first part and then by its second. -/
theorem past_comp_append (read u rest : List Char) :
    past ⟨read, u ++ rest⟩ ∘ (u ++ ·) = past ⟨u.reverse ++ read, rest⟩ := by
  funext found
  simp [past, ← List.drop_drop]

theorem past_comp_cons (read : List Char) (c : Char) (rest : List Char) :
    past ⟨read, c :: rest⟩ ∘ (c :: ·) = past ⟨c :: read, rest⟩ :=
  past_comp_append read [c] rest

theorem upTo_past (h : u <+: x.rest) : x.upTo (x.past u) = u := by
  obtain ⟨rest, hrest⟩ := h
  refine Leads.upTo_eq ⟨?_, rfl⟩
  rw [past, ← hrest, List.drop_left]

end Place

namespace Regex

/-! ## The places where matches end -/

/-- The places where one or more texts of a body end, preferred ones first. A text of nothing is
not tried twice. -/
def repeated (body : Place → List Place) (x : Place) : List Place :=
  (body x).flatMap fun y =>
    if y.rest.length < x.rest.length then repeated body y ++ [y] else [y]
termination_by x.rest.length

/-- The places where the matches that start at a place end, preferred ones first. -/
def reach : Pattern → Place → List Place
  | empty, x => [x]
  | one k, x =>
    match x.rest with
    | [] => []
    | c :: rest => if k.contains c then [⟨c :: x.read, rest⟩] else []
  | anchor a, x => if a.holds (gapAt x.read x.rest) then [x] else []
  | seq p q, x => (reach p x).flatMap (reach q)
  | alt p q, x => reach p x ++ reach q x
  | plus p, x => repeated (reach p) x

/-- A function on places lists the ends of the matches of an expression. -/
def ListsEnds (r : Pattern) (ends : Place → List Place) : Prop :=
  ∀ x y, y ∈ ends x ↔ ∃ found, x.Leads found y ∧ Matches r x.read.reverse found y.rest

theorem mem_repeated {body : Place → List Place} {x y : Place} :
    y ∈ repeated body x ↔
      ∃ z ∈ body x, y = z ∨ z.rest.length < x.rest.length ∧ y ∈ repeated body z := by
  rw [repeated, List.mem_flatMap]
  refine exists_congr fun z => and_congr_right fun _ => ?_
  split
  next h => rw [List.mem_append, List.mem_singleton, or_comm, and_iff_right h]
  next h => simp [h]

/-- Whatever is found by repeating is matched by the repetition. -/
theorem matches_of_mem_repeated {p : Pattern} {body : Place → List Place} (hp : ListsEnds p body)
    (x y : Place) (h : y ∈ repeated body x) :
    ∃ found, x.Leads found y ∧ Matches (.plus p) x.read.reverse found y.rest := by
  obtain ⟨z, hz, rfl | ⟨hlt, hy⟩⟩ := mem_repeated.1 h
  · obtain ⟨u, hu, hmatch⟩ := (hp x y).1 hz
    exact ⟨u, hu, .plusOne hmatch⟩
  · obtain ⟨u, hu, hmatch⟩ := (hp x z).1 hz
    obtain ⟨v, hv, hmore⟩ := matches_of_mem_repeated hp z y hy
    refine ⟨u ++ v, hu.trans hv, .plusCons (hv.1 ▸ hmatch) ?_⟩
    rwa [hu.2, List.reverse_append, List.reverse_reverse] at hmore
termination_by x.rest.length

/-- Repeating finds whatever the repetition matches. -/
theorem mem_repeated_of_matches {p : Pattern} {body : Place → List Place} (hp : ListsEnds p body)
    {before found after : List Char} (h : Matches (.plus p) before found after) :
    ⟨found.reverse ++ before.reverse, after⟩ ∈ repeated body ⟨before.reverse, found ++ after⟩ := by
  generalize hr : Regex.plus p = r at h
  induction h with
  | @plusOne _ before u after hu =>
    cases hr
    exact mem_repeated.2 ⟨_, (hp _ _).2 ⟨u, Place.leads_append _ _ _, by simpa using hu⟩, .inl rfl⟩
  | @plusCons _ before u v after hu _ _ ih =>
    cases hr
    have hmore := ih rfl
    rw [List.reverse_append] at hmore
    by_cases hne : u = []
    · subst hne
      simpa using hmore
    · refine mem_repeated.2 ⟨⟨u.reverse ++ before.reverse, v ++ after⟩,
        (hp _ _).2 ⟨u, ?_, by simpa using hu⟩, .inr ⟨?_, ?_⟩⟩
      · rw [List.append_assoc]
        exact Place.leads_append _ _ _
      · have := List.length_pos_iff.2 hne
        simp only [List.length_append]
        omega
      · simpa using hmore
  | _ => cases hr

theorem listsEnds_plus {p : Pattern} {body : Place → List Place} (hp : ListsEnds p body) :
    ListsEnds (.plus p) (repeated body) := by
  intro x y
  constructor
  · exact matches_of_mem_repeated hp x y
  · rintro ⟨found, hlead, h⟩
    have hmem := mem_repeated_of_matches hp h
    rwa [List.reverse_reverse, ← hlead.1, ← hlead.2] at hmem

/-- `reach` lists the ends of all matches. -/
theorem listsEnds_reach (r : Pattern) : ListsEnds r r.reach := by
  induction r with
  | empty =>
    intro x y
    simp only [reach, List.mem_singleton, Matches.empty_iff]
    constructor
    · rintro rfl
      exact ⟨[], Place.leads_nil_iff.2 rfl, rfl⟩
    · rintro ⟨_, hlead, rfl⟩
      exact Place.leads_nil_iff.1 hlead
  | one k =>
    rintro ⟨read, rest⟩ ⟨read', rest'⟩
    simp only [Matches.one_iff, Place.Leads]
    constructor
    · intro h
      cases rest with
      | nil => simp [reach] at h
      | cons c rest =>
        have hk : k.contains c = true := by
          by_contra hk
          simp [reach, hk] at h
        obtain ⟨rfl, rfl⟩ : read' = c :: read ∧ rest' = rest := by simpa [reach, hk] using h
        exact ⟨[c], ⟨rfl, rfl⟩, c, rfl, hk⟩
    · rintro ⟨_, ⟨rfl, rfl⟩, c, rfl, hk⟩
      simp [reach, hk]
  | anchor a =>
    intro x y
    simp only [reach, Matches.anchor_iff, List.getLast?_reverse]
    constructor
    · intro h
      split at h
      next ha =>
        rw [List.mem_singleton.1 h]
        exact ⟨[], Place.leads_nil_iff.2 rfl, rfl, ha⟩
      next => simp at h
    · rintro ⟨_, hlead, rfl, ha⟩
      rw [Place.leads_nil_iff.1 hlead] at ha ⊢
      simp [gapAt, ha]
  | seq p q hp hq =>
    intro x y
    simp only [reach, List.mem_flatMap]
    constructor
    · rintro ⟨z, hz, hy⟩
      obtain ⟨u, hu, hmatch⟩ := (hp x z).1 hz
      obtain ⟨v, hv, hmore⟩ := (hq z y).1 hy
      refine ⟨u ++ v, hu.trans hv, .seq (hv.1 ▸ hmatch) ?_⟩
      rwa [hu.2, List.reverse_append, List.reverse_reverse] at hmore
    · rintro ⟨_, hlead, h⟩
      obtain ⟨u, v, rfl, hmatch, hmore⟩ := Matches.seq_iff.1 h
      refine ⟨⟨u.reverse ++ x.read, v ++ y.rest⟩, (hp _ _).2 ⟨u, ⟨?_, rfl⟩, hmatch⟩,
        (hq _ _).2 ⟨v, ⟨rfl, ?_⟩, by simpa using hmore⟩⟩
      · rw [hlead.1, List.append_assoc]
      · rw [hlead.2, List.reverse_append, List.append_assoc]
  | alt p q hp hq =>
    intro x y
    simp only [reach, List.mem_append, hp x y, hq x y, Matches.alt_iff, and_or_left, exists_or]
  | plus p hp => exact listsEnds_plus hp

/-! ## The first place that will do -/

theorem findSome?_flatMap {α β γ : Type} (f : β → Option γ) (g : α → List β) :
    ∀ l : List α, (l.flatMap g).findSome? f = l.findSome? fun x => (g x).findSome? f
  | [] => rfl
  | x :: l => by
    rw [List.flatMap_cons, List.findSome?_append, findSome?_flatMap f g l, List.findSome?_cons]
    cases (g x).findSome? f <;> rfl

theorem head?_reach_seq (p q : Pattern) (x : Place) :
    ((seq p q).reach x).head? = (p.reach x).findSome? fun y => (q.reach y).head? := by
  rw [reach, List.head?_flatMap]

variable {β : Type} {f : Place → Option β}

theorem findSome?_reach_seq (p q : Pattern) (x : Place) :
    ((seq p q).reach x).findSome? f = (p.reach x).findSome? fun y => (q.reach y).findSome? f := by
  rw [reach, findSome?_flatMap]

/-- What may be left out is left out if it is of no use. -/
theorem findSome?_reach_opt (p : Pattern) (x : Place) :
    (p.opt.reach x).findSome? f = ((p.reach x).findSome? f).or (f x) := by
  rw [opt, reach, reach, List.findSome?_append, List.findSome?_singleton]

/-! ## Repeating a class of characters -/

variable {k : CharClass}

theorem reach_plus_one_of_not (read : List Char) {rest : List Char}
    (h : ∀ c ∈ rest.head?, k.contains c = false) :
    (plus (.one k) : Pattern).reach ⟨read, rest⟩ = [] := by
  rw [reach, repeated, reach]
  cases rest with
  | nil => rfl
  | cons c rest => simp [h c rfl]

theorem reach_plus_one_cons (read : List Char) {c : Char} (rest : List Char)
    (h : k.contains c = true) :
    (plus (.one k) : Pattern).reach ⟨read, c :: rest⟩ =
      (plus (.one k) : Pattern).reach ⟨c :: read, rest⟩ ++ [⟨c :: read, rest⟩] := by
  rw [reach, repeated]
  simp [reach, h]

theorem reach_star (p : Pattern) (x : Place) : p.star.reach x = (plus p).reach x ++ [x] :=
  rfl

theorem reach_star_one_of_not (read : List Char) {rest : List Char}
    (h : ∀ c ∈ rest.head?, k.contains c = false) :
    (star (.one k) : Pattern).reach ⟨read, rest⟩ = [⟨read, rest⟩] := by
  rw [reach_star, reach_plus_one_of_not read h, List.nil_append]

theorem reach_star_one_cons (read : List Char) {c : Char} (rest : List Char)
    (h : k.contains c = true) :
    (star (.one k) : Pattern).reach ⟨read, c :: rest⟩ =
      (star (.one k) : Pattern).reach ⟨c :: read, rest⟩ ++ [⟨read, c :: rest⟩] := by
  rw [reach_star, reach_plus_one_cons read rest h, reach_star]

/-- A run of characters of a class is read to its end, if it is of no use to stop before. -/
theorem findSome?_reach_plus_one (read : List Char) {run rest : List Char}
    (hrun : Spans k.contains run rest) (hne : run ≠ [])
    (hf : ∀ u v, run = u ++ v → u ≠ [] → v ≠ [] → f ⟨u.reverse ++ read, v ++ rest⟩ = none) :
    ((plus (.one k) : Pattern).reach ⟨read, run ++ rest⟩).findSome? f =
      f ⟨run.reverse ++ read, rest⟩ := by
  induction run generalizing read with
  | nil => exact absurd rfl hne
  | cons c run ih =>
    obtain ⟨hc, hall⟩ := List.forall_mem_cons.1 hrun.1
    rw [List.cons_append, reach_plus_one_cons _ _ hc, List.findSome?_append,
      List.findSome?_singleton]
    by_cases hnil : run = []
    · subst hnil
      rw [List.nil_append, reach_plus_one_of_not _ hrun.2]
      rfl
    · have hshort := hf [c] run rfl (by simp) hnil
      rw [List.reverse_singleton, List.singleton_append] at hshort
      rw [ih (c :: read) ⟨hall, hrun.2⟩ hnil fun u v huv _ hv => ?_, hshort, Option.or_none]
      · simp
      · simpa using hf (c :: u) v (by rw [huv]; rfl) (by simp) hv

end Regex

/-! ## All matches -/

/-- An expression of three parts, the second of which is to be found. -/
structure Grouped where
  lead : Pattern
  group : Pattern
  tail : Pattern

namespace Grouped

/-- The expression as a whole. -/
def whole (g : Grouped) : Pattern := .seq g.lead (.seq g.group g.tail)

/-- The preferred match at a place: where the second part starts and ends, and where the match
ends. -/
def first? (g : Grouped) (x : Place) : Option (Place × Place × Place) :=
  (g.lead.reach x).findSome? fun a => (g.group.reach a).findSome? fun b =>
    (g.tail.reach b).head?.map fun c => (a, b, c)

/-- The preferred match of the whole expression is the preferred match of its parts. -/
theorem head?_reach (g : Grouped) (x : Place) :
    (g.whole.reach x).head? = (g.first? x).map fun m => m.2.2 := by
  simp only [whole, Regex.reach, List.head?_flatMap, first?, List.map_findSome?]
  simp [Function.comp_def]

/-- There is a preferred match wherever a text of the expression starts. -/
theorem first?_eq_none_iff {g : Grouped} {x : Place} : g.first? x = none ↔
    ∀ found after, x.rest = found ++ after → ¬ Matches g.whole x.read.reverse found after := by
  have hnone : g.first? x = none ↔ (g.whole.reach x).head? = none := by
    rw [head?_reach, Option.map_eq_none_iff]
  rw [hnone, List.head?_eq_none_iff, List.eq_nil_iff_forall_not_mem]
  have hends := Regex.listsEnds_reach g.whole x
  constructor
  · intro h found after hrest hmatch
    exact h ⟨found.reverse ++ x.read, after⟩ ((hends _).2 ⟨found, ⟨hrest, rfl⟩, hmatch⟩)
  · intro h y hy
    obtain ⟨found, hlead, hmatch⟩ := (hends y).1 hy
    exact h found y.rest hlead.1 hmatch

/-- The expression occurs where there is a preferred match. -/
theorem occurs_whole_iff {g : Grouped} {text : List Char} :
    Occurs g.whole text ↔ ∃ u v, text = u ++ v ∧ g.first? ⟨u.reverse, v⟩ ≠ none := by
  constructor
  · rintro ⟨before, found, after, rfl, h⟩
    refine ⟨before, found ++ after, by simp, fun hnone => ?_⟩
    exact first?_eq_none_iff.1 hnone found after rfl (by simpa using h)
  · rintro ⟨u, v, rfl, h⟩
    by_contra hnot
    refine h (first?_eq_none_iff.2 fun found after hv hmatch => hnot ?_)
    exact ⟨u, found, after, by rw [List.append_assoc, ← hv], by simpa using hmatch⟩

/-- What a search for all matches finds from a place on, for an expression that does not match the
empty text: each time the text in front of the second part and the text of this part. -/
def captures (g : Grouped) (read rest : List Char) : List (List Char × List Char) :=
  match g.first? ⟨read, rest⟩ with
  | some (a, b, c) =>
    if c.rest.length < rest.length then (a.read.reverse, a.upTo b) :: g.captures c.read c.rest
    else []
  | none =>
    match rest with
    | [] => []
    | c :: rest => g.captures (c :: read) rest
termination_by rest.length

theorem captures_of_eq_some {g : Grouped} {read rest : List Char} {a b c : Place}
    (h : g.first? ⟨read, rest⟩ = some (a, b, c)) (hlt : c.rest.length < rest.length) :
    g.captures read rest = (a.read.reverse, a.upTo b) :: g.captures c.read c.rest := by
  rw [captures.eq_def, h]
  exact if_pos hlt

theorem captures_nil_of_eq_none {g : Grouped} {read : List Char}
    (h : g.first? ⟨read, []⟩ = none) : g.captures read [] = [] := by
  rw [captures.eq_def, h]

theorem captures_cons_of_eq_none {g : Grouped} {read rest : List Char} {c : Char}
    (h : g.first? ⟨read, c :: rest⟩ = none) :
    g.captures read (c :: rest) = g.captures (c :: read) rest := by
  rw [captures.eq_def, h]

end Grouped

end HouseStyle.Pattern
