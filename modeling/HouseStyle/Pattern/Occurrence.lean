import HouseStyle.Pattern.Search

/-!
# What a search finds

`Regex.search` reads a text once and keeps a mark at every leaf; `Occurs` says that some part of
the text is matched. The main statement, `Regex.search_eq_true_iff`, says that the search finds a
pattern exactly if it occurs.

A place in the text is given by the text read so far, last character first, and the rest. `marks`
are the marks at a place if an expression can be entered wherever `e` says so, and `EndsAt` says
that a text of the expression ends at a place, which starts where it can be entered. `tracked` says
that the marks know these places: each node hands on to its parts where they can be entered, a
sequence where its first part can be left (`marks_seq`), and a repetition where it can itself be
entered or left (`marks_plus`).
-/

namespace HouseStyle.Pattern

/-- Where something can be entered: the text read so far, last character first, and the rest. -/
abbrev Entry := List Char → List Char → Bool

namespace Regex

/-- The place between a text that has been read, last character first, and the rest. -/
def gapAt (read rest : List Char) : Gap := ⟨read.head?, rest.head?⟩

/-- The marks of `r` after `read`, last character first, if `e` tells where `r` can be entered. -/
def marks (r : Pattern) (e : Entry) : List Char → List Char → Marked
  | [], _ => r.unmarked
  | c :: read, rest =>
    (marks r e read (c :: rest)).step (gapAt read (c :: rest)) c (e read (c :: rest))

/-- Whether `r` can be left at a place, if `e` tells where it can be entered. -/
def exits (r : Pattern) (e : Entry) : Entry := fun read rest =>
  (marks r e read rest).leave (gapAt read rest) (e read rest)

/-! ## The marks of the parts -/

theorem marks_empty (e : Entry) (read rest : List Char) : marks .empty e read rest = .empty := by
  induction read generalizing rest with
  | nil => rfl
  | cons c read ih => rw [marks, ih]; rfl

theorem marks_anchor (a : Anchor) (e : Entry) (read rest : List Char) :
    marks (.anchor a) e read rest = .anchor a := by
  induction read generalizing rest with
  | nil => rfl
  | cons c read ih => rw [marks, ih]; rfl

theorem marks_one_nil (k : CharClass) (e : Entry) (rest : List Char) :
    marks (.one k) e [] rest = .one (false, k) := rfl

theorem marks_one_cons (k : CharClass) (e : Entry) (c : Char) (read rest : List Char) :
    marks (.one k) e (c :: read) rest = .one (e read (c :: rest) && k.contains c, k) := by
  induction read generalizing c rest with
  | nil => rfl
  | cons d read ih => rw [marks, ih]; rfl

theorem marks_seq (p q : Pattern) (e : Entry) (read rest : List Char) :
    marks (.seq p q) e read rest = .seq (marks p e read rest) (marks q (exits p e) read rest) := by
  induction read generalizing rest with
  | nil => rfl
  | cons c read ih => rw [marks, ih]; rfl

theorem marks_alt (p q : Pattern) (e : Entry) (read rest : List Char) :
    marks (.alt p q) e read rest = .alt (marks p e read rest) (marks q e read rest) := by
  induction read generalizing rest with
  | nil => rfl
  | cons c read ih => rw [marks, ih]; rfl

/-- Where the body of a repetition can be entered: where the repetition can be, or where it can be
left. -/
def reentry (p : Pattern) (e : Entry) : Entry := fun read rest =>
  e read rest || exits (.plus p) e read rest

theorem marks_plus (p : Pattern) (e : Entry) (read rest : List Char) :
    marks (.plus p) e read rest = .plus (marks p (reentry p e) read rest) := by
  induction read generalizing rest with
  | nil => rfl
  | cons c read ih =>
    rw [marks, ih, step, marks]
    congr 2
    rw [reentry, exits, ih]; rfl

/-! ## The marks know where a text ends -/

/-- A text of `r` with at least one character ends here, and starts where `r` can be entered. -/
def EndsAt (r : Pattern) (e : Entry) (read rest : List Char) : Prop :=
  ∃ start found, found ≠ [] ∧ read = found.reverse ++ start ∧ e start (found ++ rest) = true ∧
    Matches r start.reverse found rest

/-- The marks tell where `r` can be left: with no character read since it was entered, or behind a
text of `r`. -/
def Tracked (r : Pattern) : Prop :=
  ∀ (e : Entry) (read rest : List Char) (m : Bool),
    (marks r e read rest).leave (gapAt read rest) m = true ↔
      (m = true ∧ Matches r read.reverse [] rest) ∨ EndsAt r e read rest

theorem Tracked.exits_iff {r : Pattern} (h : Tracked r) (e : Entry) (read rest : List Char) :
    exits r e read rest = true ↔
      (e read rest = true ∧ Matches r read.reverse [] rest) ∨ EndsAt r e read rest :=
  h e read rest _

theorem tracked_empty : Tracked .empty := by
  intro e read rest m
  rw [marks_empty]
  simp only [leave, Matches.empty_iff, EndsAt]
  grind

theorem tracked_anchor (a : Anchor) : Tracked (.anchor a) := by
  intro e read rest m
  rw [marks_anchor]
  simp only [leave, Matches.anchor_iff, EndsAt, gapAt, List.getLast?_reverse, Bool.and_eq_true]
  grind

theorem tracked_one (k : CharClass) : Tracked (.one k) := by
  intro e read rest m
  cases read with
  | nil =>
    simp only [marks_one_nil, leave, Matches.one_iff, EndsAt]
    grind
  | cons c read =>
    rw [marks_one_cons]
    simp only [leave, Bool.and_eq_true, Matches.one_iff, EndsAt]
    constructor
    · rintro ⟨he, hk⟩
      exact .inr ⟨read, [c], by simp, by simp, he, c, rfl, hk⟩
    · rintro (⟨-, d, h, -⟩ | ⟨start, found, -, h, he, d, rfl, hk⟩)
      · simp at h
      · simp only [List.reverse_singleton, List.singleton_append, List.cons.injEq] at h
        obtain ⟨rfl, rfl⟩ := h
        exact ⟨he, hk⟩

theorem tracked_alt {p q : Pattern} (hp : Tracked p) (hq : Tracked q) : Tracked (.alt p q) := by
  intro e read rest m
  rw [marks_alt]
  simp only [leave, Bool.or_eq_true, hp e read rest m, hq e read rest m, Matches.alt_iff, EndsAt]
  grind

theorem tracked_seq {p q : Pattern} (hp : Tracked p) (hq : Tracked q) : Tracked (.seq p q) := by
  intro e read rest m
  rw [marks_seq, leave, hq (exits p e) read rest, hp e read rest m]
  constructor
  · rintro (⟨⟨hm, hp⟩ | ⟨start, u, hu, rfl, he, hp⟩, hq⟩ | ⟨start, v, hv, rfl, he, hq⟩)
    · exact .inl ⟨hm, Matches.seq_iff.2 ⟨[], [], rfl, hp, by simpa using hq⟩⟩
    · refine .inr ⟨start, u, hu, rfl, he, Matches.seq_iff.2 ⟨u, [], by simp, hp, ?_⟩⟩
      simpa using hq
    · rcases (hp.exits_iff e start _).1 he with ⟨he, hp⟩ | ⟨start, u, hu, rfl, he, hp⟩
      · refine .inr ⟨start, v, hv, rfl, he, Matches.seq_iff.2 ⟨[], v, rfl, hp, by simpa using hq⟩⟩
      · refine .inr ⟨start, u ++ v, by simp [hu], by simp, by simpa using he, ?_⟩
        exact Matches.seq_iff.2 ⟨u, v, rfl, hp, by simpa using hq⟩
  · rintro (⟨hm, h⟩ | ⟨start, found, hne, rfl, he, h⟩)
    · obtain ⟨u, v, huv, h1, h2⟩ := Matches.seq_iff.1 h
      obtain ⟨rfl, rfl⟩ := List.append_eq_nil_iff.1 huv.symm
      exact .inl ⟨.inl ⟨hm, h1⟩, by simpa using h2⟩
    · obtain ⟨u, v, rfl, h1, h2⟩ := Matches.seq_iff.1 h
      by_cases hv : v = []
      · subst hv
        refine .inl ⟨.inr ⟨start, u, by simpa using hne, by simp, by simpa using he, ?_⟩, ?_⟩
        · simpa using h1
        · simpa using h2
      · refine .inr ⟨u.reverse ++ start, v, hv, by simp, ?_, by simpa using h2⟩
        rw [hp.exits_iff]
        by_cases hu : u = []
        · subst hu
          exact .inl ⟨by simpa using he, by simpa using h1⟩
        · exact .inr ⟨start, u, hu, rfl, by simpa using he, by simpa using h1⟩

/-- A repetition can be left where its body can. -/
theorem leave_plus_iff {p : Pattern} (hp : Tracked p) (e : Entry) (read rest : List Char)
    (m : Bool) :
    (marks (.plus p) e read rest).leave (gapAt read rest) m = true ↔
      (m = true ∧ Matches p read.reverse [] rest) ∨ EndsAt p (reentry p e) read rest := by
  rw [marks_plus, leave, hp (reentry p e) read rest m]

/-- The texts of a repetition end where its body ends, entered where the repetition can be entered
or left. -/
theorem endsAt_plus_iff {p : Pattern} (hp : Tracked p) (e : Entry) (read rest : List Char) :
    EndsAt p (reentry p e) read rest ↔ EndsAt (.plus p) e read rest := by
  have hexits (start rest' : List Char) := leave_plus_iff hp e start rest' (e start rest')
  constructor
  · rintro ⟨start, v, hv, rfl, he, h⟩
    have hone : Matches (.plus p) start.reverse v rest := .plusOne h
    rcases Bool.or_eq_true_iff.1 he with he | he
    · exact ⟨start, v, hv, rfl, he, hone⟩
    rcases (hexits _ _).1 he with ⟨he, -⟩ | he
    · exact ⟨start, v, hv, rfl, he, hone⟩
    · have : start.length < (v.reverse ++ start).length := by
        simp [List.length_pos_iff.2 hv]
      obtain ⟨start, u, hu, rfl, he, hs⟩ := (endsAt_plus_iff hp e start (v ++ rest)).1 he
      exact ⟨start, u ++ v, by simp [hu], by simp, by simpa using he,
        Matches.plus_snoc hs (by simpa using h)⟩
  · rintro ⟨start, found, hne, rfl, he, h⟩
    obtain ⟨u, v, hv, rfl, hs, h⟩ := Matches.exists_last_of_plus h hne
    refine ⟨u.reverse ++ start, v, hv, by simp, ?_, by simpa using h⟩
    rw [reentry, Bool.or_eq_true]
    by_cases hu : u = []
    · subst hu
      exact .inl (by simpa using he)
    · have hs := hs.resolve_left hu
      have : (u.reverse ++ start).length < ((u ++ v).reverse ++ start).length := by
        simp [List.length_pos_iff.2 hv]
      refine .inr ((hexits _ _).2 (.inr ((endsAt_plus_iff hp e _ _).2 ?_)))
      exact ⟨start, u, hu, rfl, by simpa using he, hs⟩
termination_by read.length
decreasing_by all_goals (subst_vars; assumption)

theorem tracked_plus {p : Pattern} (hp : Tracked p) : Tracked (.plus p) := by
  intro e read rest m
  rw [leave_plus_iff hp, endsAt_plus_iff hp, Matches.plus_nil_iff]

/-- The marks of every expression tell where it can be left. -/
theorem tracked (r : Pattern) : Tracked r := by
  induction r with
  | empty => exact tracked_empty
  | one k => exact tracked_one k
  | anchor a => exact tracked_anchor a
  | seq p q hp hq => exact tracked_seq hp hq
  | alt p q hp hq => exact tracked_alt hp hq
  | plus p hp => exact tracked_plus hp

/-! ## The search -/

/-- The search goes on until the expression can be left. -/
theorem searchFrom_iff (r : Pattern) (read rest : List Char) :
    searchFrom (marks r (fun _ _ => true) read rest) read.head? rest = true ↔
      ∃ found after, rest = found ++ after ∧
        exits r (fun _ _ => true) (found.reverse ++ read) after = true := by
  induction rest generalizing read with
  | nil =>
    constructor
    · intro h
      exact ⟨[], [], rfl, h⟩
    · rintro ⟨found, after, h, hx⟩
      obtain ⟨rfl, rfl⟩ := List.append_eq_nil_iff.1 h.symm
      exact hx
  | cons c rest ih =>
    rw [searchFrom, Bool.or_eq_true]
    have := ih (c :: read)
    rw [marks] at this
    simp only [gapAt, List.head?_cons] at this
    rw [this]
    constructor
    · rintro (h | ⟨found, after, rfl, h⟩)
      · exact ⟨[], c :: rest, rfl, h⟩
      · exact ⟨c :: found, after, rfl, by simpa using h⟩
    · rintro ⟨found, after, h, hx⟩
      cases found with
      | nil =>
        subst h
        exact .inl hx
      | cons d found =>
        obtain ⟨rfl, rfl⟩ := List.cons.inj h
        exact .inr ⟨found, after, rfl, by simpa using hx⟩

/-- The search finds exactly what occurs. -/
theorem search_eq_true_iff {r : Pattern} {text : List Char} :
    r.search text = true ↔ Occurs r text := by
  refine (searchFrom_iff r [] text).trans ⟨?_, ?_⟩
  · rintro ⟨found, after, rfl, hx⟩
    rcases ((tracked r).exits_iff _ _ _).1 hx with ⟨-, h⟩ | ⟨start, v, -, hs, -, h⟩
    · exact ⟨found, [], after, by simp, by simpa using h⟩
    · refine ⟨start.reverse, v, after, ?_, h⟩
      have := congrArg List.reverse hs
      simp only [List.append_nil, List.reverse_reverse, List.reverse_append] at this
      rw [this]
  · rintro ⟨before, found, after, rfl, h⟩
    refine ⟨before ++ found, after, rfl, ((tracked r).exits_iff _ _ _).2 ?_⟩
    by_cases hf : found = []
    · subst hf
      exact .inl ⟨rfl, by simpa using h⟩
    · exact .inr ⟨before.reverse, found, hf, by simp, rfl, by simpa using h⟩

end Regex

end HouseStyle.Pattern
