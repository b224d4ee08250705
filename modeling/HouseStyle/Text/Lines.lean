/-!
# Lines of a text

A text is cut at every newline and at nothing else, so that carriage returns and trailing blanks
stay in the line and a final newline opens a last, empty line. `join_split` and `split_join` say
that cutting and joining undo each other, and `length_split` counts the pieces.
-/

namespace HouseStyle.Text

/-- Puts a character in front of the first piece. -/
def consPiece (c : Char) : List (List Char) → List (List Char)
  | [] => [[c]]
  | piece :: pieces => (c :: piece) :: pieces

/-- Cuts a text at every separator. -/
def split (sep : Char) (text : List Char) : List (List Char) :=
  text.foldr (fun c pieces => if c = sep then [] :: pieces else consPiece c pieces) [[]]

/-- The pieces one after the other, with a separator between them. -/
def join (sep : Char) (pieces : List (List Char)) : List Char := [sep].intercalate pieces

/-- The words of a text, separated by spaces or newlines. -/
def words (text : List Char) : List (List Char) :=
  ((split '\n' text).flatMap (split ' ')).filter (· ≠ [])

/-- The lines of a text. -/
def splitLines (content : String) : List String :=
  (split '\n' content.toList).map String.ofList

/-- The text whose lines are the given ones. -/
def joinLines (lines : List String) : String :=
  String.ofList (join '\n' (lines.map String.toList))

/-! ## Cutting piece by piece -/

@[simp] theorem split_nil (sep : Char) : split sep [] = [[]] := rfl

@[simp] theorem split_cons_self (sep : Char) (text : List Char) :
    split sep (sep :: text) = [] :: split sep text := by
  simp [split]

theorem split_cons_of_ne {sep c : Char} (h : c ≠ sep) (text : List Char) :
    split sep (c :: text) = consPiece c (split sep text) := by
  simp [split, h]

theorem consPiece_ne_nil (c : Char) : ∀ pieces, consPiece c pieces ≠ []
  | [] => by simp [consPiece]
  | _ :: _ => by simp [consPiece]

/-- There is always at least one piece. -/
theorem split_ne_nil (sep : Char) (text : List Char) : split sep text ≠ [] := by
  cases text with
  | nil => simp
  | cons c text =>
    by_cases h : c = sep
    · subst h; simp
    · rw [split_cons_of_ne h]; exact consPiece_ne_nil c _

/-! ## Cutting and joining -/

theorem join_cons_cons (sep : Char) (p q : List Char) (ps : List (List Char)) :
    join sep (p :: q :: ps) = p ++ sep :: join sep (q :: ps) := by
  simp [join, List.intercalate]

@[simp] theorem join_singleton (sep : Char) (p : List Char) : join sep [p] = p := by
  simp [join, List.intercalate]

/-- Between pieces there are separators. -/
theorem length_le_length_join (sep : Char) : ∀ pieces : List (List Char),
    pieces.length ≤ (join sep pieces).length + 1
  | [] => Nat.zero_le _
  | [p] => by simp
  | p :: q :: pieces => by
    have ih := length_le_length_join sep (q :: pieces)
    rw [join_cons_cons]
    simp only [List.length_append, List.length_cons] at ih ⊢
    omega

theorem join_nil_cons {sep : Char} {pieces : List (List Char)} (h : pieces ≠ []) :
    join sep ([] :: pieces) = sep :: join sep pieces := by
  cases pieces with
  | nil => exact absurd rfl h
  | cons p ps => simp [join_cons_cons]

theorem join_consPiece (sep c : Char) (pieces : List (List Char)) :
    join sep (consPiece c pieces) = c :: join sep pieces := by
  match pieces with
  | [] => simp [consPiece, join, List.intercalate]
  | [p] => simp [consPiece]
  | p :: q :: ps => simp [consPiece, join_cons_cons]

/-- Joining the pieces gives the text back. -/
theorem join_split (sep : Char) (text : List Char) : join sep (split sep text) = text := by
  induction text with
  | nil => simp
  | cons c text ih =>
    by_cases h : c = sep
    · subst h; rw [split_cons_self, join_nil_cons (split_ne_nil _ _), ih]
    · rw [split_cons_of_ne h, join_consPiece, ih]

/-- No piece holds the separator. -/
theorem not_mem_of_mem_split {sep : Char} {text piece : List Char} (h : piece ∈ split sep text) :
    sep ∉ piece := by
  induction text generalizing piece with
  | nil => simp_all
  | cons c text ih =>
    by_cases hc : c = sep
    · subst hc
      rcases List.mem_cons.1 (split_cons_self c text ▸ h) with rfl | h
      · simp
      · exact ih h
    · obtain ⟨p, ps, hp⟩ := List.exists_cons_of_ne_nil (split_ne_nil sep text)
      rw [split_cons_of_ne hc, hp, consPiece] at h
      rcases List.mem_cons.1 h with rfl | h
      · simpa [Ne.symm hc] using ih (hp ▸ List.mem_cons_self)
      · exact ih (hp ▸ List.mem_cons_of_mem _ h)

/-- There is one piece more than there are separators. -/
theorem length_split (sep : Char) (text : List Char) :
    (split sep text).length = text.count sep + 1 := by
  induction text with
  | nil => rfl
  | cons c text ih =>
    by_cases h : c = sep
    · subst h; simp [ih]
    · obtain ⟨p, ps, hp⟩ := List.exists_cons_of_ne_nil (split_ne_nil sep text)
      rw [split_cons_of_ne h, hp, consPiece, List.count_cons_of_ne h, ← ih, hp]; rfl

/-- A text without separators is one piece. -/
theorem split_eq_singleton {sep : Char} {piece : List Char} (h : sep ∉ piece) :
    split sep piece = [piece] := by
  induction piece with
  | nil => rfl
  | cons c piece ih =>
    simp only [List.mem_cons, not_or] at h
    rw [split_cons_of_ne (Ne.symm h.1), ih h.2]; rfl

theorem split_append_cons {sep : Char} {piece : List Char} (h : sep ∉ piece) (text : List Char) :
    split sep (piece ++ sep :: text) = piece :: split sep text := by
  induction piece with
  | nil => simp
  | cons c piece ih =>
    simp only [List.mem_cons, not_or] at h
    rw [List.cons_append, split_cons_of_ne (Ne.symm h.1), ih h.2]; rfl

/-- Cutting gives joined pieces back, if there are any and none holds the separator. -/
theorem split_join {sep : Char} {pieces : List (List Char)} (hne : pieces ≠ [])
    (h : ∀ p ∈ pieces, sep ∉ p) : split sep (join sep pieces) = pieces := by
  match pieces with
  | [] => exact absurd rfl hne
  | [p] => rw [join_singleton, split_eq_singleton (h p List.mem_cons_self)]
  | p :: q :: ps =>
    rw [join_cons_cons, split_append_cons (h p List.mem_cons_self),
      split_join (List.cons_ne_nil q ps) fun r hr => h r (List.mem_cons_of_mem _ hr)]

end HouseStyle.Text
