import HouseStyle.Text.Blank

/-!
# Where a method opens

A method opens at a closing parenthesis that is followed by an opening brace, with at most one
blank between. `Opening.find?` cuts a line just behind the brace of the first such place.
-/

namespace HouseStyle

open Text

/-- A line that opens a method, cut behind the opening brace. -/
structure Opening where
  /-- The text up to the opening brace, which is its last character. -/
  head : List Char
  /-- The text behind the opening brace. -/
  body : List Char
  deriving DecidableEq, Repr

/-- The length of a text in UTF-8. -/
def utf8Length (text : List Char) : Nat := text.foldr (fun c n => c.utf8Size + n) 0

namespace Opening

/-- The opening brace at the start of a text, perhaps after one blank. -/
def brace? : List Char → Option Opening
  | [] => none
  | '{' :: body => some ⟨['{'], body⟩
  | c :: rest =>
    match rest with
    | '{' :: body => if isBlank c then some ⟨[c, '{'], body⟩ else none
    | _ => none

/-- The first opening of a method on a line. -/
def find? : List Char → Option Opening
  | [] => none
  | c :: rest =>
    match if c = ')' then brace? rest else none with
    | some o => some ⟨c :: o.head, o.body⟩
    | none => (find? rest).map fun o => ⟨c :: o.head, o.body⟩

/-- The byte offset just behind the opening brace. -/
def offset (o : Opening) : Nat := utf8Length o.head

theorem eq_of_brace? {text : List Char} {o : Opening} (h : brace? text = some o) :
    text = o.head ++ o.body ∧ o.head.getLast? = some '{' := by
  unfold brace? at h
  split at h
  · cases h
  · cases h
    exact ⟨rfl, rfl⟩
  · split at h
    · split at h
      · cases h
        exact ⟨rfl, rfl⟩
      · cases h
    · cases h

/-- An opening cuts the text behind a brace. -/
theorem eq_of_find? : ∀ {text : List Char} {o : Opening}, find? text = some o →
    text = o.head ++ o.body ∧ o.head.getLast? = some '{'
  | [], _, h => by cases h
  | c :: rest, o, h => by
    rw [find?] at h
    split at h
    next o' ho =>
      have hbrace : brace? rest = some o' := by
        by_cases hc : c = ')'
        · rwa [if_pos hc] at ho
        · rw [if_neg hc] at ho
          cases ho
      obtain ⟨hrest, hlast⟩ := eq_of_brace? hbrace
      cases h
      exact ⟨by rw [hrest]; rfl, by simp [List.getLast?_cons, hlast]⟩
    next =>
      obtain ⟨o', ho', rfl⟩ := Option.map_eq_some_iff.1 h
      obtain ⟨hrest, hlast⟩ := eq_of_find? ho'
      exact ⟨by rw [hrest]; rfl, by simp [List.getLast?_cons, hlast]⟩

end Opening

end HouseStyle
