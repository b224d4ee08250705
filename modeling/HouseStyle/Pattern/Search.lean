import HouseStyle.Pattern.Regex

/-!
# Searching in one pass

`Regex.search` decides whether a pattern occurs in a text. It reads the text once from left to
right and keeps a mark at every leaf of the expression: a marked leaf is one that can have taken
the character just read, on some way of matching that started anywhere before. `leave` tells
whether the expression can be left at the current place, and `step` moves the marks over the
next character. Each character costs one walk over the expression, whatever the text.
`HouseStyle.Pattern.Occurrence` shows that the search finds exactly what occurs.
-/

namespace HouseStyle.Pattern

/-- An expression with a mark at every leaf. -/
abbrev Marked := Regex (Bool × CharClass)

namespace Regex

/-- The expression with no leaf marked. -/
def unmarked (r : Pattern) : Marked := r.map fun k => (false, k)

/-- Whether the expression can be left at the place `g`, if `m` tells whether it can be entered
there. -/
def leave (g : Gap) (m : Bool) : Marked → Bool
  | empty => m
  | one (marked, _) => marked
  | anchor a => m && a.holds g
  | seq p q => q.leave g (p.leave g m)
  | alt p q => p.leave g m || q.leave g m
  | plus p => p.leave g m

/-- The marks after the character `c`, if `m` tells whether the expression can be entered at the
place `g` before it. -/
def step (g : Gap) (c : Char) (m : Bool) : Marked → Marked
  | empty => empty
  | one (_, k) => one (m && k.contains c, k)
  | anchor a => anchor a
  | seq p q => seq (p.step g c m) (q.step g c (p.leave g m))
  | alt p q => alt (p.step g c m) (q.step g c m)
  | plus p => plus (p.step g c (m || p.leave g m))

/-- Searches the rest of a text, `before` being the last character read. -/
def searchFrom (r : Marked) (before : Option Char) : List Char → Bool
  | [] => r.leave ⟨before, none⟩ true
  | c :: rest =>
    r.leave ⟨before, some c⟩ true
      || searchFrom (r.step ⟨before, some c⟩ c true) (some c) rest

/-- Whether the pattern matches some part of the text. -/
def search (r : Pattern) (text : List Char) : Bool := searchFrom r.unmarked none text

end Regex

end HouseStyle.Pattern
