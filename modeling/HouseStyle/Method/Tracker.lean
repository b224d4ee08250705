import HouseStyle.Method.Name
import HouseStyle.Method.Opening
import HouseStyle.Rule.Violation

/-!
# Measuring methods

The lines of a file are fed one after the other. Outside a method, a line that opens one starts
the count; inside, every brace moves the nesting depth, wherever it stands, and the method ends
with the line that brings the depth to zero. Methods within a method are part of its body.

A tracker keeps its state in registers, which it resets when a method ends (`Registers.feed`). All
that counts of them is the method that they hold, if they hold one: the tracker that knows nothing
else (`feedLine`) does the same (`Registers.feed_eq`).
-/

namespace HouseStyle

/-- The nesting depth behind a text, if it was `depth` in front; a closing brace too many does
nothing. -/
def braceDepth (depth : Nat) (text : List Char) : Nat :=
  text.foldl (fun d c => if c = '{' then d + 1 else if c = '}' then d - 1 else d) depth

/-! ## Registers -/

/-- The registers of a tracker. Outside a method they hold nothing. -/
structure Registers where
  depth : Nat := 0
  name : String := ""
  /-- How many lines have been read behind the opening one. -/
  bodyLines : Nat := 0
  startLine : Nat := 0
  deriving DecidableEq, Repr

namespace Registers

/-- Counts the braces of a text. -/
def applyBraces (r : Registers) (text : List Char) : Registers :=
  { r with depth := braceDepth r.depth text }

/-- Feeds a line outside a method. A method that ends on its opening line leaves nothing behind. -/
def enter (r : Registers) (number : Nat) (text : String) : Registers :=
  match Opening.find? text.toList with
  | none => r
  | some opening =>
    let opened : Registers := ⟨1, String.ofList (displayName text.toList), 0, number⟩
    let opened := opened.applyBraces opening.body
    if opened.depth = 0 then {} else opened

/-- Feeds a line of a body. The end of the method leaves nothing behind, and tells whether the body
is longer than `max` lines. -/
def follow (max : Nat) (r : Registers) (text : String) : Registers × Option Violation :=
  let r := r.applyBraces text.toList
  if r.depth ≠ 0 then ({ r with bodyLines := r.bodyLines + 1 }, none)
  else
    ({}, if max < r.bodyLines then some (.methodTooLong r.name r.startLine r.bodyLines max)
      else none)

/-- Feeds a line: the registers behind it, and the violation it brings to light. -/
def feed (max : Nat) (r : Registers) (number : Nat) (text : String) :
    Registers × Option Violation :=
  if r.depth ≠ 0 then r.follow max text else (r.enter number text, none)

end Registers

/-! ## Open methods -/

/-- A method whose end has not been read yet. -/
structure OpenMethod where
  depth : Nat
  name : String
  /-- How many lines have been read behind the opening one. -/
  bodyLines : Nat
  startLine : Nat
  deriving DecidableEq, Repr

namespace OpenMethod

/-- The method that a line opens, unless it ends on the same line. -/
def ofLine? (number : Nat) (text : String) : Option OpenMethod := do
  let opening ← Opening.find? text.toList
  let depth := braceDepth 1 opening.body
  guard (depth ≠ 0)
  return ⟨depth, String.ofList (displayName text.toList), 0, number⟩

/-- The violation to report when the method ends, if its body is longer than `max` lines. -/
def verdict (max : Nat) (m : OpenMethod) : Option Violation :=
  if max < m.bodyLines then some (.methodTooLong m.name m.startLine m.bodyLines max) else none

/-- Feeds a line of the body: the method if it goes on, and the verdict if it ends. -/
def feed (max : Nat) (m : OpenMethod) (text : String) : Option OpenMethod × Option Violation :=
  let depth := braceDepth m.depth text.toList
  if depth = 0 then (none, m.verdict max)
  else (some { m with depth, bodyLines := m.bodyLines + 1 }, none)

end OpenMethod

/-- Feeds a line: the method that is open behind it, and the violation it brings to light. -/
def feedLine (max : Nat) (state : Option OpenMethod) (number : Nat) (text : String) :
    Option OpenMethod × Option Violation :=
  match state with
  | some m => m.feed max text
  | none => (OpenMethod.ofLine? number text, none)

/-- Feeds numbered lines one after the other, and gives what is found behind each of them. -/
def feedLines (max : Nat) (state : Option OpenMethod) :
    List (Nat × String) → List (Option OpenMethod × Option Violation)
  | [] => []
  | (number, text) :: rest =>
    let result := feedLine max state number text
    result :: feedLines max result.1 rest

/-! ## What the registers hold -/

namespace Registers

/-- The method that the registers hold. -/
def method? (r : Registers) : Option OpenMethod :=
  if r.depth = 0 then none else some ⟨r.depth, r.name, r.bodyLines, r.startLine⟩

theorem method?_enter {r : Registers} (hr : r.depth = 0) (number : Nat) (text : String) :
    (r.enter number text).method? = OpenMethod.ofLine? number text := by
  rw [enter, OpenMethod.ofLine?]
  cases Opening.find? text.toList with
  | none => exact if_pos hr
  | some opening =>
    change _ = (if braceDepth 1 opening.body ≠ 0 then some () else none).bind fun _ =>
      some (OpenMethod.mk (braceDepth 1 opening.body) (String.ofList (displayName text.toList)) 0
        number)
    by_cases hd : braceDepth 1 opening.body = 0
    · simp [applyBraces, hd, method?]
    · simp [applyBraces, hd, method?]

theorem method?_follow (max : Nat) (r : Registers) (text : String) :
    ((r.follow max text).1.method?, (r.follow max text).2) =
      OpenMethod.feed max ⟨r.depth, r.name, r.bodyLines, r.startLine⟩ text := by
  by_cases hd : braceDepth r.depth text.toList = 0
  · simp [follow, applyBraces, hd, OpenMethod.feed, method?, OpenMethod.verdict]
  · simp [follow, applyBraces, hd, OpenMethod.feed, method?]

/-- Feeding the registers a line is feeding it to the method that they hold. -/
theorem feed_eq (max : Nat) (r : Registers) (number : Nat) (text : String) :
    ((r.feed max number text).1.method?, (r.feed max number text).2) =
      feedLine max r.method? number text := by
  by_cases hr : r.depth = 0
  · rw [feed, if_neg (not_not_intro hr), method?_enter hr, method?, if_pos hr, feedLine]
  · rw [feed, if_pos hr, method?_follow, method?, if_neg hr, feedLine]

theorem enter_eq_empty {number : Nat} {text : String} (h : (enter {} number text).depth = 0) :
    enter {} number text = {} := by
  cases ho : Opening.find? text.toList with
  | none => rw [enter, ho]
  | some opening =>
    by_cases hd : braceDepth 1 opening.body = 0
    · simp [enter, ho, applyBraces, hd]
    · simp [enter, ho, applyBraces, hd] at h

theorem follow_eq_empty {max : Nat} {r : Registers} {text : String}
    (h : (r.follow max text).1.depth = 0) : (r.follow max text).1 = {} := by
  by_cases hd : braceDepth r.depth text.toList = 0
  · simp [follow, applyBraces, hd]
  · simp [follow, applyBraces, hd] at h

/-- Outside a method nothing is left in the registers. -/
theorem feed_eq_empty {max : Nat} {r : Registers} (hr : r.depth = 0 → r = {}) {number : Nat}
    {text : String} (h : (r.feed max number text).1.depth = 0) :
    (r.feed max number text).1 = {} := by
  by_cases hd : r.depth = 0
  · obtain rfl := hr hd
    exact enter_eq_empty h
  · rw [feed, if_pos hd] at h ⊢
    exact follow_eq_empty h

end Registers

end HouseStyle
