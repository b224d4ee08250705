import HouseStyle.Method.Tracker

/-!
# Feeding lines one after the other

`feedLine` has five outcomes, one lemma each: outside a method a line opens none, opens one that
ends at once, or opens one that goes on; inside, the method goes on or ends. A run over numbered
lines (`feedLines`) splits at every point, with `methodAfter` as the state at the cut
(`feedLines_append`).
-/

namespace HouseStyle

/-! ## One line -/

/-- The name under which a line's method is reported, as text. -/
def methodName (text : String) : String :=
  String.ofList (displayName text.toList)

/-- A line opens a method if there is an opening on it and the depth behind it is not zero. -/
theorem OpenMethod.ofLine?_eq (number : Nat) {text : String} {o : Opening}
    (h : Opening.find? text.toList = some o) : OpenMethod.ofLine? number text =
      if braceDepth 1 o.body ≠ 0 then some ⟨braceDepth 1 o.body, methodName text, 0, number⟩
      else none := by
  rw [OpenMethod.ofLine?, h]
  show (if braceDepth 1 o.body ≠ 0 then some () else none).bind (fun _ => some _) = _
  split <;> rfl

theorem feedLine_of_not_opening (max number : Nat) {text : String}
    (h : Opening.find? text.toList = none) : feedLine max none number text = (none, none) := by
  rw [feedLine, OpenMethod.ofLine?, h]
  rfl

/-- A method that ends on its opening line leaves nothing behind. -/
theorem feedLine_of_closed_opening (max number : Nat) {text : String} {o : Opening}
    (h : Opening.find? text.toList = some o) (hd : braceDepth 1 o.body = 0) :
    feedLine max none number text = (none, none) := by
  rw [feedLine, OpenMethod.ofLine?_eq number h, if_neg (not_not_intro hd)]

theorem feedLine_of_opening (max number : Nat) {text : String} {o : Opening}
    (h : Opening.find? text.toList = some o) (hd : braceDepth 1 o.body ≠ 0) :
    feedLine max none number text =
      (some ⟨braceDepth 1 o.body, methodName text, 0, number⟩, none) := by
  rw [feedLine, OpenMethod.ofLine?_eq number h, if_pos hd]

theorem feedLine_inside (max number : Nat) {m : OpenMethod} {text : String}
    (hd : braceDepth m.depth text.toList ≠ 0) :
    feedLine max (some m) number text =
      (some { m with depth := braceDepth m.depth text.toList, bodyLines := m.bodyLines + 1 },
        none) := by
  simp [feedLine, OpenMethod.feed, hd]

theorem feedLine_closing (max number : Nat) {m : OpenMethod} {text : String}
    (hd : braceDepth m.depth text.toList = 0) :
    feedLine max (some m) number text = (none, m.verdict max) := by
  simp [feedLine, OpenMethod.feed, hd]

/-! ## Numbered lines -/

/-- The line with the given number, counted from 1. Beyond the file lines are empty: they open no
method and leave the depth alone. -/
def lineAt (lines : List String) (number : Nat) : String :=
  lines.getD (number - 1) ""

/-- The line behind the first `xs.length` ones. -/
theorem lineAt_append_cons (xs : List String) (text : String) (ys : List String) :
    lineAt (xs ++ text :: ys) (xs.length + 1) = text := by
  simp [lineAt]

theorem lineAt_of_length_lt {lines : List String} {number : Nat} (h : lines.length < number) :
    lineAt lines number = "" := by
  simp [lineAt, List.getElem?_eq_none (by omega : lines.length ≤ number - 1)]

/-- Numbers lines one after the other, the first of them with `first`. -/
def numberFrom : Nat → List String → List (Nat × String)
  | _, [] => []
  | first, text :: rest => (first, text) :: numberFrom (first + 1) rest

@[simp] theorem length_numberFrom : ∀ (first : Nat) (lines : List String),
    (numberFrom first lines).length = lines.length
  | _, [] => rfl
  | first, _ :: rest => by simp [numberFrom, length_numberFrom (first + 1) rest]

theorem numberFrom_append : ∀ (first : Nat) (xs ys : List String),
    numberFrom first (xs ++ ys) = numberFrom first xs ++ numberFrom (first + xs.length) ys
  | _, [], _ => rfl
  | first, x :: xs, ys => by
    have ih := numberFrom_append (first + 1) xs ys
    rw [List.length_cons, Nat.add_comm xs.length 1, ← Nat.add_assoc, List.cons_append, numberFrom,
      numberFrom, ih, List.cons_append]

/-! ## Many lines -/

/-- The method that is open behind numbered lines. -/
def methodAfter (max : Nat) (state : Option OpenMethod) (lines : List (Nat × String)) :
    Option OpenMethod :=
  lines.foldl (fun state line => (feedLine max state line.1 line.2).1) state

theorem methodAfter_cons (max : Nat) (state : Option OpenMethod) (line : Nat × String)
    (lines : List (Nat × String)) : methodAfter max state (line :: lines) =
      methodAfter max (feedLine max state line.1 line.2).1 lines :=
  rfl

theorem methodAfter_concat (max : Nat) (lines : List String) (text : String) :
    methodAfter max none (numberFrom 1 (lines ++ [text])) =
      (feedLine max (methodAfter max none (numberFrom 1 lines)) (lines.length + 1) text).1 := by
  rw [numberFrom_append, methodAfter, List.foldl_append, Nat.add_comm 1]
  rfl

/-- There is one result for every line. -/
@[simp] theorem length_feedLines (max : Nat) : ∀ (state : Option OpenMethod)
    (lines : List (Nat × String)), (feedLines max state lines).length = lines.length
  | _, [] => rfl
  | state, (number, text) :: lines => by
    simp [feedLines, length_feedLines max (feedLine max state number text).1 lines]

/-- A run splits at every point. -/
theorem feedLines_append (max : Nat) : ∀ (state : Option OpenMethod) (xs ys : List (Nat × String)),
    feedLines max state (xs ++ ys) =
      feedLines max state xs ++ feedLines max (methodAfter max state xs) ys
  | _, [], _ => rfl
  | state, (number, text) :: xs, ys => by
    have ih := feedLines_append max (feedLine max state number text).1 xs ys
    rw [List.cons_append, feedLines, feedLines, ih, methodAfter_cons, List.cons_append]

theorem filterMap_cons_toList {α β : Type} (f : α → Option β) (a : α) (as : List α) :
    (a :: as).filterMap f = (f a).toList ++ as.filterMap f := by
  rw [List.filterMap_cons]
  cases f a <;> rfl

/-- The violations that come to light while numbered lines are fed, in order. -/
def tooLong (max : Nat) (state : Option OpenMethod) (lines : List (Nat × String)) :
    List Violation :=
  (feedLines max state lines).filterMap Prod.snd

theorem tooLong_cons (max : Nat) (state : Option OpenMethod) (number : Nat) (text : String)
    (lines : List (Nat × String)) : tooLong max state ((number, text) :: lines) =
      (feedLine max state number text).2.toList ++
        tooLong max (feedLine max state number text).1 lines := by
  rw [tooLong, feedLines, filterMap_cons_toList, tooLong]

end HouseStyle
