import HouseStyle.Proofs.Method.Braces
import HouseStyle.Proofs.Method.Feeding

/-!
# Well-nested methods

A method whose braces nest is followed to the brace that ends it, however deep the nesting is and
wherever the lines are cut (`feedLines_of_balanced`). In front of that brace the depth at every end
of a line is at least one, since what has been read of the body is the beginning of a balanced
text.
-/

namespace HouseStyle

open Text

/-- The text of several lines in a row, without what separates them. -/
def joinedText (lines : List String) : List Char :=
  lines.flatMap String.toList

@[simp] theorem joinedText_nil : joinedText [] = [] :=
  rfl

@[simp] theorem joinedText_cons (text : String) (lines : List String) :
    joinedText (text :: lines) = text.toList ++ joinedText lines :=
  rfl

theorem joinedText_isPrefix {xs ys : List String} (h : xs <+: ys) :
    joinedText xs <+: joinedText ys := by
  obtain ⟨rest, rfl⟩ := h
  exact ⟨joinedText rest, by simp [joinedText]⟩

theorem count_joinedText_drop_le (lines : List String) (n : Nat) (c : Char) :
    (joinedText (lines.drop n)).count c ≤ (joinedText lines).count c := by
  have hsplit : joinedText lines = joinedText (lines.take n) ++ joinedText (lines.drop n) := by
    rw [joinedText, joinedText, joinedText, ← List.flatMap_append, List.take_append_drop]
  rw [hsplit, List.count_append]
  exact Nat.le_add_left _ _

theorem joinedText_sublist : ∀ lines : List String,
    (joinedText lines).Sublist (join '\n' (lines.map String.toList))
  | [] => .slnil
  | [text] => by simp
  | text :: next :: lines => by
    have ih := joinedText_sublist (next :: lines)
    rw [joinedText_cons, List.map_cons, List.map_cons, join_cons_cons]
    exact (List.Sublist.refl _).append (ih.cons _)

/-- The results of feeding lines of a body: a method in progress each time, and nothing found. -/
def InProgress (results : List (Option OpenMethod × Option Violation)) : Prop :=
  ∀ r ∈ results, (∃ m, r.1 = some m ∧ 0 < m.depth) ∧ r.2 = none

theorem InProgress.cons {m : OpenMethod} {results : List (Option OpenMethod × Option Violation)}
    (hm : m.depth ≠ 0) (h : InProgress results) : InProgress ((some m, none) :: results) := by
  intro r hr
  rcases List.mem_cons.1 hr with rfl | hr
  · exact ⟨⟨m, rfl, Nat.pos_of_ne_zero hm⟩, rfl⟩
  · exact h r hr

/-- Lines at whose ends the depth is not zero are read as lines of the body. -/
theorem feedLines_of_depth_ne (max : Nat) : ∀ (lines : List String) (number : Nat) (m : OpenMethod),
    (∀ xs, xs <+: lines → braceDepth m.depth (joinedText xs) ≠ 0) →
    InProgress (feedLines max (some m) (numberFrom number lines)) ∧
      methodAfter max (some m) (numberFrom number lines) =
        some ⟨braceDepth m.depth (joinedText lines), m.name, m.bodyLines + lines.length,
          m.startLine⟩
  | [], _, _, _ => ⟨by simp [InProgress, numberFrom, feedLines], rfl⟩
  | text :: lines, number, m, h => by
    have hd : braceDepth m.depth text.toList ≠ 0 := by simpa using h [text] (by simp)
    have hrest : ∀ xs, xs <+: lines →
        braceDepth (braceDepth m.depth text.toList) (joinedText xs) ≠ 0 := by
      intro xs hxs
      rw [← braceDepth_append]
      exact h (text :: xs) (by simpa using hxs)
    obtain ⟨hin, hafter⟩ := feedLines_of_depth_ne max lines (number + 1)
      { m with depth := braceDepth m.depth text.toList, bodyLines := m.bodyLines + 1 } hrest
    rw [numberFrom, feedLines, methodAfter_cons, feedLine_inside _ _ hd, hafter]
    refine ⟨.cons hd hin, ?_⟩
    rw [joinedText_cons, braceDepth_append, List.length_cons, Nat.add_comm lines.length 1,
      ← Nat.add_assoc]

/-- A balanced body, the brace that ends it, and no brace behind. -/
structure WellNested (text body rest : List Char) : Prop where
  eq : text = body ++ '}' :: rest
  balanced : Balanced body
  not_open : '{' ∉ rest
  not_close : '}' ∉ rest

theorem WellNested.braceDepth_eq {text body rest : List Char} (h : WellNested text body rest) :
    braceDepth 1 text = 0 := by
  rw [h.eq, braceDepth_append, braceDepth_of_balanced h.balanced, braceDepth_cons_close,
    braceDepth_of_not_mem _ h.not_open h.not_close]

/-- What stands in front of a last piece that holds the closing brace belongs to the body. -/
theorem WellNested.isPrefix_body {front last body rest : List Char}
    (h : WellNested (front ++ last) body rest) (hlast : rest.length < last.length) :
    front <+: body := by
  have hfront : front <+: body ++ '}' :: rest := ⟨last, h.eq⟩
  have hlen := congrArg List.length h.eq
  simp only [List.length_append, List.length_cons] at hlen
  exact List.prefix_of_prefix_length_le hfront (List.prefix_append _ _) (by omega)

/-- Let the text behind an opening brace be balanced up to the brace that ends the method, let no
brace follow, and let that brace stand on the last of the lines. Then the tracker is inside the
method behind all lines but the last and reports nothing before, and behind the last line it is
outside and has reported the method exactly if its body is too long. -/
theorem feedLines_of_balanced (max number : Nat) {first last : String} {inner : List String}
    {o : Opening} {body rest : List Char} (ho : Opening.find? first.toList = some o)
    (hn : WellNested (o.body ++ joinedText inner ++ last.toList) body rest)
    (hlast : rest.length < last.toList.length) :
    ∃ before, before.length = inner.length + 1 ∧ InProgress before ∧
      feedLines max none (numberFrom number (first :: (inner ++ [last]))) =
        before ++ [(none, if max < inner.length then
          some (.methodTooLong (methodName first) number inner.length max) else none)] := by
  -- The closing brace stands on the last line, so every earlier end of a line is within the body.
  have hbody := hn.isPrefix_body hlast
  have hpos : ∀ xs, xs <+: inner → braceDepth (braceDepth 1 o.body) (joinedText xs) ≠ 0 := by
    intro xs hxs
    have hpre : o.body ++ joinedText xs <+: body :=
      ((List.prefix_append_right_inj o.body).2 (joinedText_isPrefix hxs)).trans hbody
    have hle := le_braceDepth_of_isPrefix hn.balanced hpre 1
    rw [← braceDepth_append]
    omega
  have hopen : braceDepth 1 o.body ≠ 0 := by simpa using hpos [] (List.nil_prefix)
  obtain ⟨hin, hafter⟩ := feedLines_of_depth_ne max inner (number + 1)
    ⟨braceDepth 1 o.body, methodName first, 0, number⟩ hpos
  have hzero : braceDepth (braceDepth (braceDepth 1 o.body) (joinedText inner)) last.toList =
      0 := by
    rw [← braceDepth_append, ← braceDepth_append, ← List.append_assoc]
    exact hn.braceDepth_eq
  refine ⟨(some ⟨braceDepth 1 o.body, methodName first, 0, number⟩, none) ::
    feedLines max (some ⟨braceDepth 1 o.body, methodName first, 0, number⟩)
      (numberFrom (number + 1) inner), by simp, .cons hopen hin, ?_⟩
  rw [numberFrom, feedLines, feedLine_of_opening _ _ ho hopen, numberFrom_append,
    feedLines_append, hafter, List.cons_append, numberFrom, feedLines, feedLine_closing _ _ hzero]
  simp [numberFrom, feedLines, OpenMethod.verdict]

theorem feedLines_of_balanced_nested :
    Opening.find? "void run() \x7b".toList = some ⟨"void run() \x7b".toList, []⟩ ∧
      WellNested ([] ++ joinedText ["if (a) \x7b", "b(); \x7d \x7b"] ++ "\x7d \x7d // end".toList)
        "if (a) \x7bb(); \x7d \x7b\x7d ".toList " // end".toList ∧
      ∃ before, before.length = 3 ∧ InProgress before ∧
        feedLines 1 none (numberFrom 7
            ["void run() \x7b", "if (a) \x7b", "b(); \x7d \x7b", "\x7d \x7d // end"]) =
          before ++ [(none, some (.methodTooLong (methodName "void run() \x7b") 7 2 1))] := by
  have ho : Opening.find? "void run() \x7b".toList = some ⟨"void run() \x7b".toList, []⟩ := by
    decide
  have hn : WellNested
      ([] ++ joinedText ["if (a) \x7b", "b(); \x7d \x7b"] ++ "\x7d \x7d // end".toList)
      "if (a) \x7bb(); \x7d \x7b\x7d ".toList " // end".toList :=
    ⟨by decide, by decide, by decide, by decide⟩
  exact ⟨ho, hn, feedLines_of_balanced 1 7 ho hn (by decide)⟩

end HouseStyle
