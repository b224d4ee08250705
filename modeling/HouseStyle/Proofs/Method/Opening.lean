import HouseStyle.Proofs.Method.Feeding
import HouseStyle.Proofs.Method.Signature
import Mathlib.Order.Nat

/-!
# Where the body of a method begins

A closing parenthesis opens a method if an opening brace follows, at once or behind one blank
(`OpensAt`). A parenthesis that does not is passed over, so that `Opening.find?` cuts a line at the
first one that does (`Opening.find?_eq_some_iff`). This is also where the first match of the pattern
for openings ends (`Opening.head_find?_eq_captures`).

The place of the cut is kept as a number of bytes. Characters of several bytes, blanks among them,
can stand in front of it; a character starts there all the same, or the line ends, and the text from
there on is the text behind the brace (`bodyStart?_eq_some`). So a tracker that cuts the line at
this byte always finds the body.
-/

namespace HouseStyle

open Pattern Text

/-! ## Texts by bytes -/

theorem utf8Length_eq (text : List Char) : utf8Length text = (String.ofList text).utf8ByteSize := by
  induction text with
  | nil => rfl
  | cons c text ih =>
    have hcons : String.ofList (c :: text) = String.singleton c ++ String.ofList text := by
      rw [← String.toList_inj]
      simp
    rw [hcons, String.utf8ByteSize_append, String.utf8ByteSize_singleton, ← ih]
    rfl

/-- The text from a byte on, if a character starts with this byte or the text ends there. -/
def sliceFrom? (text : String) (offset : ℕ) : Option String :=
  (text.pos? ⟨offset⟩).map fun p => (text.sliceFrom p).copy

theorem offset_of_pos?_eq_some {text : String} {offset : ℕ} {p : text.Pos}
    (h : text.pos? ⟨offset⟩ = some p) : p.offset = ⟨offset⟩ := by
  rw [String.pos?, String.Slice.pos?] at h
  split at h
  · cases h
    rfl
  · cases h

theorem pos?_append (head body : String) :
    ∃ p, (head ++ body).pos? ⟨head.utf8ByteSize⟩ = some p ∧ p.Splits head body := by
  have hvalid : String.Pos.Raw.IsValid (head ++ body) ⟨head.utf8ByteSize⟩ :=
    String.Pos.Raw.isValid_iff_exists_append.2 ⟨head, body, rfl, rfl⟩
  refine ⟨(head ++ body).pos _ hvalid, ?_, rfl, rfl⟩
  simp [String.pos?, String.Slice.pos?, String.pos, hvalid]

/-- A text can be cut behind some of its characters, and nowhere else. -/
theorem sliceFrom?_eq_some_iff {text body : String} {offset : ℕ} :
    sliceFrom? text offset = some body ↔
      ∃ head, text = head ++ body ∧ offset = head.utf8ByteSize := by
  constructor
  · intro h
    obtain ⟨p, hp, rfl⟩ := Option.map_eq_some_iff.1 h
    have hsplits := p.splits.offset_eq_rawEndPos
    rw [offset_of_pos?_eq_some hp] at hsplits
    exact ⟨_, p.splits.eq_append, congrArg String.Pos.Raw.byteIdx hsplits⟩
  · rintro ⟨head, rfl, rfl⟩
    obtain ⟨p, hp, hsplits⟩ := pos?_append head body
    rw [sliceFrom?, hp, Option.map_some, p.splits.eq_right hsplits]

/-! ## Openings -/

/-- A method opens at the start of a text, and `body` is the text behind the brace. -/
def Opens (text body : List Char) : Prop :=
  ∃ gap, AtMostOneBlank gap ∧ text = ')' :: (gap ++ '{' :: body)

/-- A method opens at the `i`-th character of a text. -/
def OpensAt (text : List Char) (i : ℕ) : Prop :=
  ∃ body, Opens (text.drop i) body

@[simp] theorem opensAt_zero {text : List Char} : OpensAt text 0 ↔ ∃ body, Opens text body :=
  Iff.rfl

@[simp] theorem opensAt_succ {c : Char} {rest : List Char} {i : ℕ} :
    OpensAt (c :: rest) (i + 1) ↔ OpensAt rest i :=
  Iff.rfl

theorem not_opensAt_nil (i : ℕ) : ¬ OpensAt [] i := by
  simp [OpensAt, Opens]

namespace Opening

theorem brace?_append {gap : List Char} (h : AtMostOneBlank gap) (body : List Char) :
    brace? (gap ++ '{' :: body) = some ⟨gap ++ ['{'], body⟩ := by
  obtain rfl | ⟨b, rfl, hb⟩ := h
  · rfl
  · have hne : b ≠ '{' := fun h => absurd (h ▸ hb) (by decide)
    simp [brace?, hb]

theorem exists_of_brace?_eq_some {text : List Char} {o : Opening} (h : brace? text = some o) :
    ∃ gap, AtMostOneBlank gap ∧ text = gap ++ '{' :: o.body := by
  unfold brace? at h
  split at h
  · cases h
  · cases h
    exact ⟨[], .inl rfl, rfl⟩
  · split at h
    · split at h
      · cases h
        exact ⟨[_], .inr ⟨_, rfl, ‹_›⟩, rfl⟩
      · cases h
    · cases h

theorem find?_cons_of_opens {c : Char} {rest body : List Char} (h : Opens (c :: rest) body) :
    ∃ head, c :: rest = head ++ body ∧ find? (c :: rest) = some ⟨head, body⟩ := by
  obtain ⟨gap, hgap, heq⟩ := h
  obtain ⟨rfl, rfl⟩ := List.cons.inj heq
  refine ⟨')' :: (gap ++ ['{']), by simp, ?_⟩
  rw [find?, if_pos rfl, brace?_append hgap]

/-- A character that opens no method is passed over. -/
theorem find?_cons_of_not_opens {c : Char} {rest : List Char}
    (h : ∀ body, ¬ Opens (c :: rest) body) :
    find? (c :: rest) = (find? rest).map fun o => ⟨c :: o.head, o.body⟩ := by
  have hnone : (if c = ')' then brace? rest else none) = none := by
    by_cases hc : c = ')'
    · rw [if_pos hc, Option.eq_none_iff_forall_ne_some]
      intro o ho
      obtain ⟨gap, hgap, hrest⟩ := exists_of_brace?_eq_some ho
      exact h o.body ⟨gap, hgap, by rw [hc, hrest]⟩
    · rw [if_neg hc]
  rw [find?, hnone]

theorem find?_eq_none : ∀ {text : List Char}, (∀ i, ¬ OpensAt text i) → find? text = none
  | [], _ => rfl
  | c :: rest, h => by
    have hfirst : ∀ body, ¬ Opens (c :: rest) body := fun body hbody => h 0 ⟨body, hbody⟩
    have hrest : ∀ i, ¬ OpensAt rest i := fun i hi => h (i + 1) hi
    rw [find?_cons_of_not_opens hfirst, find?_eq_none hrest, Option.map_none]

/-- A line is cut behind the brace of its first opening. -/
theorem find?_of_isLeast : ∀ {text body : List Char} {i : ℕ}, IsLeast {i | OpensAt text i} i →
    Opens (text.drop i) body → ∃ head, text = head ++ body ∧ find? text = some ⟨head, body⟩
  | [], _, i, h, _ => absurd h.1 (not_opensAt_nil i)
  | _ :: _, _, 0, _, hbody => find?_cons_of_opens hbody
  | c :: rest, body, i + 1, h, hbody => by
    have hfirst : ∀ body, ¬ Opens (c :: rest) body := fun body hopens =>
      absurd (h.2 (opensAt_zero.2 ⟨body, hopens⟩)) (Nat.not_succ_le_zero i)
    have hleast : IsLeast {i | OpensAt rest i} i :=
      ⟨opensAt_succ.1 h.1, fun j hj => Nat.le_of_succ_le_succ (h.2 (opensAt_succ.2 hj))⟩
    obtain ⟨head, hrest, hfind⟩ := find?_of_isLeast hleast hbody
    refine ⟨c :: head, by rw [hrest, List.cons_append], ?_⟩
    rw [find?_cons_of_not_opens hfirst, hfind, Option.map_some]

/-- Something is found if there is an opening. -/
theorem exists_find?_iff {text : List Char} :
    (∃ o, find? text = some o) ↔ ∃ i, OpensAt text i := by
  classical
  constructor
  · rintro ⟨o, ho⟩
    by_contra hnot
    rw [find?_eq_none (not_exists.1 hnot)] at ho
    cases ho
  · intro h
    have hleast := Nat.isLeast_find h
    obtain ⟨body, hbody⟩ := hleast.1
    obtain ⟨head, -, hfind⟩ := find?_of_isLeast hleast hbody
    exact ⟨_, hfind⟩

/-- What is found is the first opening, and the text behind its brace. -/
theorem find?_eq_some_iff {text : List Char} {o : Opening} : find? text = some o ↔
    text = o.head ++ o.body ∧
      ∃ i, IsLeast {i | OpensAt text i} i ∧ Opens (text.drop i) o.body := by
  classical
  constructor
  · intro h
    have hleast := Nat.isLeast_find (exists_find?_iff.1 ⟨o, h⟩)
    obtain ⟨body, hbody⟩ := hleast.1
    obtain ⟨head, htext, hfind⟩ := find?_of_isLeast hleast hbody
    obtain rfl : ⟨head, body⟩ = o := Option.some_inj.1 (hfind.symm.trans h)
    exact ⟨htext, _, hleast, hbody⟩
  · rintro ⟨htext, i, hleast, hbody⟩
    obtain ⟨head, htext', hfind⟩ := find?_of_isLeast hleast hbody
    obtain rfl : o.head = head := List.append_cancel_right (htext.symm.trans htext')
    exact hfind

end Opening

/-! ## The pattern for openings -/

/-- `\s?\{`. -/
def bracePattern : Pattern := .seq (.opt (.one .blank)) (.one (.single '{'))

/-- `\)\s?\{`, all of it in front of what is to be found. -/
def openingPattern : Grouped where
  lead := .seq (.one (.single ')')) bracePattern
  group := .empty
  tail := .empty

theorem head?_reach_brace (read rest : List Char) :
    (bracePattern.reach ⟨read, rest⟩).head? =
      (Opening.brace? rest).map fun o => Place.past ⟨read, rest⟩ o.head := by
  rw [bracePattern, Regex.head?_reach_seq, Regex.findSome?_reach_opt]
  -- A brace is no blank: a text that starts with one is only matched by leaving out the blank.
  cases rest with
  | nil => rfl
  | cons c rest =>
    by_cases hc : c = '{'
    · subst hc
      rfl
    · cases rest with
      | nil =>
        by_cases hb : isBlank c = true <;>
          simp [Regex.reach, CharClass.contains, Opening.brace?, hb, hc]
      | cons d body =>
        by_cases hd : d = '{' <;> by_cases hb : isBlank c = true <;>
          simp [Regex.reach, CharClass.contains, Opening.brace?, hb, hc, hd, Place.past]

theorem first?_opening_nil (read : List Char) : openingPattern.first? ⟨read, []⟩ = none :=
  rfl

/-- The preferred match of a place is that of an opening which starts there. -/
theorem first?_opening_cons (read rest : List Char) (c : Char) :
    openingPattern.first? ⟨read, c :: rest⟩ =
      (if c = ')' then Opening.brace? rest else none).map fun o =>
        let behind := Place.past ⟨c :: read, rest⟩ o.head
        (behind, behind, behind) := by
  have hempty (a : Place) : ((openingPattern.group.reach a).findSome? fun b =>
      (openingPattern.tail.reach b).head?.map fun e => (a, b, e)) = some (a, a, a) := rfl
  have hlead : (openingPattern.lead.reach ⟨read, c :: rest⟩).head? =
      (if c = ')' then Opening.brace? rest else none).map fun o =>
        Place.past ⟨c :: read, rest⟩ o.head := by
    by_cases hc : c = ')'
    · rw [if_pos hc, ← head?_reach_brace, openingPattern, Regex.head?_reach_seq]
      simp [Regex.reach, hc]
    · rw [if_neg hc, openingPattern, Regex.head?_reach_seq]
      simp [Regex.reach, hc]
  rw [Grouped.first?]
  simp only [hempty]
  rw [findSome?_some, hlead, Option.map_map]
  rfl

/-- The cut is where the first match of the pattern ends. -/
theorem Opening.head_find?_eq_captures (read : List Char) : ∀ text : List Char,
    (find? text).map (fun o => read.reverse ++ o.head) =
      (openingPattern.captures read text).head?.map Prod.fst
  | [] => by
    rw [Grouped.captures_nil_of_eq_none (first?_opening_nil read)]
    rfl
  | c :: rest => by
    have hfirst := first?_opening_cons read rest c
    rw [find?]
    cases hhere : if c = ')' then Opening.brace? rest else none with
    | none =>
      rw [hhere, Option.map_none] at hfirst
      rw [Grouped.captures_cons_of_eq_none hfirst, ← head_find?_eq_captures (c :: read) rest,
        Option.map_map]
      simp [Function.comp_def]
    | some o =>
      rw [hhere, Option.map_some] at hfirst
      have hlt : (Place.past ⟨c :: read, rest⟩ o.head).rest.length < (c :: rest).length := by
        simp only [Place.past, List.length_drop, List.length_cons]
        omega
      rw [Grouped.captures_of_eq_some hfirst hlt, List.head?_cons, Option.map_some]
      simp [Place.past]

/-! ## The body by bytes -/

/-- The number of bytes in front of the body of a method, if one opens on the line. -/
def bodyStart? (text : String) : Option ℕ := (Opening.find? text.toList).map Opening.offset

/-- This byte is where the first match of the pattern ends. -/
theorem bodyStart?_eq_captures (text : String) :
    bodyStart? text = (openingPattern.captures [] text.toList).head?.map fun found =>
      (String.ofList found.1).utf8ByteSize := by
  have hcut : (Opening.find? text.toList).map Opening.head =
      (openingPattern.captures [] text.toList).head?.map Prod.fst :=
    Opening.head_find?_eq_captures [] text.toList
  have hbytes : Opening.offset = (fun head => (String.ofList head).utf8ByteSize) ∘ Opening.head :=
    funext fun o => utf8Length_eq o.head
  rw [bodyStart?, hbytes, ← Option.map_map, hcut, Option.map_map]
  rfl

/-- The method that a line opens, whose body is cut off by bytes, unless it ends on the same line.
There is no answer if the line cannot be cut there. -/
def OpenMethod.ofSlice? (number : ℕ) (text : String) : Option (Option OpenMethod) :=
  match bodyStart? text with
  | none => some none
  | some offset => (sliceFrom? text offset).map fun body =>
    if braceDepth 1 body.toList ≠ 0 then
      some ⟨braceDepth 1 body.toList, methodName text, 0, number⟩
    else none

theorem offset_eq_of_find? {text : String} {o : Opening} (h : Opening.find? text.toList = some o) :
    text = String.ofList o.head ++ String.ofList o.body ∧
      o.offset = (String.ofList o.head).utf8ByteSize := by
  refine ⟨?_, utf8Length_eq o.head⟩
  rw [← String.ofList_append, ← (Opening.eq_of_find? h).1, String.ofList_toList]

theorem sliceFrom?_offset {text : String} {o : Opening} (h : Opening.find? text.toList = some o) :
    sliceFrom? text o.offset = some (String.ofList o.body) :=
  sliceFrom?_eq_some_iff.2 ⟨_, offset_eq_of_find? h⟩

/-- Cutting by bytes always gives an answer, and the same one. -/
theorem OpenMethod.ofSlice?_eq (number : ℕ) (text : String) :
    ofSlice? number text = some (ofLine? number text) := by
  rw [ofSlice?, bodyStart?]
  cases ho : Opening.find? text.toList with
  | none =>
    rw [ofLine?, ho]
    rfl
  | some o =>
    have hslice := sliceFrom?_offset ho
    simp only [Option.map_some, hslice, String.toList_ofList, ofLine?_eq number ho]

theorem head_eq_of_opens {text gap body : List Char} {o : Opening} {i : ℕ}
    (htext : text = o.head ++ body) (h : text.drop i = ')' :: (gap ++ '{' :: body)) :
    o.head = text.take i ++ ')' :: (gap ++ ['{']) := by
  have hcut : o.head ++ body = (text.take i ++ ')' :: (gap ++ ['{'])) ++ body := by
    rw [← htext]
    conv_lhs => rw [← List.take_append_drop i text, h]
    simp
  exact List.append_cancel_right hcut

/-- A method opens on a line exactly if a closing parenthesis is followed by an opening brace, at
once or behind one blank. The body then begins just behind the brace of the first such place, where
the first match of the pattern ends. A character starts there or the line ends, so that the line can
be cut at this byte, and what is cut off are the characters behind the brace. A tracker that does so
goes on as with characters. -/
theorem bodyStart?_eq_some (text : String) :
    ((∃ e, bodyStart? text = some e) ↔ ∃ i, OpensAt text.toList i) ∧
    (∀ e, bodyStart? text = some e → ∃ i gap body, IsLeast {i | OpensAt text.toList i} i ∧
      AtMostOneBlank gap ∧ text.toList.drop i = ')' :: (gap ++ '{' :: body) ∧
      e = (String.ofList (text.toList.take i ++ ')' :: (gap ++ ['{']))).utf8ByteSize ∧
      String.Pos.Raw.IsValid text ⟨e⟩ ∧ sliceFrom? text e = some (String.ofList body)) ∧
    (bodyStart? text = (openingPattern.captures [] text.toList).head?.map fun found =>
      (String.ofList found.1).utf8ByteSize) ∧
    ∀ number, OpenMethod.ofSlice? number text = some (OpenMethod.ofLine? number text) := by
  refine ⟨⟨?_, ?_⟩, ?_, bodyStart?_eq_captures text,
    fun number => OpenMethod.ofSlice?_eq number text⟩
  · rintro ⟨e, he⟩
    obtain ⟨o, ho, -⟩ := Option.map_eq_some_iff.1 he
    exact Opening.exists_find?_iff.1 ⟨o, ho⟩
  · intro h
    obtain ⟨o, ho⟩ := Opening.exists_find?_iff.2 h
    exact ⟨o.offset, by rw [bodyStart?, ho, Option.map_some]⟩
  · intro e he
    obtain ⟨o, ho, rfl⟩ := Option.map_eq_some_iff.1 he
    obtain ⟨htext, i, hleast, gap, hgap, hdrop⟩ := Opening.find?_eq_some_iff.1 ho
    obtain ⟨hcut, hoffset⟩ := offset_eq_of_find? ho
    refine ⟨i, gap, o.body, hleast, hgap, hdrop, ?_, ?_, sliceFrom?_offset ho⟩
    · rw [hoffset, head_eq_of_opens htext hdrop]
    · exact String.Pos.Raw.isValid_iff_exists_append.2 ⟨_, _, hcut, by rw [hoffset]; rfl⟩

/-- The first parenthesis opens nothing, and in front of the second brace stands a blank of three
bytes. -/
theorem bodyStart?_eq_some_wide :
    bodyStart? "if (é)  \x7b x(日)\u3000\x7b \x7d" = some 21 ∧
      ∃ i gap, IsLeast {i | OpensAt "if (é)  \x7b x(日)\u3000\x7b \x7d".toList i} i ∧
        AtMostOneBlank gap ∧ "if (é)  \x7b x(日)\u3000\x7b \x7d".toList.drop i =
          ')' :: (gap ++ '{' :: " \x7d".toList) := by
  have hstart : bodyStart? "if (é)  \x7b x(日)\u3000\x7b \x7d" = some 21 := by decide
  obtain ⟨i, gap, body, hleast, hgap, hdrop, -, -, hslice⟩ :=
    (bodyStart?_eq_some "if (é)  \x7b x(日)\u3000\x7b \x7d").2.1 21 hstart
  have hcut : sliceFrom? "if (é)  \x7b x(日)\u3000\x7b \x7d" 21 = some " \x7d" := by decide
  have hbody : String.ofList body = " \x7d" := Option.some_inj.1 (hslice.symm.trans hcut)
  refine ⟨hstart, i, gap, hleast, hgap, ?_⟩
  rw [hdrop, ← hbody, String.toList_ofList]

end HouseStyle
