import HouseStyle.Proofs.Rule.Constant
import HouseStyle.Proofs.Rule.NumberSearch

/-!
# Which lines hold a number without a name

A line is reported if it is no comment, does not hold the word `final`, and has a literal that
needs a name in its code, the part in front of its note (`isSome_check_magicNumber_iff`). Only the
word is looked for in the note as well, so that a note decides something exactly if it holds the
word (`isSome_check_magicNumber_cut_iff`).
-/

namespace HouseStyle

open Pattern Text

/-! ## The code of a line -/

/-- The text consists of code and a note, which the first mark of a note separates. -/
def IsCut (code note text : List Char) : Prop :=
  text = code ++ '/' :: '/' :: note ∧ ¬ noteMark <:+: code ++ ['/']

/-- The code of a text: all of it, or the part in front of the first mark of a note. -/
def IsCode (code text : List Char) : Prop :=
  (∃ note, IsCut code note text) ∨ (¬ noteMark <:+: text ∧ code = text)

theorem IsCut.codePart_eq {code note text : List Char} (h : IsCut code note text) :
    codePart text = code := by
  obtain ⟨rfl, hmark⟩ := h
  induction code with
  | nil => rfl
  | cons c code ih =>
    rw [List.cons_append, List.infix_cons_iff, not_or] at hmark
    have hprefix : ¬ noteMark <+: c :: (code ++ '/' :: '/' :: note) := by
      intro h
      refine hmark.1 (List.prefix_of_prefix_length_le h ⟨'/' :: note, by simp⟩ ?_)
      simp [noteMark]
    rw [codePart, List.cons_append, before, if_neg (mt List.isPrefixOf_iff_prefix.1 hprefix)]
    exact congrArg (c :: ·) (ih hmark.2)

theorem exists_isCut {text : List Char} (h : noteMark <:+: text) :
    ∃ note, IsCut (codePart text) note text := by
  induction text with
  | nil => simp [noteMark] at h
  | cons c text ih =>
    by_cases hprefix : noteMark <+: c :: text
    · rw [codePart, before, if_pos (List.isPrefixOf_iff_prefix.2 hprefix)]
      obtain ⟨note, hnote⟩ := hprefix
      exact ⟨note, hnote.symm, by decide⟩
    · obtain ⟨note, htext, hmark⟩ := ih ((List.infix_cons_iff.1 h).resolve_left hprefix)
      rw [codePart, before, if_neg (mt List.isPrefixOf_iff_prefix.1 hprefix)]
      refine ⟨note, congrArg (c :: ·) htext, ?_⟩
      rw [List.cons_append, List.infix_cons_iff, not_or]
      have hlong : codePart text ++ ['/'] <+: text :=
        ⟨'/' :: note, by rw [List.append_assoc]; exact htext.symm⟩
      exact ⟨fun h => hprefix (h.trans (List.cons_prefix_cons.2 ⟨rfl, hlong⟩)), hmark⟩

theorem isCode_iff {code text : List Char} : IsCode code text ↔ code = codePart text := by
  constructor
  · rintro (⟨note, h⟩ | ⟨h, rfl⟩)
    · exact h.codePart_eq.symm
    · rw [codePart, before_eq_self]
      rwa [← Bool.not_eq_true, contains_eq_true_iff]
  · rintro rfl
    by_cases h : noteMark <:+: text
    · exact .inl (exists_isCut h)
    · refine .inr ⟨h, before_eq_self ?_⟩
      rwa [← Bool.not_eq_true, contains_eq_true_iff]

/-! ## The word `final` -/

/-- The edge in front of a word character is where a word starts. -/
theorem holds_wordEdge_in_front_iff {c : Char} (hc : isWord c = true) (x : Option Char) :
    Anchor.holds (.wordEdge .every) ⟨x, some c⟩ = true ↔ ∀ d ∈ x, isWord d = false := by
  cases x <;> simp [Anchor.holds, Alphabet.wordAt, Alphabet.isWord, hc]

/-- The edge behind a word character is where a word ends. -/
theorem holds_wordEdge_behind_iff {c : Char} (hc : isWord c = true) (x : Option Char) :
    Anchor.holds (.wordEdge .every) ⟨some c, x⟩ = true ↔ ∀ d ∈ x, isWord d = false := by
  cases x <;> simp [Anchor.holds, Alphabet.wordAt, Alphabet.isWord, hc]

/-- Between two edges, a word matches where no word character stands next to it. -/
theorem matches_between_edges_iff {p : Pattern} {word : List Char} (hp : Means p (· = word))
    (hword : IsWordText word) {before found after : List Char} :
    Matches (.sequence [.anchor (.wordEdge .every), p, .anchor (.wordEdge .every)]) before found
        after ↔ found = word ∧ (∀ c ∈ before.getLast?, isWord c = false) ∧
      ∀ c ∈ after.head?, isWord c = false := by
  obtain ⟨hne, hall⟩ := hword
  have hfirst : (word ++ after).head? = some (word.head hne) := by
    rw [List.head?_append, List.head?_eq_some_head hne, Option.some_or]
  have hlast : (before ++ word).getLast? = some (word.getLast hne) := by
    rw [List.getLast?_append, List.getLast?_eq_some_getLast hne, Option.some_or]
  have hstart := holds_wordEdge_in_front_iff (hall _ (List.head_mem hne))
  have hend := holds_wordEdge_behind_iff (hall _ (List.getLast_mem hne))
  simp only [Regex.sequence, Matches.seq_iff, Matches.anchor_iff, hp _ _ _]
  constructor
  · rintro ⟨_, _, rfl, ⟨rfl, hbefore⟩, _, _, rfl, rfl, rfl, hafter⟩
    rw [List.append_nil, hfirst, hstart] at hbefore
    rw [List.append_nil, hlast, hend] at hafter
    exact ⟨by simp, hbefore, hafter⟩
  · rintro ⟨rfl, hbefore, hafter⟩
    refine ⟨[], found, rfl, ⟨rfl, ?_⟩, found, [], by simp, rfl, rfl, ?_⟩
    · rwa [hfirst, hstart]
    · rwa [List.append_nil, hlast, hend]

/-- A word between two edges occurs where it stands as a whole word. -/
theorem occurs_between_edges_iff {p : Pattern} {word text : List Char} (hp : Means p (· = word))
    (hword : IsWordText word) :
    Occurs (.sequence [.anchor (.wordEdge .every), p, .anchor (.wordEdge .every)]) text ↔
      HasWord word text := by
  simp only [Occurs, matches_between_edges_iff hp hword]
  constructor
  · rintro ⟨before, _, after, rfl, rfl, hbefore, hafter⟩
    exact ⟨before, after, by rw [List.append_assoc], hbefore, hword.2, hafter⟩
  · rintro ⟨before, after, rfl, hbefore, -, hafter⟩
    exact ⟨before, word, after, by rw [List.append_assoc], rfl, hbefore, hafter⟩

/-- The pattern of a whole word occurs where the word stands. -/
theorem search_finalWord_iff {text : List Char} :
    finalWord.search text = true ↔ HasWord "final".toList text := by
  rw [Regex.search_eq_true_iff]
  exact occurs_between_edges_iff (means_letters "final".toList) isWordText_final

/-! ## The verdict -/

/-- The code holds a number that needs a name: a literal other than 0 and 1, at a place where one
can start. -/
def HoldsNumber (code : List Char) : Prop :=
  ∃ before rest digits, code = before ++ rest ∧ IsFresh before ∧ ReadsNumber rest digits ∧
    digits ∉ ["0", "1", "0.0", "1.0"].map String.toList

theorem startsAsComment_eq_false_iff {text : List Char} : startsAsComment text = false ↔
    ∀ mark ∈ ["//", "/*", "*"], ¬ mark.toList <+: trimStart text := by
  simp only [startsAsComment, List.any_eq_false, List.isPrefixOf_iff_prefix]

theorem any_literals_iff {code : List Char} :
    ((literals code).any fun digits => !plainNumbers.contains digits) = true ↔
      HoldsNumber code := by
  rw [literals_eq_captures, List.any_map, List.any_eq_true]
  constructor
  · rintro ⟨⟨before, digits⟩, hmem, hplain⟩
    obtain ⟨rest, hcode, hfresh, hreads⟩ := mem_captures_iff.1 hmem
    exact ⟨before, rest, digits, hcode, hfresh, hreads, by simpa [plainNumbers] using hplain⟩
  · rintro ⟨before, rest, digits, hcode, hfresh, hreads, hplain⟩
    refine ⟨(before, digits), mem_captures_iff.2 ⟨rest, hcode, hfresh, hreads⟩, ?_⟩
    simpa [plainNumbers] using hplain

theorem isSome_check_magicNumber_eq_true_iff {line : Line} :
    (LineRule.magicNumber.check line).isSome = true ↔
      startsAsComment line.text.toList = false ∧ ¬ HasWord "final".toList line.text.toList ∧
        HoldsNumber (codePart line.text.toList) := by
  rw [LineRule.isSome_check_iff, LineRule.isBroken, hasMagicNumber, Bool.and_eq_true,
    Bool.and_eq_true, Bool.not_eq_true', Bool.not_eq_true', any_literals_iff,
    ← search_finalWord_iff, Bool.not_eq_true, and_assoc]

/-- A line is reported if it is no comment, does not hold the word `final`, and its code holds a
number that needs a name. The search by a pattern finds all places where a literal starts. -/
theorem isSome_check_magicNumber_iff (line : Line) : ∃ code, IsCode code line.text.toList ∧
    ((LineRule.magicNumber.check line).isSome = true ↔
      (∀ mark ∈ ["//", "/*", "*"], ¬ mark.toList <+: trimStart line.text.toList) ∧
        ¬ HasWord "final".toList line.text.toList ∧
        ∃ before rest digits, code = before ++ rest ∧ IsFresh before ∧ ReadsNumber rest digits ∧
          digits ∉ ["0", "1", "0.0", "1.0"].map String.toList) ∧
    ∀ before digits, (before, digits) ∈ numberPattern.captures [] code ↔
      ∃ rest, code = before ++ rest ∧ IsFresh before ∧ ReadsNumber rest digits := by
  refine ⟨_, isCode_iff.2 rfl, ?_, fun before digits => mem_captures_iff⟩
  rw [isSome_check_magicNumber_eq_true_iff, startsAsComment_eq_false_iff, HoldsNumber]

/-! ## The note of a line -/

theorem ReadsNumber.exists_isDigit {text digits : List Char} (h : ReadsNumber text digits) :
    ∃ c ∈ text, isDigit c = true := by
  cases h with
  | fraction hdigits | cut hdigits | whole hdigits =>
    obtain ⟨c, hc, hdigit⟩ := hdigits.exists_getLast?
    exact ⟨c, List.mem_append_left _ (List.mem_of_getLast? hc), hdigit⟩

/-- Code that holds a number is not blank. -/
theorem HoldsNumber.trimStart_ne_nil {code : List Char} (h : HoldsNumber code) :
    trimStart code ≠ [] := by
  obtain ⟨before, rest, digits, rfl, -, hreads, -⟩ := h
  obtain ⟨c, hc, hdigit⟩ := hreads.exists_isDigit
  intro hnil
  have hblank := List.dropWhile_eq_nil_iff.1 hnil c (List.mem_append_right _ hc)
  rw [not_isBlank_of_isWord (isWord_of_isDigit hdigit)] at hblank
  cases hblank

/-- A note makes no comment of a line with code in front of it. -/
theorem IsCut.startsAsComment_eq {code note text : List Char} (h : IsCut code note text)
    (hne : trimStart code ≠ []) : startsAsComment text = startsAsComment code := by
  obtain ⟨rfl, hmark⟩ := h
  obtain ⟨c, rest, hcode⟩ := List.exists_cons_of_ne_nil hne
  have htext : trimStart (code ++ '/' :: '/' :: note) = c :: (rest ++ '/' :: '/' :: note) := by
    rw [trimStart, List.dropWhile_append, ← trimStart, hcode]
    rfl
  rw [startsAsComment, startsAsComment, htext, hcode]
  cases rest with
  | nil =>
    -- The code ends here, and not with a slash, which would be the first of the mark.
    have hslash : c ≠ '/' := by
      rintro rfl
      have hend : ['/'] <:+ code := hcode ▸ List.dropWhile_suffix isBlank
      exact hmark ((List.suffix_append_self_iff.2 hend).isInfix)
    have hmarks : "//".toList = ['/', '/'] ∧ "/*".toList = ['/', '*'] ∧ "*".toList = ['*'] :=
      ⟨rfl, rfl, rfl⟩
    simp [hmarks, List.isPrefixOf, hslash.symm]
  | cons d rest => rfl

/-- The word `final` stands in the code or in the note of a line. -/
theorem IsCut.hasWord_final_iff {code note text : List Char} (h : IsCut code note text) :
    HasWord "final".toList text ↔ HasWord "final".toList code ∨ HasWord "final".toList note := by
  have hslash : isWord '/' = false := by decide
  have hmark : '/' :: note = [] ++ '/' :: note := rfl
  rw [h.1, hasWord_append_cons_iff isWordText_final.1 hslash, hmark,
    hasWord_append_cons_iff isWordText_final.1 hslash,
    or_iff_right (not_hasWord_nil isWordText_final.1)]

theorem IsCut.codePart_code {code note text : List Char} (h : IsCut code note text) :
    codePart code = code := by
  have hcode : ¬ noteMark <:+: code :=
    mt (List.IsInfix.trans · (List.prefix_append _ _).isInfix) h.2
  exact (isCode_iff.1 (.inr ⟨hcode, rfl⟩)).symm

/-- A note decides the verdict exactly if it holds the word `final`. -/
theorem isSome_check_magicNumber_cut_iff (line : Line) {code note : List Char}
    (h : IsCut code note line.text.toList) : (LineRule.magicNumber.check line).isSome = true ↔
      (LineRule.magicNumber.check { line with text := String.ofList code }).isSome = true ∧
        ¬ HasWord "final".toList note := by
  have hcode : ({ line with text := String.ofList code } : Line).text.toList = code :=
    String.toList_ofList
  rw [isSome_check_magicNumber_eq_true_iff, isSome_check_magicNumber_eq_true_iff, hcode,
    h.codePart_eq, h.codePart_code, h.hasWord_final_iff, not_or]
  constructor
  · rintro ⟨hcomment, ⟨hfinal, hnote⟩, hholds⟩
    rw [h.startsAsComment_eq hholds.trimStart_ne_nil] at hcomment
    exact ⟨⟨hcomment, hfinal, hholds⟩, hnote⟩
  · rintro ⟨⟨hcomment, hfinal, hholds⟩, hnote⟩
    rw [← h.startsAsComment_eq hholds.trimStart_ne_nil] at hcomment
    exact ⟨hcomment, ⟨hfinal, hnote⟩, hholds⟩

theorem isCut_assignment (note : List Char) :
    IsCut "    x = 42; ".toList note ("    x = 42; ".toList ++ '/' :: '/' :: note) := by
  have hcode : "    x = 42; ".toList =
      [' ', ' ', ' ', ' ', 'x', ' ', '=', ' ', '4', '2', ';', ' '] := rfl
  refine ⟨rfl, ?_⟩
  rw [hcode]
  decide

/-- An assignment with a note. -/
def notedLine : Line := ⟨2, "    x = 42; // note", none⟩

theorem isSome_check_magicNumber_cut_iff_note :
    IsCut "    x = 42; ".toList " note".toList notedLine.text.toList ∧
      (LineRule.magicNumber.check notedLine).isSome = true := by
  have hcut : IsCut "    x = 42; ".toList " note".toList notedLine.text.toList :=
    isCut_assignment " note".toList
  have hcheck : (LineRule.magicNumber.check
      { notedLine with text := String.ofList "    x = 42; ".toList }).isSome = true := by
    decide +kernel
  have hfinal : finalWord.search " note".toList = false := by decide +kernel
  refine ⟨hcut, (isSome_check_magicNumber_cut_iff notedLine hcut).2 ⟨hcheck, ?_⟩⟩
  rw [← search_finalWord_iff, hfinal]
  decide

/-- The same assignment, with the word `final` in its note. -/
def finalNoteLine : Line := ⟨2, "    x = 42; // final answer", none⟩

/-- A note hides the number in front of it. -/
theorem not_isSome_check_magicNumber_finalNote :
    IsCut "    x = 42; ".toList " final answer".toList finalNoteLine.text.toList ∧
      ¬ ((LineRule.magicNumber.check finalNoteLine).isSome = true ↔
        (LineRule.magicNumber.check
          { finalNoteLine with text := String.ofList "    x = 42; ".toList }).isSome = true) := by
  have hline : (LineRule.magicNumber.check finalNoteLine).isSome = false := by decide +kernel
  have hcheck : (LineRule.magicNumber.check
      { finalNoteLine with text := String.ofList "    x = 42; ".toList }).isSome = true := by
    decide +kernel
  refine ⟨isCut_assignment " final answer".toList, ?_⟩
  rw [hline, hcheck]
  decide

end HouseStyle
