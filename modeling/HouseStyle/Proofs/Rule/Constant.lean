import HouseStyle.Proofs.Rule.Declaration

/-!
# Which lines name a constant in small letters

The pattern of the rule on constants puts three repetitions of words next to each other, the middle
one of the word `final`, so that one line can be read in several ways. All that matters is that
some word in front of the name is `final` (`exists_final_iff`): with the name and the initial value
behind them, these words are what the rule looks for (`isSome_check_constantCase_iff`).
-/

namespace HouseStyle

open Pattern Text

/-! ## The words in front of the name -/

/-- The word `final` with blanks behind it. -/
def IsSpacedFinal (t : List Char) : Prop :=
  ∃ blanks, t = "final".toList ++ blanks ∧ blanks ≠ [] ∧ ∀ c ∈ blanks, isBlank c = true

theorem isWordText_final : IsWordText "final".toList := by
  have hword : "final".toList = ['f', 'i', 'n', 'a', 'l'] := by cbv
  rw [hword]
  exact ⟨by decide, List.all_eq_true.1 (by decide)⟩

theorem IsSpacedFinal.isSpacedWord {t : List Char} (h : IsSpacedFinal t) : IsSpacedWord t := by
  obtain ⟨blanks, rfl, hblanks⟩ := h
  exact ⟨_, blanks, rfl, isWordText_final, hblanks⟩

theorem means_finals : Means (.plus (.seq (literal "final") (.plus (.one .blank)))) fun t =>
    ∃ parts, parts ≠ [] ∧ t = parts.flatten ∧ ∀ part ∈ parts, IsSpacedFinal part := by
  have hparts : Means (.seq (literal "final") (.plus (.one .blank))) _ :=
    (means_letters "final".toList).seq (means_plus_one .blank)
  refine (hparts.congr fun t => ?_).plus
  constructor
  · rintro ⟨_, blanks, rfl, rfl, hblanks⟩
    exact ⟨blanks, rfl, hblanks⟩
  · rintro ⟨blanks, rfl, hblanks⟩
    exact ⟨_, blanks, rfl, rfl, hblanks⟩

/-- Any number of words, each with blanks behind it. -/
theorem means_anyWords : Means (.star wordThenBlanks) fun t => ∃ words, Spaced words t := by
  refine means_words.star.congr fun t => ?_
  constructor
  · rintro (⟨words, -, hwords⟩ | rfl)
    · exact ⟨words, hwords⟩
    · exact ⟨[], .nil⟩
  · rintro ⟨words, hwords⟩
    cases hwords with
    | nil => exact .inr rfl
    | cons hword hne hblanks hwords => exact .inl ⟨_, by simp, .cons hword hne hblanks hwords⟩

/-- Words, one or more times `final`, and words again are words with `final` among them. -/
theorem exists_final_iff {body : List Char} :
    (∃ before finals after, body = before ++ (finals ++ after) ∧ (∃ words, Spaced words before) ∧
      (∃ parts, parts ≠ [] ∧ finals = parts.flatten ∧ ∀ part ∈ parts, IsSpacedFinal part) ∧
      ∃ words, Spaced words after) ↔
    ∃ words, "final".toList ∈ words ∧ Spaced words body := by
  constructor
  · rintro ⟨before, _, after, rfl, ⟨first, hfirst⟩, ⟨parts, hne, rfl, hparts⟩, second, hsecond⟩
    obtain ⟨part, parts, rfl⟩ := List.exists_cons_of_ne_nil hne
    rw [List.forall_mem_cons] at hparts
    obtain ⟨⟨blanks, rfl, hblanks, hall⟩, hparts⟩ := hparts
    obtain ⟨finals, -, hfinals⟩ :=
      exists_spaced_flatten fun part hpart => (hparts part hpart).isSpacedWord
    refine ⟨first ++ ("final".toList :: (finals ++ second)), by simp, hfirst.append ?_⟩
    have hbody := Spaced.cons isWordText_final hblanks hall (hfinals.append hsecond)
    simpa using hbody
  · rintro ⟨words, hmem, hbody⟩
    obtain ⟨first, second, rfl⟩ := List.append_of_mem hmem
    obtain ⟨before, rest, rfl, hfirst, hrest⟩ := hbody.exists_of_append
    cases hrest with
    | @cons _ blanks after _ hword hne hblanks hsecond =>
      refine ⟨before, _, after, by rw [List.append_assoc], ⟨first, hfirst⟩,
        ⟨["final".toList ++ blanks], by simp, by simp, ?_⟩, second, hsecond⟩
      rw [List.forall_mem_singleton]
      exact ⟨blanks, rfl, hne, hblanks⟩

/-! ## The name -/

/-- A word with a small ASCII letter in it. -/
def IsSmallName (t : List Char) : Prop := IsWordText t ∧ ∃ c ∈ t, 'a' ≤ c ∧ c ≤ 'z'

/-- The class of the small ASCII letters. -/
def smallLetter : CharClass := .of ⟨[(0x61, 0x7A)]⟩

theorem contains_smallLetter_iff {c : Char} :
    smallLetter.contains c = true ↔ 'a' ≤ c ∧ c ≤ 'z' := by
  have hends : ('a').toNat = 0x61 ∧ ('z').toNat = 0x7A := by decide
  rw [smallLetter, CharClass.contains, CodeSet.contains_eq_true_iff]
  simp only [List.mem_singleton, exists_eq_left, Char.le_def, UInt32.le_iff_toNat_le,
    Char.toNat_val, hends]

theorem isWord_of_smallLetter {c : Char} (h : smallLetter.contains c = true) : isWord c = true :=
  isWord_of_contains_ascii (s := ⟨[(0x61, 0x7A)]⟩) (by decide) (by decide) h

theorem means_smallLetterName : Means smallLetterName IsSmallName := by
  have hparts : Means (.sequence [.star (.one .word), .plus (.one smallLetter), .star (.one .word)])
      _ := (means_star_one .word).seq ((means_plus_one smallLetter).seq (means_star_one .word))
  refine Means.congr (p := smallLetterName) hparts fun t => ?_
  constructor
  · rintro ⟨u, _, rfl, hu, v, w, rfl, ⟨hv, hsmall⟩, hw⟩
    obtain ⟨c, hc⟩ := List.exists_mem_of_ne_nil v hv
    refine ⟨⟨by simp [hv], ?_⟩, c, by simp [hc], contains_smallLetter_iff.1 (hsmall c hc)⟩
    simp only [List.forall_mem_append]
    exact ⟨hu, fun d hd => isWord_of_smallLetter (hsmall d hd), hw⟩
  · rintro ⟨⟨-, hall⟩, c, hc, hsmall⟩
    obtain ⟨u, w, rfl⟩ := List.append_of_mem hc
    simp only [List.forall_mem_append, List.forall_mem_cons] at hall
    exact ⟨u, _, rfl, hall.1, [c], w, rfl,
      ⟨by simp, by simpa using contains_smallLetter_iff.2 hsmall⟩, hall.2.2⟩

/-! ## Constants -/

theorem occurs_smallConstant_iff {text : List Char} (h : '\n' ∉ text) :
    Occurs smallConstant text ↔ ∃ code tail words last, text = code ++ '=' :: tail ∧ ';' ∈ tail ∧
      Laid words last code ∧ "final".toList ∈ words ∧ ∃ c ∈ last, 'a' ≤ c ∧ c ≤ 'z' := by
  have hparts : Means (.sequence [.star wordThenBlanks, .plus _, .star wordThenBlanks,
      smallLetterName, initializer]) _ :=
    means_anyWords.seq (means_finals.seq (means_anyWords.seq
      (means_smallLetterName.seq means_initializer)))
  refine occurs_named_iff
    (P := fun words last => "final".toList ∈ words ∧ ∃ c ∈ last, 'a' ≤ c ∧ c ≤ 'z')
    (hparts.congr fun t => ?_) h
  constructor
  · rintro ⟨before, _, rfl, hbefore, finals, _, rfl, hfinals, after, _, rfl, hafter, last, value,
      rfl, ⟨hlast, hsmall⟩, hvalue⟩
    obtain ⟨words, hmem, hwords⟩ :=
      exists_final_iff.1 ⟨before, finals, after, rfl, hbefore, hfinals, hafter⟩
    exact ⟨words, _, last, value, by simp, hwords, ⟨hlast, hmem, hsmall⟩, hvalue⟩
  · rintro ⟨words, _, last, value, rfl, hwords, ⟨hlast, hmem, hsmall⟩, hvalue⟩
    obtain ⟨before, finals, after, rfl, hbefore, hfinals, hafter⟩ :=
      exists_final_iff.2 ⟨words, hmem, hwords⟩
    exact ⟨before, _, by simp, hbefore, finals, _, rfl, hfinals, after, _, rfl, hafter, last, value,
      rfl, ⟨hlast, hsmall⟩, hvalue⟩

/-- A line is reported if it declares a constant with a small letter in its name. -/
theorem isSome_check_constantCase_iff (line : Line) (h : '\n' ∉ line.text.toList) :
    (LineRule.constantCase.check line).isSome = true ↔
      ∃ code tail, line.text.toList = code ++ '=' :: tail ∧ '=' ∉ code ∧ ';' ∈ tail ∧
        (∀ c ∈ code, isWord c = true ∨ isBlank c = true) ∧
        ∃ words last, tokens code = words ++ [last] ∧ "final".toList ∈ words ∧
          ∃ c ∈ last, 'a' ≤ c ∧ c ≤ 'z' := by
  rw [LineRule.isSome_check_iff, LineRule.isBroken, Regex.search_eq_true_iff,
    occurs_smallConstant_iff h, exists_laid_iff]

/-- A declaration of a constant that is itself called `final`. -/
def finalLine : Line := ⟨3, "\tfinal final = 1;", none⟩

theorem isSome_check_constantCase_iff_final : '\n' ∉ finalLine.text.toList ∧
    (LineRule.constantCase.check finalLine).isSome = true := by
  have hword : "final".toList = ['f', 'i', 'n', 'a', 'l'] := rfl
  have htext : finalLine.text.toList =
      ['\t', 'f', 'i', 'n', 'a', 'l', ' ', 'f', 'i', 'n', 'a', 'l', ' '] ++
        '=' :: [' ', '1', ';'] := rfl
  have htokens : tokens ['\t', 'f', 'i', 'n', 'a', 'l', ' ', 'f', 'i', 'n', 'a', 'l', ' '] =
      [['f', 'i', 'n', 'a', 'l']] ++ [['f', 'i', 'n', 'a', 'l']] := by cbv
  have hchars : ['\t', 'f', 'i', 'n', 'a', 'l', ' ', 'f', 'i', 'n', 'a', 'l', ' '].all
      (fun c => isWord c || isBlank c) = true := by decide
  have hline : '\n' ∉ finalLine.text.toList := by
    rw [htext]
    decide
  refine ⟨hline, (isSome_check_constantCase_iff finalLine hline).2 ⟨_, _, htext, by decide,
    by decide, fun c hc => Bool.or_eq_true_iff.1 (List.all_eq_true.1 hchars c hc), _, _, htokens,
    ?_, 'f', by decide, by decide⟩⟩
  rw [hword]
  exact List.mem_singleton_self _

end HouseStyle
