import HouseStyle.Pattern.Occurrence
import HouseStyle.Proofs.Pattern.Language
import HouseStyle.Proofs.Text.Runs
import HouseStyle.Proofs.Text.Tokens
import HouseStyle.Rule.Line
import Mathlib

/-!
# Which lines declare something

The patterns of the rules on declarations look at the line up to its first equals sign. What stands
there is laid out in words, the last of which is the declared name, and a semicolon follows
somewhere behind the equals sign. So the rule on variables reports the lines without a note that
declare a name of several characters, or of one of the characters that need a note
(`isSome_check_variableComment_iff`).
-/

namespace HouseStyle

open Pattern Text

/-! ## The parts of a declaration -/

/-- A character that names a variable all by itself but is no counter. -/
def IsLoneName (c : Char) : Prop :=
  'a' ≤ c ∧ c ≤ 'h' ∨ 'l' ≤ c ∧ c ≤ 'z' ∨ 'A' ≤ c ∧ c ≤ 'Z' ∨ '0' ≤ c ∧ c ≤ '9' ∨ c = '_'

/-- The codes of these characters. -/
def loneNameRanges : List (Nat × Nat) :=
  [(0x61, 0x68), (0x6C, 0x7A), (0x41, 0x5A), (0x30, 0x39), (0x5F, 0x5F)]

/-- A word that the rule on variables takes for a name. -/
def IsVariableName (t : List Char) : Prop :=
  IsWordText t ∧ (2 ≤ t.length ∨ ∃ c, t = [c] ∧ IsLoneName c)

theorem contains_loneNameChars_iff {c : Char} :
    loneNameChars.contains c = true ↔ IsLoneName c := by
  have hranges : loneNameChars = .of ⟨loneNameRanges⟩ := rfl
  have hscore : c.toNat = 0x5F ↔ c = '_' := Char.toNat_inj (d := '_')
  rw [hranges, CharClass.contains, CodeSet.contains_eq_true_iff, IsLoneName, ← hscore]
  simp only [List.mem_cons, List.not_mem_nil, or_false, exists_eq_or_imp, exists_eq_left,
    loneNameRanges, Char.le_def, UInt32.le_iff_toNat_le, Char.toNat_val]
  have hends : ('a').toNat = 0x61 ∧ ('h').toNat = 0x68 ∧ ('l').toNat = 0x6C ∧ ('z').toNat = 0x7A
      ∧ ('A').toNat = 0x41 ∧ ('Z').toNat = 0x5A ∧ ('0').toNat = 0x30 ∧ ('9').toNat = 0x39 := by
    decide
  omega

theorem lt_of_contains {s : CodeSet} {k : Nat} (hs : ∀ r ∈ s.ranges, r.2 < k) {c : Char}
    (h : s.contains c = true) : c.toNat < k := by
  obtain ⟨r, hr, -, hle⟩ := CodeSet.contains_eq_true_iff.1 h
  exact Nat.lt_of_le_of_lt hle (hs r hr)

/-- A set of ASCII characters holds word characters only, if this is so up to its last code. -/
theorem isWord_of_contains_ascii {s : CodeSet} (hs : ∀ r ∈ s.ranges, r.2 < 0x80)
    (hall : ∀ n < 0x80, s.contains (Char.ofNat n) = true → isWord (Char.ofNat n) = true) {c : Char}
    (h : s.contains c = true) : isWord c = true := by
  simpa [h] using hall c.toNat (lt_of_contains hs h)

theorem isWord_of_isLoneName {c : Char} (h : IsLoneName c) : isWord c = true :=
  isWord_of_contains_ascii (s := ⟨loneNameRanges⟩) (by decide) (by decide)
    (contains_loneNameChars_iff.2 h)

/-- A word with blanks behind it. -/
def IsSpacedWord (t : List Char) : Prop :=
  ∃ word blanks, t = word ++ blanks ∧ IsWordText word ∧
    (blanks ≠ [] ∧ ∀ c ∈ blanks, isBlank c = true)

theorem means_wordThenBlanks : Means wordThenBlanks IsSpacedWord :=
  (means_plus_one .word).seq (means_plus_one .blank)

theorem exists_spaced_flatten {parts : List (List Char)} (h : ∀ part ∈ parts, IsSpacedWord part) :
    ∃ words, words.length = parts.length ∧ Spaced words parts.flatten := by
  induction parts with
  | nil => exact ⟨[], rfl, .nil⟩
  | cons part parts ih =>
    rw [List.forall_mem_cons] at h
    obtain ⟨word, blanks, rfl, hword, hne, hblanks⟩ := h.1
    obtain ⟨words, hlength, hwords⟩ := ih h.2
    refine ⟨word :: words, by simp [hlength], ?_⟩
    rw [List.flatten_cons, List.append_assoc]
    exact .cons hword hne hblanks hwords

theorem exists_parts_of_spaced {words : List (List Char)} {text : List Char}
    (h : Spaced words text) : ∃ parts : List (List Char), parts.length = words.length ∧
      text = parts.flatten ∧ ∀ part ∈ parts, IsSpacedWord part := by
  induction h with
  | nil => exact ⟨[], rfl, rfl, by simp⟩
  | @cons word blanks text words hword hne hblanks _ ih =>
    obtain ⟨parts, hlength, rfl, hparts⟩ := ih
    exact ⟨(word ++ blanks) :: parts, by simp [hlength], by simp,
      List.forall_mem_cons.2 ⟨⟨word, blanks, rfl, hword, hne, hblanks⟩, hparts⟩⟩

/-- At least one word, each with blanks behind it. -/
theorem means_words :
    Means (.plus wordThenBlanks) fun t => ∃ words, words ≠ [] ∧ Spaced words t := by
  intro before found after
  rw [means_wordThenBlanks.plus]
  constructor
  · rintro ⟨parts, hne, rfl, hparts⟩
    obtain ⟨words, hlength, hwords⟩ := exists_spaced_flatten hparts
    exact ⟨words, by simpa [← List.length_pos_iff, hlength] using hne, hwords⟩
  · rintro ⟨words, hne, hwords⟩
    obtain ⟨parts, hlength, hfound, hparts⟩ := exists_parts_of_spaced hwords
    exact ⟨parts, by simpa [← List.length_pos_iff, hlength] using hne, hfound, hparts⟩

theorem means_name : Means (.alt (.one loneNameChars) (.seq (.one .word) (.plus (.one .word))))
    IsVariableName := by
  intro before found after
  rw [(means_one _).alt ((means_one _).seq (means_plus_one _))]
  simp only [contains_loneNameChars_iff]
  constructor
  · rintro (⟨c, rfl, hc⟩ | ⟨u, v, rfl, ⟨c, rfl, hc⟩, hv, hall⟩)
    · exact ⟨⟨by simp, by simpa using isWord_of_isLoneName hc⟩, .inr ⟨c, rfl, hc⟩⟩
    · have hlength := List.length_pos_iff.2 hv
      exact ⟨⟨by simp, List.forall_mem_cons.2 ⟨hc, hall⟩⟩, .inl (by simp; omega)⟩
  · rintro ⟨⟨-, hall⟩, hlength | ⟨c, rfl, hc⟩⟩
    · match found, hlength with
      | c :: d :: rest, _ =>
        rw [List.forall_mem_cons] at hall
        exact .inr ⟨[c], d :: rest, rfl, ⟨c, rfl, hall.1⟩, by simp, hall.2⟩
    · exact .inl ⟨c, rfl, hc⟩

/-- An equals sign between blanks, and anything on the same line up to a semicolon. -/
def IsInitializer (t : List Char) : Prop :=
  ∃ gap lead value, t = gap ++ '=' :: (lead ++ (value ++ [';'])) ∧
    (∀ c ∈ gap, isBlank c = true) ∧ (∀ c ∈ lead, isBlank c = true) ∧ '\n' ∉ value

theorem means_initializer : Means initializer IsInitializer := by
  have hparts : Means initializer _ :=
    (means_star_one .blank).seq ((means_one (.single '=')).seq
      ((means_star_one .blank).seq ((means_star_one .notNewline).seq (means_one (.single ';')))))
  intro before found after
  rw [hparts]
  constructor
  · rintro ⟨gap, _, rfl, hgap, _, _, rfl, ⟨c, rfl, hc⟩, lead, _, rfl, hlead, value, _, rfl, hvalue,
      d, rfl, hd⟩
    rw [CharClass.contains_single, beq_iff_eq] at hc hd
    subst hc hd
    refine ⟨gap, lead, value, rfl, hgap, hlead, fun hmem => ?_⟩
    simpa [CharClass.notNewline, CharClass.contains] using hvalue _ hmem
  · rintro ⟨gap, lead, value, rfl, hgap, hlead, hvalue⟩
    refine ⟨gap, _, rfl, hgap, ['='], _, rfl, ⟨'=', rfl, by simp⟩, lead, _, rfl, hlead, value, _,
      rfl, ?_, ';', rfl, by simp⟩
    intro c hc
    have hne : c ≠ '\n' := fun h => hvalue (h ▸ hc)
    simpa [CharClass.notNewline, CharClass.contains] using hne

/-! ## Declarations -/

/-- A pattern for words, a name and an initial value at the start of a text: it looks at the text
up to the first equals sign, whose last word is the name. -/
theorem occurs_named_iff {p : Pattern} {ps : List Pattern}
    {P : List (List Char) → List Char → Prop}
    (hp : Means (.sequence (p :: ps)) fun t => ∃ words body last value,
      t = body ++ (last ++ value) ∧ Spaced words body ∧ (IsWordText last ∧ P words last) ∧
        IsInitializer value)
    {text : List Char} (h : '\n' ∉ text) :
    Occurs (.sequence (.anchor .textStart :: .star (.one .blank) :: p :: ps)) text ↔
      ∃ code tail words last, text = code ++ '=' :: tail ∧ ';' ∈ tail ∧ Laid words last code ∧
        P words last := by
  have hparts : Means (.sequence (.star (.one .blank) :: p :: ps)) _ :=
    (means_star_one .blank).seq hp
  rw [hparts.occurs_iff (by simp)]
  constructor
  · rintro ⟨_, after, rfl, lead, _, rfl, hlead, words, body, last, _, rfl, hbody, ⟨hlast, hP⟩, gap,
      inner, value, rfl, hgap, hinner, hvalue⟩
    exact ⟨lead ++ (body ++ (last ++ gap)), inner ++ (value ++ ';' :: after), words, last, by simp,
      by simp, ⟨lead, body, gap, rfl, hlead, hbody, hlast, hgap⟩, hP⟩
  · rintro ⟨_, tail, words, last, rfl, htail, ⟨lead, body, gap, rfl, hlead, hbody, hlast, hgap⟩, hP⟩
    obtain ⟨value, after, rfl⟩ := List.append_of_mem htail
    refine ⟨lead ++ (body ++ (last ++ (gap ++ '=' :: (value ++ [';'])))), after, by simp, lead, _,
      rfl, hlead, words, body, last, _, rfl, hbody, ⟨hlast, hP⟩, gap, [], value, rfl, hgap, by simp,
      ?_⟩
    exact fun hmem => h (by simp [hmem])

theorem occurs_declaration_iff {text : List Char} (h : '\n' ∉ text) :
    Occurs declaration text ↔ ∃ code tail words last, text = code ++ '=' :: tail ∧ ';' ∈ tail ∧
      Laid words last code ∧ words ≠ [] ∧ IsVariableName last := by
  have hparts : Means (.sequence [.plus wordThenBlanks, _, initializer]) _ :=
    means_words.seq (means_name.seq means_initializer)
  refine occurs_named_iff (P := fun words last => words ≠ [] ∧ IsVariableName last)
    (hparts.congr fun t => ?_) h
  constructor
  · rintro ⟨body, _, rfl, ⟨words, hne, hbody⟩, last, value, rfl, hlast, hvalue⟩
    exact ⟨words, body, last, value, rfl, hbody, ⟨hlast.1, hne, hlast⟩, hvalue⟩
  · rintro ⟨words, body, last, value, rfl, hbody, ⟨-, hne, hlast⟩, hvalue⟩
    exact ⟨body, _, rfl, ⟨words, hne, hbody⟩, last, value, rfl, hlast, hvalue⟩

theorem not_mem_of_laid {words : List (List Char)} {last code : List Char}
    (h : Laid words last code) : '=' ∉ code := by
  intro hmem
  have := h.isWord_or_isBlank _ hmem
  revert this
  decide

/-- What stands in front of the first equals sign is laid out in its tokens. -/
theorem exists_laid_iff {text : List Char} {P : List (List Char) → List Char → Prop} :
    (∃ code tail words last, text = code ++ '=' :: tail ∧ ';' ∈ tail ∧ Laid words last code ∧
      P words last) ↔
    ∃ code tail, text = code ++ '=' :: tail ∧ '=' ∉ code ∧ ';' ∈ tail ∧
      (∀ c ∈ code, isWord c = true ∨ isBlank c = true) ∧
      ∃ words last, tokens code = words ++ [last] ∧ P words last := by
  constructor
  · rintro ⟨code, tail, words, last, htext, htail, hlaid, hP⟩
    exact ⟨code, tail, htext, not_mem_of_laid hlaid, htail, hlaid.isWord_or_isBlank, words, last,
      hlaid.tokens_eq, hP⟩
  · rintro ⟨code, tail, htext, -, htail, hchars, words, last, htokens, hP⟩
    exact ⟨code, tail, words, last, htext, htail, laid_iff.2 ⟨hchars, htokens⟩, hP⟩

theorem LineRule.isSome_check_iff {r : LineRule} {line : Line} :
    (r.check line).isSome = true ↔ r.isBroken line = true := by
  cases h : r.isBroken line <;> simp [check, h]

/-- A line without a note is reported if it declares a variable other than a counter. -/
theorem isSome_check_variableComment_iff (line : Line) (h : '\n' ∉ line.text.toList) :
    (LineRule.variableComment.check line).isSome = true ↔
      ¬ ['/', '/'] <:+: line.text.toList ∧
      ∃ code tail, line.text.toList = code ++ '=' :: tail ∧ '=' ∉ code ∧ ';' ∈ tail ∧
        (∀ c ∈ code, isWord c = true ∨ isBlank c = true) ∧
        2 ≤ (tokens code).length ∧ ∃ last, (tokens code).getLast? = some last ∧
          (2 ≤ last.length ∨ ∃ c, last = [c] ∧ IsLoneName c) := by
  have hnote : hasNote line.text.toList = false ↔ ¬ ['/', '/'] <:+: line.text.toList := by
    rw [← Bool.not_eq_true, hasNote, contains_eq_true_iff, noteMark]
  have hreport : (LineRule.variableComment.check line).isSome = true ↔
      Occurs declaration line.text.toList ∧ hasNote line.text.toList = false := by
    rw [← Regex.search_eq_true_iff]
    simp [LineRule.check, LineRule.isBroken]
  rw [hreport, hnote, and_comm, occurs_declaration_iff h]
  refine and_congr_right fun _ => exists_congr fun code => exists_congr fun tail => ?_
  constructor
  · rintro ⟨words, last, htext, htail, hlaid, hne, -, hlast⟩
    have hsign : '=' ∉ code := fun hmem => by
      have := hlaid.isWord_or_isBlank _ hmem
      revert this
      decide
    have hlength := List.length_pos_iff.2 hne
    refine ⟨htext, hsign, htail, hlaid.isWord_or_isBlank, ?_, last, ?_, hlast⟩
    · rw [hlaid.tokens_eq, List.length_append, List.length_singleton]
      omega
    · rw [hlaid.tokens_eq, List.getLast?_concat]
  · rintro ⟨htext, -, htail, hchars, hlength, last, hget, hlast⟩
    obtain ⟨words, htokens⟩ := List.getLast?_eq_some_iff.1 hget
    have hlaid := laid_iff.2 ⟨hchars, htokens⟩
    rw [htokens, List.length_append, List.length_singleton] at hlength
    have hne : words ≠ [] := List.length_pos_iff.1 (by omega)
    exact ⟨words, last, htext, htail, hlaid, hne, hlaid.isWordText, hlast⟩

/-- A declaration of a name of two Greek letters. -/
def greekLine : Line := ⟨7, "final int \u03C8\u03C5 = 2;", none⟩

theorem isSome_check_variableComment_iff_greek : '\n' ∉ greekLine.text.toList ∧
    (LineRule.variableComment.check greekLine).isSome = true := by
  have htext : greekLine.text.toList = ['f', 'i', 'n', 'a', 'l', ' ', 'i', 'n', 't', ' ', '\u03C8',
      '\u03C5', ' '] ++ '=' :: [' ', '2', ';'] := by cbv
  have htokens : tokens ['f', 'i', 'n', 'a', 'l', ' ', 'i', 'n', 't', ' ', '\u03C8', '\u03C5', ' ']
      = [['f', 'i', 'n', 'a', 'l'], ['i', 'n', 't'], ['\u03C8', '\u03C5']] := by decide +kernel
  have hchars : ['f', 'i', 'n', 'a', 'l', ' ', 'i', 'n', 't', ' ', '\u03C8', '\u03C5', ' '].all
      (fun c => isWord c || isBlank c) = true := by decide +kernel
  have hline : '\n' ∉ greekLine.text.toList := by
    rw [htext]
    decide
  refine ⟨hline, (isSome_check_variableComment_iff greekLine hline).2 ?_⟩
  rw [htext]
  refine ⟨by decide, _, _, rfl, by decide, by decide,
    fun c hc => Bool.or_eq_true_iff.1 (List.all_eq_true.1 hchars c hc), ?_, ['\u03C8', '\u03C5'],
    ?_, .inl (by decide)⟩
  · rw [htokens]
    decide
  · rw [htokens]
    rfl

/-! ## Counters -/

/-- The names of counters. -/
def counters : List (List Char) := [['i'], ['j'], ['k']]

theorem isLoneName_iff {c : Char} (h : isWord c = true) :
    IsLoneName c ↔ [c] ∉ counters ∧ c.toNat < 0x80 := by
  by_cases hlt : c.toNat < 0x80
  · have hall : ∀ n < 0x80, isWord (Char.ofNat n) = true →
        (loneNameChars.contains (Char.ofNat n) = true ↔ [Char.ofNat n] ∉ counters) := by decide
    have hc := hall c.toNat hlt
    rw [Char.ofNat_toNat] at hc
    rw [← contains_loneNameChars_iff, hc h, and_iff_left hlt]
  · have hlone : ¬ IsLoneName c := fun hc =>
      hlt (lt_of_contains (s := ⟨loneNameRanges⟩) (by decide) (contains_loneNameChars_iff.2 hc))
    exact iff_of_false hlone fun hc => hlt hc.2

/-- All words name variables but the counters and the single characters beyond ASCII. -/
theorem isVariableName_iff {t : List Char} (h : IsWordText t) :
    IsVariableName t ↔ t ∉ counters ∧ ¬ ∃ c, t = [c] ∧ 0x80 ≤ c.toNat := by
  match t, h with
  | [], h => exact absurd rfl h.1
  | [c], h => simp [IsVariableName, h, isLoneName_iff (h.2 c (List.mem_singleton_self c))]
  | c :: d :: t, h => simp [IsVariableName, h, counters]

/-- Whether a line that is laid out in words declares a variable depends on the last word only. -/
theorem occurs_declaration_iff_of_laid {text code tail last : List Char} {words : List (List Char)}
    (h : '\n' ∉ text) (htext : text = code ++ '=' :: tail) (htail : ';' ∈ tail)
    (hlaid : Laid words last code) (hne : words ≠ []) :
    Occurs declaration text ↔ IsVariableName last := by
  rw [occurs_declaration_iff h]
  constructor
  · rintro ⟨code', tail', words', last', htext', -, hlaid', -, hlast'⟩
    have hcode : code' = code := by
      rw [← takeWhile_append_of_not_mem (not_mem_of_laid hlaid') tail', ← htext', htext,
        takeWhile_append_of_not_mem (not_mem_of_laid hlaid)]
    have htokens : words' ++ [last'] = words ++ [last] := by
      rw [← hlaid'.tokens_eq, hcode, hlaid.tokens_eq]
    rwa [← List.singleton_inj.1 (List.append_inj' htokens rfl).2]
  · exact fun hlast => ⟨code, tail, words, last, htext, htail, hlaid, hne, hlast⟩

/-- Of the lines without a note that declare something, those are left out whose name is a counter
or a single character beyond ASCII. -/
theorem isSome_check_variableComment_name_iff (line : Line) {code tail name : List Char}
    (hline : '\n' ∉ line.text.toList) (hnote : ¬ ['/', '/'] <:+: line.text.toList)
    (htext : line.text.toList = code ++ '=' :: tail) (htail : ';' ∈ tail)
    (hchars : ∀ c ∈ code, isWord c = true ∨ isBlank c = true) (htokens : 2 ≤ (tokens code).length)
    (hname : (tokens code).getLast? = some name) :
    (LineRule.variableComment.check line).isSome = true ↔
      name ∉ counters ∧ ¬ ∃ c, name = [c] ∧ 0x80 ≤ c.toNat := by
  obtain ⟨words, hwords⟩ := List.getLast?_eq_some_iff.1 hname
  have hlaid : Laid words name code := laid_iff.2 ⟨hchars, hwords⟩
  have hne : words ≠ [] := by
    rw [hwords, List.length_append, List.length_singleton] at htokens
    exact List.length_pos_iff.1 (by omega)
  have hclean : hasNote line.text.toList = false := by
    rwa [← Bool.not_eq_true, hasNote, contains_eq_true_iff]
  rw [LineRule.isSome_check_iff, LineRule.isBroken, hclean, Bool.not_false, Bool.and_true,
    Regex.search_eq_true_iff, occurs_declaration_iff_of_laid hline htext htail hlaid hne,
    isVariableName_iff hlaid.isWordText]

/-- A declaration of a variable with the shortest name that is no letter. -/
def scoreLine : Line := ⟨4, "int _ = i;", none⟩

theorem isSome_check_variableComment_name_iff_score : '\n' ∉ scoreLine.text.toList ∧
    ¬ ['/', '/'] <:+: scoreLine.text.toList ∧
    (LineRule.variableComment.check scoreLine).isSome = true := by
  have htext : scoreLine.text.toList = ['i', 'n', 't', ' ', '_', ' '] ++ '=' :: [' ', 'i', ';'] :=
    rfl
  have htokens : tokens ['i', 'n', 't', ' ', '_', ' '] = [['i', 'n', 't'], ['_']] := by cbv
  have hchars : ['i', 'n', 't', ' ', '_', ' '].all (fun c => isWord c || isBlank c) = true := by
    decide
  have hline : '\n' ∉ scoreLine.text.toList := by
    rw [htext]
    decide
  have hnote : ¬ ['/', '/'] <:+: scoreLine.text.toList := by
    rw [htext]
    decide
  have hlength : 2 ≤ (tokens ['i', 'n', 't', ' ', '_', ' ']).length := by
    rw [htokens]
    decide
  have hname : (tokens ['i', 'n', 't', ' ', '_', ' ']).getLast? = some ['_'] := by
    rw [htokens]
    rfl
  refine ⟨hline, hnote, (isSome_check_variableComment_name_iff scoreLine hline hnote htext
    (by decide) (fun c hc => Bool.or_eq_true_iff.1 (List.all_eq_true.1 hchars c hc)) hlength
    hname).2 ⟨by decide, ?_⟩⟩
  rintro ⟨c, hc, hle⟩
  rw [← List.singleton_inj.1 hc] at hle
  revert hle
  decide

/-- A declaration of a variable with a name of one letter beyond ASCII. -/
def accentLine : Line := ⟨1, "int \u00E9 = 2;", none⟩

/-- A name of one letter beyond ASCII is taken for a counter. -/
theorem not_isSome_check_variableComment_accent : '\n' ∉ accentLine.text.toList ∧
    ¬ ['/', '/'] <:+: accentLine.text.toList ∧
    accentLine.text.toList = ['i', 'n', 't', ' ', '\u00E9', ' '] ++ '=' :: [' ', '2', ';'] ∧
    ['i', 'n', 't', ' ', '\u00E9', ' '].all (fun c => isWord c || isBlank c) = true ∧
    tokens ['i', 'n', 't', ' ', '\u00E9', ' '] = [['i', 'n', 't'], ['\u00E9']] ∧
    ¬ ((LineRule.variableComment.check accentLine).isSome = true ↔ ['\u00E9'] ∉ counters) := by
  have htext : accentLine.text.toList =
      ['i', 'n', 't', ' ', '\u00E9', ' '] ++ '=' :: [' ', '2', ';'] := rfl
  have hcheck : (LineRule.variableComment.check accentLine).isSome = false := by decide +kernel
  refine ⟨?_, ?_, htext, by decide +kernel, by cbv, ?_⟩
  · rw [htext]
    decide
  · rw [htext]
    decide
  · rw [hcheck]
    decide

end HouseStyle
