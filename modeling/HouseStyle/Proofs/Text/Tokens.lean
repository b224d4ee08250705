import HouseStyle.Text.Word

/-!
# The tokens of a text

The tokens of a text are the pieces between its blanks. A text in which every word has blanks behind
it consists of its tokens in an obvious way (`Spaced`), and a text of words and blanks is one of
these up to its last token (`laid_iff`).
-/

namespace HouseStyle.Text

/-- The pieces of a text between its blanks, without the empty ones. -/
def tokens (text : List Char) : List (List Char) := (text.splitOnP isBlank).filter (· ≠ [])

/-- Tokens end at every blank. -/
theorem tokens_append_cons {c : Char} (hc : isBlank c = true) (x y : List Char) :
    tokens (x ++ c :: y) = tokens x ++ tokens y := by
  rw [tokens, List.splitOnP_append_cons x y hc, List.filter_append, tokens, tokens]

@[simp] theorem tokens_nil : tokens [] = [] := by simp [tokens, List.splitOnP_nil]

theorem tokens_blanks_append {blanks : List Char} (h : ∀ c ∈ blanks, isBlank c = true)
    (y : List Char) : tokens (blanks ++ y) = tokens y := by
  induction blanks with
  | nil => rfl
  | cons c blanks ih =>
    rw [List.forall_mem_cons] at h
    exact (tokens_append_cons h.1 [] (blanks ++ y)).trans (ih h.2)

theorem tokens_append_blanks {blanks : List Char} (h : ∀ c ∈ blanks, isBlank c = true)
    (x : List Char) : tokens (x ++ blanks) = tokens x := by
  cases blanks with
  | nil => rw [List.append_nil]
  | cons c blanks =>
    rw [List.forall_mem_cons] at h
    have hblanks := tokens_blanks_append h.2 []
    rw [List.append_nil] at hblanks
    rw [tokens_append_cons h.1, hblanks, tokens_nil, List.append_nil]

/-- A text of word characters, at least one. -/
def IsWordText (t : List Char) : Prop := t ≠ [] ∧ ∀ c ∈ t, isWord c = true

theorem not_isBlank_of_isWord {c : Char} (h : isWord c = true) : isBlank c = false := by
  rw [Bool.eq_false_iff]
  intro hc
  rw [not_isWord_of_isBlank hc] at h
  cases h

theorem IsWordText.tokens_eq {t : List Char} (h : IsWordText t) : tokens t = [t] := by
  rw [tokens, List.splitOnP_eq_singleton fun c hc => not_isBlank_of_isWord (h.2 c hc)]
  simp [h.1]

/-- A text that consists of the given words, each with blanks behind it. -/
inductive Spaced : List (List Char) → List Char → Prop where
  | nil : Spaced [] []
  /-- A word and its blanks may stand in front of other words. -/
  | cons {word blanks text : List Char} {words : List (List Char)} (hword : IsWordText word)
      (hne : blanks ≠ []) (hblanks : ∀ c ∈ blanks, isBlank c = true) (h : Spaced words text) :
      Spaced (word :: words) (word ++ (blanks ++ text))

namespace Spaced

theorem isWordText {words : List (List Char)} {text : List Char} (h : Spaced words text) :
    ∀ word ∈ words, IsWordText word := by
  induction h with
  | nil => simp
  | cons hword _ _ _ ih => simpa [hword] using ih

/-- The tokens of a spaced text are its words. -/
theorem tokens_append {words : List (List Char)} {text : List Char} (h : Spaced words text)
    (y : List Char) : tokens (text ++ y) = words ++ tokens y := by
  induction h with
  | nil => rfl
  | @cons word blanks text words hword hne hblanks _ ih =>
    obtain ⟨c, blanks, rfl⟩ := List.exists_cons_of_ne_nil hne
    rw [List.forall_mem_cons] at hblanks
    rw [List.append_assoc, List.append_assoc, List.cons_append, tokens_append_cons hblanks.1,
      tokens_blanks_append hblanks.2, ih, hword.tokens_eq]
    rfl

theorem isWord_or_isBlank {words : List (List Char)} {text : List Char} (h : Spaced words text) :
    ∀ c ∈ text, isWord c = true ∨ isBlank c = true := by
  induction h with
  | nil => simp
  | cons hword _ hblanks _ ih =>
    simp only [List.forall_mem_append]
    exact ⟨fun c hc => .inl (hword.2 c hc), fun c hc => .inr (hblanks c hc), ih⟩

/-- Two spaced texts make up one. -/
theorem append {words more : List (List Char)} {text rest : List Char} (h : Spaced words text)
    (hrest : Spaced more rest) : Spaced (words ++ more) (text ++ rest) := by
  induction h with
  | nil => exact hrest
  | cons hword hne hblanks _ ih => simpa using cons hword hne hblanks ih

/-- A spaced text can be cut behind any of its words. -/
theorem exists_of_append {words more : List (List Char)} {text : List Char}
    (h : Spaced (words ++ more) text) :
    ∃ front rest, text = front ++ rest ∧ Spaced words front ∧ Spaced more rest := by
  induction words generalizing text with
  | nil => exact ⟨[], text, rfl, .nil, h⟩
  | cons word words ih =>
    cases h with
    | @cons _ blanks text _ hword hne hblanks h =>
      obtain ⟨front, rest, rfl, hfront, hrest⟩ := ih h
      exact ⟨_, rest, by simp, .cons hword hne hblanks hfront, hrest⟩

end Spaced

/-- A text that consists of the given words, each with blanks behind it, and a last word, between
blanks. -/
def Laid (words : List (List Char)) (last text : List Char) : Prop :=
  ∃ lead body gap, text = lead ++ (body ++ (last ++ gap)) ∧ (∀ c ∈ lead, isBlank c = true) ∧
    Spaced words body ∧ IsWordText last ∧ ∀ c ∈ gap, isBlank c = true

theorem Laid.tokens_eq {words : List (List Char)} {last text : List Char}
    (h : Laid words last text) : tokens text = words ++ [last] := by
  obtain ⟨lead, body, gap, rfl, hlead, hbody, hlast, hgap⟩ := h
  rw [tokens_blanks_append hlead, hbody.tokens_append, tokens_append_blanks hgap, hlast.tokens_eq]

theorem Laid.isWord_or_isBlank {words : List (List Char)} {last text : List Char}
    (h : Laid words last text) : ∀ c ∈ text, isWord c = true ∨ isBlank c = true := by
  obtain ⟨lead, body, gap, rfl, hlead, hbody, hlast, hgap⟩ := h
  simp only [List.forall_mem_append]
  exact ⟨fun c hc => .inr (hlead c hc), hbody.isWord_or_isBlank, fun c hc => .inl (hlast.2 c hc),
    fun c hc => .inr (hgap c hc)⟩

theorem Laid.isWordText {words : List (List Char)} {last text : List Char}
    (h : Laid words last text) : IsWordText last := by
  obtain ⟨-, -, -, -, -, -, hlast, -⟩ := h
  exact hlast

theorem Laid.cons_blank {c : Char} {words : List (List Char)} {last text : List Char}
    (h : Laid words last text) (hc : isBlank c = true) : Laid words last (c :: text) := by
  obtain ⟨lead, body, gap, rfl, hlead, h⟩ := h
  exact ⟨c :: lead, body, gap, rfl, List.forall_mem_cons.2 ⟨hc, hlead⟩, h⟩

/-- A word character in front becomes part of the first word, or is one by itself. -/
theorem Laid.cons_word {c : Char} {words : List (List Char)} {last text : List Char}
    (h : Laid words last text) (hc : isWord c = true) :
    ∃ words' last', Laid words' last' (c :: text) := by
  obtain ⟨lead, body, gap, rfl, hlead, hbody, hlast, hgap⟩ := h
  by_cases hne : lead = []
  · subst hne
    cases hbody with
    | nil =>
      have hword : IsWordText (c :: last) := ⟨by simp, List.forall_mem_cons.2 ⟨hc, hlast.2⟩⟩
      exact ⟨[], c :: last, [], [], gap, rfl, by simp, .nil, hword, hgap⟩
    | @cons word blanks text words hword hne hblanks hbody =>
      have hword : IsWordText (c :: word) := ⟨by simp, List.forall_mem_cons.2 ⟨hc, hword.2⟩⟩
      exact ⟨(c :: word) :: words, last, [], _, gap, rfl, by simp,
        .cons hword hne hblanks hbody, hlast, hgap⟩
  · have hword : IsWordText [c] := ⟨by simp, by simpa using hc⟩
    exact ⟨[c] :: words, last, [], _, gap, by simp, by simp, .cons hword hne hlead hbody, hlast,
      hgap⟩

/-- A text of words and blanks is blank or laid out in words. -/
theorem blank_or_exists_laid {text : List Char}
    (h : ∀ c ∈ text, isWord c = true ∨ isBlank c = true) :
    (∀ c ∈ text, isBlank c = true) ∨ ∃ words last, Laid words last text := by
  induction text with
  | nil => exact .inl (by simp)
  | cons c text ih =>
    rw [List.forall_mem_cons] at h
    rcases ih h.2 with hblank | ⟨words, last, hlaid⟩
    · rcases h.1 with hc | hc
      · exact .inr ⟨[], [c], [], [], text, rfl, by simp, .nil, ⟨by simp, by simpa using hc⟩, hblank⟩
      · exact .inl (List.forall_mem_cons.2 ⟨hc, hblank⟩)
    · rcases h.1 with hc | hc
      · exact .inr (hlaid.cons_word hc)
      · exact .inr ⟨words, last, hlaid.cons_blank hc⟩

/-- A text is laid out in its tokens, if it holds nothing but words and blanks. -/
theorem laid_iff {words : List (List Char)} {last text : List Char} : Laid words last text ↔
    (∀ c ∈ text, isWord c = true ∨ isBlank c = true) ∧ tokens text = words ++ [last] := by
  constructor
  · intro h
    exact ⟨h.isWord_or_isBlank, h.tokens_eq⟩
  · rintro ⟨hchars, htokens⟩
    rcases blank_or_exists_laid hchars with hblank | ⟨words', last', hlaid⟩
    · have hnone := tokens_append_blanks hblank []
      rw [List.nil_append, tokens_nil, htokens] at hnone
      simp at hnone
    · have heq := hlaid.tokens_eq.symm.trans htokens
      obtain ⟨rfl, hlast⟩ := List.append_inj' heq rfl
      rwa [← List.singleton_inj.1 hlast]

end HouseStyle.Text
