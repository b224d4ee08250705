import HouseStyle.Proofs.Text.Runs
import HouseStyle.Rule.MagicNumber

/-!
# What is read as a number

The literal at a place is a run of digits, with its fraction where the literal can end behind it
(`ReadsNumber`). `readLiteral?` reads exactly this (`readLiteral?_eq_some_iff`), and takes no
character behind which another literal could start.
-/

namespace HouseStyle

open Text

/-! ## The literal at a place -/

/-- A run of digits, at least one, that ends where the rest of the text begins. -/
def IsDigits (digits rest : List Char) : Prop := digits ≠ [] ∧ Spans isDigit digits rest

theorem IsDigits.exists_getLast? {digits rest : List Char} (h : IsDigits digits rest) :
    ∃ d, digits.getLast? = some d ∧ isDigit d = true :=
  ⟨_, List.getLast?_eq_some_getLast h.1, h.2.1 _ (List.getLast_mem h.1)⟩

/-- No word goes on in the rest of the text. -/
def WordEnds (rest : List Char) : Prop := ∀ c ∈ rest.head?, isWord c = false

/-- A literal can end where the rest of the text begins, perhaps with a type letter. -/
def LiteralEnds (rest : List Char) : Prop :=
  WordEnds rest ∨ ∃ c after, rest = c :: after ∧ c ∈ "fFdDlL".toList ∧ WordEnds after

/-- The literal at the start of a text. -/
inductive ReadsNumber : List Char → List Char → Prop where
  /-- Two runs of digits with a point between them, if a literal can end behind the second. -/
  | fraction {digits decimals rest : List Char}
      (hdigits : IsDigits digits ('.' :: (decimals ++ rest))) (hdecimals : IsDigits decimals rest)
      (hend : LiteralEnds rest) :
      ReadsNumber (digits ++ '.' :: (decimals ++ rest)) (digits ++ '.' :: decimals)
  /-- The first run of the two, if no literal can end behind the second. -/
  | cut {digits decimals rest : List Char}
      (hdigits : IsDigits digits ('.' :: (decimals ++ rest))) (hdecimals : IsDigits decimals rest)
      (hend : ¬ LiteralEnds rest) : ReadsNumber (digits ++ '.' :: (decimals ++ rest)) digits
  /-- A run of digits with no such fraction behind it, if a literal can end there. -/
  | whole {digits rest : List Char} (hdigits : IsDigits digits rest)
      (hpoint : ¬ ∃ decimals after, rest = '.' :: (decimals ++ after) ∧ IsDigits decimals after)
      (hend : LiteralEnds rest) : ReadsNumber (digits ++ rest) digits

theorem endsWord_eq_true_iff {rest : List Char} : endsWord rest = true ↔ WordEnds rest := by
  cases rest <;> simp [endsWord, WordEnds]

theorem endsLiteral_eq_true_iff {rest : List Char} :
    endsLiteral rest = true ↔ LiteralEnds rest := by
  cases rest with
  | nil => simp [endsLiteral, LiteralEnds, WordEnds]
  | cons c rest =>
    have hhead : WordEnds (c :: rest) ↔ isWord c = false := by simp [WordEnds]
    simp only [endsLiteral, LiteralEnds, Bool.or_eq_true, Bool.not_eq_true', Bool.and_eq_true,
      endsWord_eq_true_iff, List.contains_iff_mem, hhead]
    refine or_congr_right ⟨fun h => ⟨c, rest, rfl, h⟩, ?_⟩
    rintro ⟨_, _, h, hc⟩
    obtain ⟨rfl, rfl⟩ := List.cons.inj h
    exact hc

/-! ## Reading it -/

theorem finish?_of_literalEnds (digits : List Char) {rest : List Char} (h : LiteralEnds rest) :
    finish? digits rest = some (digits, skipTypeLetter rest) :=
  if_pos (endsLiteral_eq_true_iff.2 h)

theorem finish?_of_not_literalEnds (digits : List Char) {rest : List Char}
    (h : ¬ LiteralEnds rest) : finish? digits rest = none :=
  if_neg (mt endsLiteral_eq_true_iff.1 h)

/-- Behind a point and digits a literal ends, if it can. -/
theorem withFraction?_point (digits : List Char) {decimals rest : List Char}
    (h : IsDigits decimals rest) :
    withFraction? digits ('.' :: (decimals ++ rest)) =
      finish? (digits ++ '.' :: decimals) rest := by
  rw [withFraction?, h.2.takeWhile_eq, h.2.dropWhile_eq, if_pos ⟨rfl, h.1⟩]

/-- Without a point and digits there is no fraction. -/
theorem withFraction?_eq_none (digits : List Char) {rest : List Char}
    (h : ¬ ∃ decimals after, rest = '.' :: (decimals ++ after) ∧ IsDigits decimals after) :
    withFraction? digits rest = none := by
  cases rest with
  | nil => rfl
  | cons c rest =>
    refine if_neg fun hpoint => h ⟨rest.takeWhile isDigit, rest.dropWhile isDigit, ?_, hpoint.2,
      spans_takeWhile isDigit rest⟩
    rw [hpoint.1, List.takeWhile_append_dropWhile]

theorem readLiteral?_append {digits rest : List Char} (h : IsDigits digits rest) :
    readLiteral? (digits ++ rest) = (withFraction? digits rest).or (finish? digits rest) := by
  rw [readLiteral?, h.2.takeWhile_eq, h.2.dropWhile_eq, if_neg h.1]

theorem readLiteral?_eq_none {text : List Char} (h : ∀ c ∈ text.head?, isDigit c = false) :
    readLiteral? text = none := by
  have hrun : Spans isDigit [] text := ⟨by simp, h⟩
  have hnil := hrun.takeWhile_eq
  rw [List.nil_append] at hnil
  rw [readLiteral?, hnil, if_pos rfl]

/-- A word can end in front of a point. -/
theorem literalEnds_point (rest : List Char) : LiteralEnds ('.' :: rest) := by
  refine .inl fun c hc => ?_
  rw [← Option.some_inj.1 (Option.mem_def.1 hc)]
  decide

/-- What is read is the literal at the start of the text. -/
theorem readLiteral?_eq_some_iff {text digits : List Char} :
    (∃ rest, readLiteral? text = some (digits, rest)) ↔ ReadsNumber text digits := by
  constructor
  · rintro ⟨rest, h⟩
    obtain ⟨run, after, rfl, hrun⟩ := exists_spans isDigit text
    by_cases hne : run = []
    · subst hne
      rw [List.nil_append, readLiteral?_eq_none hrun.2] at h
      cases h
    have hdigits : IsDigits run after := ⟨hne, hrun⟩
    rw [readLiteral?_append hdigits] at h
    by_cases hpoint : ∃ decimals rest, after = '.' :: (decimals ++ rest) ∧ IsDigits decimals rest
    · obtain ⟨decimals, rest, rfl, hdecimals⟩ := hpoint
      rw [withFraction?_point _ hdecimals] at h
      by_cases hend : LiteralEnds rest
      · rw [finish?_of_literalEnds _ hend] at h
        cases h
        exact .fraction hdigits hdecimals hend
      · rw [finish?_of_not_literalEnds _ hend, finish?_of_literalEnds _ (literalEnds_point _)] at h
        cases h
        exact .cut hdigits hdecimals hend
    · rw [withFraction?_eq_none _ hpoint, Option.none_or] at h
      by_cases hend : LiteralEnds after
      · rw [finish?_of_literalEnds _ hend] at h
        cases h
        exact .whole hdigits hpoint hend
      · rw [finish?_of_not_literalEnds _ hend] at h
        cases h
  · rintro (⟨hdigits, hdecimals, hend⟩ | ⟨hdigits, hdecimals, hend⟩ | ⟨hdigits, hpoint, hend⟩)
    · rw [readLiteral?_append hdigits, withFraction?_point _ hdecimals,
        finish?_of_literalEnds _ hend]
      exact ⟨_, rfl⟩
    · rw [readLiteral?_append hdigits, withFraction?_point _ hdecimals,
        finish?_of_not_literalEnds _ hend, finish?_of_literalEnds _ (literalEnds_point _)]
      exact ⟨_, rfl⟩
    · rw [readLiteral?_append hdigits, withFraction?_eq_none _ hpoint,
        finish?_of_literalEnds _ hend]
      exact ⟨_, rfl⟩

/-! ## The characters read -/

/-- A literal can start behind the character. -/
def separates (c : Char) : Bool := !isWord c && c != '.'

theorem separates_of_isWord {c : Char} (h : isWord c = true) : separates c = false := by
  simp [separates, h]

theorem isWord_of_typeLetter {c : Char} (h : c ∈ "fFdDlL".toList) : isWord c = true := by
  have hall : "fFdDlL".toList.all isWord = true := by decide
  exact List.all_eq_true.1 hall c h

/-- The text starts with characters behind which no literal can start, and goes on with `rest`. -/
def Consumes (text rest : List Char) : Prop :=
  ∃ used, text = used ++ rest ∧ ∀ c ∈ used, separates c = false

theorem Consumes.append {used text rest : List Char} (h : Consumes text rest)
    (hused : ∀ c ∈ used, separates c = false) : Consumes (used ++ text) rest := by
  obtain ⟨more, rfl, hmore⟩ := h
  exact ⟨used ++ more, by simp, List.forall_mem_append.2 ⟨hused, hmore⟩⟩

theorem consumes_skipTypeLetter (text : List Char) : Consumes text (skipTypeLetter text) := by
  cases text with
  | nil => exact ⟨[], rfl, by simp⟩
  | cons c text =>
    rw [skipTypeLetter]
    split
    next h =>
      refine ⟨[c], rfl, ?_⟩
      rw [List.forall_mem_singleton]
      exact separates_of_isWord (isWord_of_typeLetter (List.contains_iff_mem.1 h))
    next => exact ⟨[], rfl, by simp⟩

theorem consumes_of_finish? {digits text d rest : List Char}
    (h : finish? digits text = some (d, rest)) : Consumes text rest := by
  simp only [finish?, Option.ite_none_right_eq_some, Option.some.injEq, Prod.mk.injEq] at h
  exact h.2.2 ▸ consumes_skipTypeLetter text

theorem separates_of_spans {run rest : List Char} (h : Spans isDigit run rest) :
    ∀ c ∈ run, separates c = false :=
  fun c hc => separates_of_isWord (isWord_of_isDigit (h.1 c hc))

theorem consumes_of_withFraction? {digits text d rest : List Char}
    (h : withFraction? digits text = some (d, rest)) : Consumes text rest := by
  cases text with
  | nil => cases h
  | cons c text =>
    simp only [withFraction?, Option.ite_none_right_eq_some] at h
    obtain ⟨⟨rfl, -⟩, h⟩ := h
    have hrest := (consumes_of_finish? h).append (separates_of_spans (spans_takeWhile isDigit text))
    rw [List.takeWhile_append_dropWhile] at hrest
    have hpoint : ∀ c ∈ ['.'], separates c = false := List.forall_mem_singleton.2 (by decide)
    exact hrest.append hpoint

/-- Reading a literal takes digits, perhaps a point, and letters of the same word. -/
theorem consumes_of_readLiteral? {text digits rest : List Char}
    (h : readLiteral? text = some (digits, rest)) : Consumes text rest := by
  obtain ⟨run, after, rfl, hrun⟩ := exists_spans isDigit text
  by_cases hne : run = []
  · subst hne
    rw [List.nil_append, readLiteral?_eq_none hrun.2] at h
    cases h
  rw [readLiteral?_append ⟨hne, hrun⟩] at h
  refine Consumes.append ?_ (separates_of_spans hrun)
  rcases Option.or_eq_some_iff.1 h with h | ⟨-, h⟩
  · exact consumes_of_withFraction? h
  · exact consumes_of_finish? h

theorem separates_of_readLiteral? {used rest digits : List Char}
    (h : readLiteral? (used ++ rest) = some (digits, rest)) : ∀ c ∈ used, separates c = false := by
  obtain ⟨used', htext, hused⟩ := consumes_of_readLiteral? h
  rwa [← List.append_cancel_right htext] at hused

theorem ne_nil_of_readLiteral? {used rest digits : List Char}
    (h : readLiteral? (used ++ rest) = some (digits, rest)) : used ≠ [] := by
  rintro rfl
  exact absurd (length_lt_of_readLiteral? h) (Nat.lt_irrefl _)

/-! ## All literals -/

/-- The literals of a text, each with all of the text in front of it; `read` is what has been read
before, last character first, and the first argument tells whether one may start right here. -/
inductive Placed :
    Bool → List Char → List Char → List (List Char × List Char) → Prop where
  /-- The empty text has none. -/
  | nil {fresh : Bool} {read : List Char} : Placed fresh read [] []
  /-- The literal read here comes first, and the next one starts behind it. -/
  | literal {read used rest digits : List Char} {found : List (List Char × List Char)}
      (h : readLiteral? (used ++ rest) = some (digits, rest))
      (hfound : Placed false (used.reverse ++ read) rest found) :
      Placed true read (used ++ rest) ((read.reverse, digits) :: found)
  /-- A character at which no literal is read is passed over. -/
  | skip {fresh : Bool} {read rest : List Char} {c : Char} {found : List (List Char × List Char)}
      (h : fresh = true → readLiteral? (c :: rest) = none)
      (hfound : Placed (separates c) (c :: read) rest found) : Placed fresh read (c :: rest) found

theorem literalsFrom_of_eq_some {text digits rest : List Char}
    (h : readLiteral? text = some (digits, rest)) :
    literalsFrom true text = digits :: literalsFrom false rest := by
  cases text with
  | nil => cases h
  | cons c text =>
    rw [literalsFrom]
    split
    next h' => simp_all
    next h' => simp_all

theorem literalsFrom_of_eq_none {fresh : Bool} {c : Char} {rest : List Char}
    (h : fresh = true → readLiteral? (c :: rest) = none) :
    literalsFrom fresh (c :: rest) = literalsFrom (separates c) rest := by
  rw [literalsFrom]
  split
  next h' => cases fresh <;> simp_all
  next => rfl

/-- The literals that the reader finds have their places. -/
theorem exists_placed (fresh : Bool) (read text : List Char) :
    ∃ found, Placed fresh read text found ∧ found.map Prod.snd = literalsFrom fresh text := by
  by_cases h : ∃ digits rest, fresh = true ∧ readLiteral? text = some (digits, rest)
  · obtain ⟨digits, rest, rfl, h⟩ := h
    have hlt := length_lt_of_readLiteral? h
    obtain ⟨used, rfl, -⟩ := consumes_of_readLiteral? h
    obtain ⟨found, hfound, hmap⟩ := exists_placed false (used.reverse ++ read) rest
    exact ⟨_, .literal h hfound, by rw [literalsFrom_of_eq_some h, List.map_cons, hmap]⟩
  · cases text with
    | nil => exact ⟨[], .nil, by simp [literalsFrom]⟩
    | cons c rest =>
      have hnone : fresh = true → readLiteral? (c :: rest) = none := by
        intro hfresh
        by_contra hsome
        obtain ⟨⟨digits, after⟩, hsome⟩ := Option.ne_none_iff_exists'.1 hsome
        exact h ⟨digits, after, hfresh, hsome⟩
      obtain ⟨found, hfound, hmap⟩ := exists_placed (separates c) (c :: read) rest
      exact ⟨found, .skip hnone hfound, by rw [literalsFrom_of_eq_none hnone, hmap]⟩
termination_by text.length

/-- A literal can start behind a text; the flag tells whether it can if the text is empty. -/
def StartsBehind (fresh : Bool) (gap : List Char) : Prop :=
  (gap.getLast?.map separates).getD fresh = true

theorem startsBehind_cons_iff {fresh : Bool} {c : Char} {gap : List Char} :
    StartsBehind fresh (c :: gap) ↔ StartsBehind (separates c) gap := by
  rw [StartsBehind, StartsBehind, List.getLast?_cons]
  cases gap.getLast? <;> rfl

/-- No literal starts behind a part of what has been read as one. -/
theorem not_startsBehind {fresh : Bool} {gap : List Char} (hne : gap ≠ [])
    (h : ∀ c ∈ gap, separates c = false) : ¬ StartsBehind fresh gap := by
  have hlast := h _ (List.getLast_mem hne)
  rw [StartsBehind, List.getLast?_eq_some_getLast hne]
  simp [hlast]

theorem startsBehind_append_iff {fresh : Bool} {used gap : List Char}
    (h : ∀ c ∈ used, separates c = false) (hne : used ≠ []) :
    StartsBehind fresh (used ++ gap) ↔ StartsBehind false gap := by
  by_cases hgap : gap = []
  · subst hgap
    rw [List.append_nil]
    exact iff_of_false (not_startsBehind hne h) (by simp [StartsBehind])
  · rw [StartsBehind, StartsBehind, List.getLast?_append, List.getLast?_eq_some_getLast hgap]
    rfl

/-- The literals found are those that stand at places where one can start. -/
theorem Placed.mem_iff {fresh : Bool} {read text : List Char}
    {found : List (List Char × List Char)} (h : Placed fresh read text found)
    {before digits : List Char} :
    (before, digits) ∈ found ↔ ∃ gap rest, text = gap ++ rest ∧ before = read.reverse ++ gap ∧
      StartsBehind fresh gap ∧ ReadsNumber rest digits := by
  induction h with
  | nil =>
    constructor
    · exact fun hmem => absurd hmem List.not_mem_nil
    · rintro ⟨gap, rest, htext, -, -, hreads⟩
      obtain ⟨-, rfl⟩ := List.append_eq_nil_iff.1 htext.symm
      obtain ⟨after, h⟩ := readLiteral?_eq_some_iff.2 hreads
      rw [readLiteral?_eq_none (by simp)] at h
      cases h
  | @literal read used rest digits' found h hfound ih =>
    have hused := separates_of_readLiteral? h
    have hne := ne_nil_of_readLiteral? h
    rw [List.mem_cons, Prod.mk.injEq, ih]
    constructor
    · rintro (⟨rfl, rfl⟩ | ⟨gap, rest, rfl, rfl, hstart, hreads⟩)
      · exact ⟨[], _, rfl, by simp, rfl, readLiteral?_eq_some_iff.1 ⟨rest, h⟩⟩
      · exact ⟨used ++ gap, rest, by simp, by simp, (startsBehind_append_iff hused hne).2 hstart,
          hreads⟩
    · rintro ⟨gap, rest', htext, rfl, hstart, hreads⟩
      by_cases hgap : gap = []
      · subst hgap
        obtain ⟨after, h'⟩ := readLiteral?_eq_some_iff.2 hreads
        rw [htext, List.nil_append, h'] at h
        cases h
        exact .inl ⟨by simp, rfl⟩
      · rcases List.append_eq_append_iff.1 htext with ⟨more, rfl, rfl⟩ | ⟨more, rfl, rfl⟩
        · exact .inr ⟨more, rest', rfl, by simp, (startsBehind_append_iff hused hne).1 hstart,
            hreads⟩
        · refine absurd hstart (not_startsBehind hgap fun c hc => hused c ?_)
          exact List.mem_append_left more hc
  | @skip fresh read rest c found h hfound ih =>
    rw [ih]
    constructor
    · rintro ⟨gap, rest, rfl, rfl, hstart, hreads⟩
      exact ⟨c :: gap, rest, rfl, by simp, startsBehind_cons_iff.2 hstart, hreads⟩
    · rintro ⟨gap, rest', htext, rfl, hstart, hreads⟩
      cases gap with
      | nil =>
        obtain ⟨after, h'⟩ := readLiteral?_eq_some_iff.2 hreads
        rw [← List.nil_append rest', ← htext, h hstart] at h'
        cases h'
      | cons d gap =>
        obtain ⟨rfl, rfl⟩ := List.cons.inj htext
        exact ⟨gap, rest', rfl, by simp, startsBehind_cons_iff.1 hstart, hreads⟩

end HouseStyle
