import HouseStyle.Proofs.Toml.Line
import HouseStyle.Toml.Document

/-!
# An entry in front of further lines

The values of a document on one line: scalars, strings, and lists and tables that close where they
have opened. The readers of values call each other, and `fuel` bounds their number, so what they
find with some fuel has to be found with more of it, too (`lineLocal_values`).
-/

namespace HouseStyle.Toml

/-! ## Scalars -/

/-- The characters that end a scalar. -/
theorem isScalarChar_eq (c : Char) : isScalarChar c =
    !(['=', ',', '[', ']', '\x7b', '\x7d', ' ', '\t', '#', '\r', '\n'].contains c) := by
  rw [isScalarChar, String.contains_char_eq]
  simp

theorem isScalarChar_newline : isScalarChar '\n' = false := by simp [isScalarChar_eq]

theorem startsScalar_newline : startsScalar '\n' = false := by
  simp [startsScalar, isScalarChar_newline]

theorem not_mem_takeScalar : ∀ (fuel : Nat) {text : List Char}, '\n' ∉ text →
    '\n' ∉ (takeScalar fuel text).2
  | 0, _, h => h
  | fuel + 1, text, h => by
    have hrest : '\n' ∉ text.dropWhile isScalarChar := not_mem_dropWhile h
    simp only [takeScalar]
    split
    · exact not_mem_takeScalar fuel (not_mem_skipSpace hrest)
    · exact hrest

/-- A scalar ends with its line at the latest. The fuel has to outlast the line: with less of it, more
fuel could find more. -/
theorem takeScalar_append_newline (tail : List Char) :
    ∀ (fuel fuel' : Nat) {text : List Char}, text.length < fuel → fuel ≤ fuel' →
      takeScalar fuel' (text ++ '\n' :: tail)
        = ((takeScalar fuel text).1, (takeScalar fuel text).2 ++ '\n' :: tail)
  | fuel + 1, 0, text, _, hfuel => absurd hfuel (Nat.not_succ_le_zero fuel)
  | fuel + 1, fuel' + 1, text, hlength, hfuel => by
    have hspace : isSpace '\n' = false := by decide
    simp only [takeScalar]
    rw [takeWhile_append_newline isScalarChar_newline,
      dropWhile_append_newline isScalarChar_newline,
      takeWhile_append_newline hspace, skipSpace_append_newline]
    have hrest := (List.dropWhile_suffix isScalarChar (l := text)).length_le
    generalize text.dropWhile isScalarChar = rest at hrest
    have hmore : (skipSpace rest).length ≤ rest.length := (List.dropWhile_suffix isSpace).length_le
    rcases rest with _ | ⟨c, rest⟩
    · simp [hspace]
    cases hc : isSpace c with
    | false => simp [hc]
    | true =>
      have hskip : skipSpace (c :: rest) = skipSpace rest := by simp [skipSpace, hc]
      have hless : (skipSpace rest).length ≤ rest.length :=
        (List.dropWhile_suffix isSpace).length_le
      have hlength : (skipSpace rest).length < fuel := by
        rw [List.length_cons] at hrest
        omega
      have ih := takeScalar_append_newline tail fuel fuel' hlength (Nat.le_of_succ_le_succ hfuel)
      rw [hskip, ih]
      cases skipSpace rest with
      | nil => simp [startsScalar_newline]
      | cons d more => cases hd : startsScalar d <;> simp [hc, hd]

theorem lineLocal_readScalar? : LineLocal readScalar? readScalar? := by
  intro text v rest hline h
  have hmem := not_mem_takeScalar (text.length + 1) hline
  have htake (tail : List Char) := takeScalar_append_newline tail (text.length + 1)
    ((text ++ '\n' :: tail).length + 1) (Nat.lt_succ_self text.length) (by simp)
  simp only [readScalar?, htake] at h ⊢
  generalize takeScalar (text.length + 1) text = taken at hmem h
  obtain ⟨v, hv, heq⟩ := Option.map_eq_some_iff.1 h
  obtain ⟨rfl, rfl⟩ := Prod.mk.inj heq
  exact ⟨hmem, fun tail => Option.map_eq_some_iff.2 ⟨_, hv, rfl⟩⟩

/-! ## Values -/

section Steps

variable {depth fuel : Nat} {text rest after : List Char} {item : Value}

theorem scalar?_nil : scalar? [] = none := rfl

/-- Where no scalar starts, none is read. -/
theorem readScalar?_eq_none (hscalar : text.head?.any isScalarChar = false)
    (hspace : text.head?.any isSpace = false) : readScalar? text = none := by
  have htake : text.takeWhile isScalarChar = [] ∧ text.dropWhile isScalarChar = text := by
    cases text with
    | nil => exact ⟨rfl, rfl⟩
    | cons c text =>
      have hc : isScalarChar c = false := by simpa using hscalar
      simp [hc]
  simp [readScalar?, takeScalar, htake, hspace, scalar?_nil]

theorem readValue?_scalar (hlist : text.head? ≠ some '[') (htable : text.head? ≠ some '\x7b')
    (hd : text.head? ≠ some '"') (hs : text.head? ≠ some '\'') :
    readValue? depth (fuel + 1) text = readScalar? text := by
  rw [readValue?]
  · rintro rest rfl
    exact hlist rfl
  · rintro rest rfl
    exact htable rfl
  · rintro rest rfl
    exact hd rfl
  · rintro rest rfl
    exact hs rfl

/-- What follows an item or an entry: a comma and more of them, or the closing bracket. -/
def separated {α : Type} (close : Char) (more : List Char → Option (α × List Char)) (last : α)
    (text : List Char) : Option (α × List Char) :=
  match skipAll text with
  | [] => none
  | c :: rest =>
    if c = ',' then more (skipAll rest) else if c = close then some (last, rest) else none

theorem readItems?_item (depth fuel : Nat) (done : List Value) (hclose : text.head? ≠ some ']') :
    readItems? depth done (fuel + 1) text = (readValue? depth fuel text).bind fun (item, rest) =>
      separated ']' (readItems? depth (item :: done) fuel) (.array (item :: done).reverse) rest := by
  rw [readItems?]
  · refine Option.bind_congr fun (item, rest) _ => ?_
    simp only [separated]
    rcases skipAll rest with _ | ⟨c, after⟩
    · rfl
    by_cases hcomma : c = ','
    · simp [hcomma]
    by_cases hend : c = ']'
    · simp [hend]
    · simp [hcomma, hend]
  · rintro rest rfl
    exact hclose rfl

theorem readFields?_field (depth fuel : Nat) (done : Entries) (hclose : text.head? ≠ some '\x7d') :
    readFields? depth done (fuel + 1) text = (readKey? text).bind fun (key, rest) =>
      (expect? '=' (skipAll rest)).bind fun rest =>
        (readValue? depth fuel (skipAll rest)).bind fun (value, rest) =>
          (done.assign? key.last value key.path).bind fun done =>
            separated '\x7d' (readFields? depth done fuel) (.table .value done) rest := by
  rw [readFields?]
  · refine Option.bind_congr fun (key, rest) _ => Option.bind_congr fun rest _ =>
      Option.bind_congr fun (value, rest) _ => Option.bind_congr fun done _ => ?_
    simp only [separated]
    rcases skipAll rest with _ | ⟨c, after⟩
    · rfl
    by_cases hcomma : c = ','
    · simp [hcomma]
    by_cases hend : c = '\x7d'
    · simp [hend]
    · simp [hcomma, hend]
  · rintro rest rfl
    exact hclose rfl

end Steps

/-- Whether there is nothing left of a line; a carriage return may end it. -/
def IsLineEnd (text : List Char) : Prop := text = [] ∨ text = ['\r']

section LineEnd

variable {depth fuel : Nat} {text : List Char}

theorem skipAll_append_of_not_isLineEnd (hline : '\n' ∉ text) (h : ¬IsLineEnd (skipAll text))
    (tail : List Char) : skipAll (text ++ '\n' :: tail) = skipAll text ++ '\n' :: tail :=
  skipAll_append_newline hline (fun hnil => h (.inl hnil)) fun hcr => h (.inr hcr)

theorem readKey?_lineEnd (h : IsLineEnd text) : readKey? text = none := by
  obtain rfl | rfl := h
  · rfl
  · rfl

theorem readValue?_lineEnd (h : IsLineEnd text) : readValue? depth fuel text = none := by
  cases fuel with
  | zero => rfl
  | succ fuel =>
    obtain rfl | rfl := h
    · rw [readValue?_scalar (by simp) (by simp) (by simp) (by simp)]
      exact readScalar?_eq_none rfl rfl
    · rw [readValue?_scalar (by simp) (by simp) (by simp) (by simp)]
      exact readScalar?_eq_none (by simp [isScalarChar_eq]) (by decide)

theorem readItems?_lineEnd {done : List Value} (h : IsLineEnd text) :
    readItems? depth done fuel text = none := by
  cases fuel with
  | zero => rfl
  | succ fuel =>
    have hclose : text.head? ≠ some ']' := by
      obtain rfl | rfl := h
      · simp
      · simp
    rw [readItems?_item _ _ _ hclose, readValue?_lineEnd h, Option.bind_none]

theorem readFields?_lineEnd {done : Entries} (h : IsLineEnd text) :
    readFields? depth done fuel text = none := by
  cases fuel with
  | zero => rfl
  | succ fuel =>
    have hclose : text.head? ≠ some '\x7d' := by
      obtain rfl | rfl := h
      · simp
      · simp
    rw [readFields?_field _ _ _ hclose, readKey?_lineEnd h, Option.bind_none]

end LineEnd

/-- What is read behind blanks is not read from the end of a line. -/
theorem LineLocal.skipAll {α : Type} {read read' : List Char → Option (α × List Char)}
    (h : LineLocal read read') (hend : ∀ {text}, IsLineEnd text → read text = none) :
    LineLocal (fun text => read (skipAll text)) fun text => read' (skipAll text) := by
  intro text x rest hline hread
  obtain ⟨hrest, hx⟩ := h (not_mem_skipAll hline) hread
  have hmore : ¬IsLineEnd (Toml.skipAll text) := by
    intro hnone
    cases (hend hnone).symm.trans hread
  refine ⟨hrest, fun tail => ?_⟩
  simp only [skipAll_append_of_not_isLineEnd hline hmore]
  exact hx tail

/-- A separator and what it announces stand on the same line. -/
theorem lineLocal_separated {α : Type} {close : Char} (hclose : close ≠ '\r')
    {more more' : List Char → Option (α × List Char)} (h : LineLocal more more')
    (hend : ∀ {text}, IsLineEnd text → more text = none) (last : α) :
    LineLocal (separated close more last) (separated close more' last) := by
  intro text x rest hline hread
  have hmem := not_mem_skipAll hline
  have hskip := skipAll_append_of_not_isLineEnd hline
  simp only [separated] at hread ⊢
  generalize skipAll text = text at hmem hread hskip
  rcases text with _ | ⟨c, after⟩
  · cases hread
  have hafter : '\n' ∉ after := fun hmem' => hmem (.tail _ hmem')
  have hskip (hc : c ≠ '\r') := hskip fun hnot => by
    obtain hnil | hcr := hnot
    · cases hnil
    · exact hc (List.cons.inj hcr).1
  by_cases hcomma : c = ','
  · subst hcomma
    obtain ⟨hrest, hread⟩ := h.skipAll hend hafter hread
    refine ⟨hrest, fun tail => ?_⟩
    rw [hskip (by decide) tail]
    exact hread tail
  by_cases hlast : c = close
  · subst hlast
    simp only [hcomma, if_false, if_true] at hread
    obtain ⟨rfl, rfl⟩ := Prod.mk.inj (Option.some.inj hread)
    refine ⟨hafter, fun tail => ?_⟩
    rw [hskip hclose tail]
    simp [hcomma]
  · simp [hcomma, hlast] at hread

theorem lineLocal_expect? {c : Char} {text rest : List Char} (hline : '\n' ∉ text)
    (h : expect? c text = some rest) :
    '\n' ∉ rest ∧ ∀ tail, expect? c (text ++ '\n' :: tail) = some (rest ++ '\n' :: tail) := by
  cases text with
  | nil => cases h
  | cons d text =>
    simp only [expect?, List.cons_append] at h ⊢
    split at h
    · obtain rfl := Option.some.inj h
      exact ⟨fun hmem => hline (.tail _ hmem), fun tail => if_pos ‹_›⟩
    · cases h

/-- An equals sign behind a key in a table that is written as a value. -/
theorem lineLocal_equals {text rest : List Char} (hline : '\n' ∉ text)
    (h : expect? '=' (skipAll text) = some rest) :
    '\n' ∉ rest
      ∧ ∀ tail, expect? '=' (skipAll (text ++ '\n' :: tail)) = some (rest ++ '\n' :: tail) := by
  have hmore : ¬IsLineEnd (skipAll text) := by
    rintro (hnil | hcr)
    · rw [hnil] at h
      cases h
    · rw [hcr] at h
      cases h
  obtain ⟨hrest, h⟩ := lineLocal_expect? (not_mem_skipAll hline) h
  exact ⟨hrest, fun tail => by rw [skipAll_append_of_not_isLineEnd hline hmore, h tail]⟩

theorem lineLocal_readValue?_step {fuel fuel' : Nat}
    (hitems : ∀ depth done, LineLocal (readItems? depth done fuel) (readItems? depth done fuel'))
    (hfields : ∀ depth done, LineLocal (readFields? depth done fuel) (readFields? depth done fuel'))
    (depth : Nat) : LineLocal (readValue? depth (fuel + 1)) (readValue? depth (fuel' + 1)) := by
  intro text v rest hline h
  by_cases hlist : text.head? = some '['
  · obtain ⟨text, rfl⟩ := List.head?_eq_some_iff.1 hlist
    have hline : '\n' ∉ text := fun hmem => hline (.tail _ hmem)
    simp only [readValue?, List.cons_append] at h ⊢
    by_cases hdepth : depth = 0
    · simp only [hdepth, if_true] at h
      cases h
    · simp only [hdepth, if_false] at h ⊢
      exact (hitems _ _).skipAll readItems?_lineEnd hline h
  by_cases htable : text.head? = some '\x7b'
  · obtain ⟨text, rfl⟩ := List.head?_eq_some_iff.1 htable
    have hline : '\n' ∉ text := fun hmem => hline (.tail _ hmem)
    simp only [readValue?, List.cons_append] at h ⊢
    by_cases hdepth : depth = 0
    · simp only [hdepth, if_true] at h
      cases h
    · simp only [hdepth, if_false] at h ⊢
      exact (hfields _ _).skipAll readFields?_lineEnd hline h
  by_cases hd : text.head? = some '"'
  · obtain ⟨text, rfl⟩ := List.head?_eq_some_iff.1 hd
    simp only [readValue?, List.cons_append] at h ⊢
    exact lineLocal_readString?.map Value.string hline h
  by_cases hs : text.head? = some '\''
  · obtain ⟨text, rfl⟩ := List.head?_eq_some_iff.1 hs
    simp only [readValue?, List.cons_append] at h ⊢
    exact lineLocal_readString?.map Value.string hline h
  · rw [readValue?_scalar hlist htable hd hs] at h
    obtain ⟨hrest, h⟩ := lineLocal_readScalar? hline h
    refine ⟨hrest, fun tail => ?_⟩
    rw [readValue?_scalar (head?_append_newline_ne (by decide) hlist tail)
      (head?_append_newline_ne (by decide) htable tail) (head?_append_newline_ne (by decide) hd tail)
      (head?_append_newline_ne (by decide) hs tail)]
    exact h tail

theorem lineLocal_readItems?_step {depth fuel fuel' : Nat}
    (hvalue : LineLocal (readValue? depth fuel) (readValue? depth fuel'))
    (hitems : ∀ done, LineLocal (readItems? depth done fuel) (readItems? depth done fuel'))
    (done : List Value) :
    LineLocal (readItems? depth done (fuel + 1)) (readItems? depth done (fuel' + 1)) := by
  intro text v rest hline h
  by_cases hclose : text.head? = some ']'
  · obtain ⟨text, rfl⟩ := List.head?_eq_some_iff.1 hclose
    simp only [readItems?, List.cons_append] at h ⊢
    obtain ⟨rfl, rfl⟩ := Prod.mk.inj (Option.some.inj h)
    exact ⟨fun hmem => hline (.tail _ hmem), fun tail => rfl⟩
  · rw [readItems?_item _ _ _ hclose] at h
    obtain ⟨⟨item, text'⟩, hitem, h⟩ := Option.bind_eq_some_iff.1 h
    obtain ⟨hline', hitem⟩ := hvalue hline hitem
    have hstep (tail : List Char) := readItems?_item depth fuel' done
      (head?_append_newline_ne (by decide) hclose tail)
    simp only [hitem, Option.bind_some] at h hstep
    obtain ⟨hrest, h⟩ := lineLocal_separated (by decide) (hitems _) readItems?_lineEnd _ hline' h
    exact ⟨hrest, fun tail => by rw [hstep, h tail]⟩

theorem lineLocal_readFields?_step {depth fuel fuel' : Nat}
    (hvalue : LineLocal (readValue? depth fuel) (readValue? depth fuel'))
    (hfields : ∀ done, LineLocal (readFields? depth done fuel) (readFields? depth done fuel'))
    (done : Entries) :
    LineLocal (readFields? depth done (fuel + 1)) (readFields? depth done (fuel' + 1)) := by
  intro text v rest hline h
  by_cases hclose : text.head? = some '\x7d'
  · obtain ⟨text, rfl⟩ := List.head?_eq_some_iff.1 hclose
    simp only [readFields?, List.cons_append] at h ⊢
    obtain ⟨rfl, rfl⟩ := Prod.mk.inj (Option.some.inj h)
    exact ⟨fun hmem => hline (.tail _ hmem), fun tail => rfl⟩
  · rw [readFields?_field _ _ _ hclose] at h
    obtain ⟨⟨key, text₁⟩, hkey, h⟩ := Option.bind_eq_some_iff.1 h
    obtain ⟨hline₁, hkey⟩ := lineLocal_readKey? hline hkey
    obtain ⟨text₂, hequals, h⟩ := Option.bind_eq_some_iff.1 h
    obtain ⟨hline₂, hequals⟩ := lineLocal_equals hline₁ hequals
    obtain ⟨⟨value, text₃⟩, hread, h⟩ := Option.bind_eq_some_iff.1 h
    obtain ⟨hline₃, hread⟩ := hvalue.skipAll readValue?_lineEnd hline₂ hread
    obtain ⟨done', hdone, h⟩ := Option.bind_eq_some_iff.1 h
    have hstep (tail : List Char) := readFields?_field depth fuel' done
      (head?_append_newline_ne (by decide) hclose tail)
    simp only [hkey, hequals, hread, hdone, Option.bind_some] at h hstep
    obtain ⟨hrest, h⟩ := lineLocal_separated (by decide) (hfields _) readFields?_lineEnd _ hline₃ h
    exact ⟨hrest, fun tail => by rw [hstep, h tail]⟩

/-- The three readers of values call each other with less fuel, so the induction is on the fuel and
carries all three, for every depth. -/
theorem lineLocal_values : ∀ {fuel fuel' : Nat}, fuel ≤ fuel' → ∀ depth,
    LineLocal (readValue? depth fuel) (readValue? depth fuel')
    ∧ (∀ done, LineLocal (readItems? depth done fuel) (readItems? depth done fuel'))
    ∧ ∀ done, LineLocal (readFields? depth done fuel) (readFields? depth done fuel')
  | 0, _, _, _ => by
    refine ⟨?_, fun done => ?_, fun done => ?_⟩
    all_goals
      intro text v rest _ h
      cases h
  | fuel + 1, fuel' + 1, hfuel, depth => by
    have ih (depth : Nat) := lineLocal_values (Nat.le_of_succ_le_succ hfuel) depth
    exact ⟨lineLocal_readValue?_step (fun depth => (ih depth).2.1) (fun depth => (ih depth).2.2) _,
      lineLocal_readItems?_step (ih depth).1 (ih depth).2.1,
      lineLocal_readFields?_step (ih depth).1 (ih depth).2.2⟩

/-! ## Entries -/

/-- Blanks within a line may be dropped in front of a reader. -/
theorem LineLocal.skipSpace {α : Type} {read read' : List Char → Option (α × List Char)}
    (h : LineLocal read read') :
    LineLocal (fun text => read (skipSpace text)) fun text => read' (skipSpace text) := by
  intro text x rest hline hread
  obtain ⟨hrest, hx⟩ := h (not_mem_skipSpace hline) hread
  refine ⟨hrest, fun tail => ?_⟩
  simp only [skipSpace_append_newline]
  exact hx tail

/-- An entry that is read from a line is read from it when further lines follow. -/
theorem Document.lineLocal_entry? (d : Document) : LineLocal d.entry? d.entry? := by
  intro text d' rest hline h
  rw [ entry?] at h
  obtain ⟨⟨key, text₁⟩, hkey, h⟩ := Option.bind_eq_some_iff.1 h
  obtain ⟨hline₁, hkey⟩ := lineLocal_readKey? hline hkey
  obtain ⟨text₂, hequals, h⟩ := Option.bind_eq_some_iff.1 h
  obtain ⟨hline₂, hequals⟩ := lineLocal_expect? hline₁ hequals
  obtain ⟨⟨value, text₃⟩, hread, h⟩ := Option.bind_eq_some_iff.1 h
  have hvalue (fuel : Nat) (hfuel : text₂.length + 1 ≤ fuel) :=
    (lineLocal_values hfuel maxDepth).1.skipSpace hline₂ hread
  obtain ⟨entries, hentries, h⟩ := Option.bind_eq_some_iff.1 h
  obtain ⟨rfl, rfl⟩ := Prod.mk.inj (Option.some.inj h)
  refine ⟨(hvalue _ Nat.le.refl).1, fun tail => ?_⟩
  have hread := (hvalue ((text₂ ++ '\n' :: tail).length + 1) (by simp)).2 tail
  simp only [ entry?, hkey, hequals, hread, hentries, Option.bind_eq_bind, Option.bind_some]
  rfl

end HouseStyle.Toml
