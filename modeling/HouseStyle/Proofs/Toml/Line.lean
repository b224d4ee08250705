import HouseStyle.Toml.Text

/-!
# Reading a line in front of further lines

Most values of a document stand on one line. Whatever the readers find in a text without a newline,
they find in it when further lines follow, and the rest of the line is left over in front of those
lines (`LineLocal`). This is so for every reader of blanks, strings, keys and values, and so for an
entry of a document as a whole (`Document.lineLocal_entry?`): an entry that is well-formed by itself
cannot reach into the lines below it. A line on its own is needed for that. The three quotes of a
long string are no entry, but with further lines behind them they can be.
-/

namespace HouseStyle.Toml

/-- What `read` finds on a line, `read'` finds there when further lines follow. -/
def LineLocal {α : Type} (read read' : List Char → Option (α × List Char)) : Prop :=
  ∀ ⦃text : List Char⦄ ⦃x : α⦄ ⦃rest : List Char⦄, '\n' ∉ text → read text = some (x, rest) →
    '\n' ∉ rest ∧ ∀ tail, read' (text ++ '\n' :: tail) = some (x, rest ++ '\n' :: tail)

theorem LineLocal.map {α β : Type} {read read' : List Char → Option (α × List Char)}
    (h : LineLocal read read') (f : α → β) :
    LineLocal (fun text => (read text).map fun (x, rest) => (f x, rest))
      fun text => (read' text).map fun (x, rest) => (f x, rest) := by
  intro text y rest hline hread
  obtain ⟨⟨x, rest⟩, hx, hy⟩ := Option.map_eq_some_iff.1 hread
  obtain ⟨rfl, rfl⟩ := Prod.mk.inj hy
  obtain ⟨hrest, hx⟩ := h hline hx
  exact ⟨hrest, fun tail => Option.map_eq_some_iff.2 ⟨_, hx tail, rfl⟩⟩

/-! ## Blanks and remarks -/

section Runs

variable {p : Char → Bool} {text tail : List Char}

theorem not_mem_dropWhile (h : '\n' ∉ text) : '\n' ∉ text.dropWhile p :=
  fun hmem => h ((List.dropWhile_suffix p).subset hmem)

/-- A newline ends a run of other characters. -/
theorem dropWhile_append_newline (hp : p '\n' = false) :
    (text ++ '\n' :: tail).dropWhile p = text.dropWhile p ++ '\n' :: tail := by
  induction text with
  | nil => simp [hp]
  | cons c text ih => cases hc : p c <;> simp [hc, ih]

theorem takeWhile_append_newline (hp : p '\n' = false) :
    (text ++ '\n' :: tail).takeWhile p = text.takeWhile p := by
  induction text with
  | nil => simp [hp]
  | cons c text ih => cases hc : p c <;> simp [hc, ih]

/-- A line that does not start with a character does not start with it above other lines. -/
theorem head?_append_newline_ne {c : Char} (hc : c ≠ '\n') (h : text.head? ≠ some c)
    (tail : List Char) : (text ++ '\n' :: tail).head? ≠ some c := by
  cases text with
  | nil => simpa using hc.symm
  | cons d text => simpa using h

end Runs

section Blanks

variable {text tail : List Char}

theorem skipSpace_append_newline :
    skipSpace (text ++ '\n' :: tail) = skipSpace text ++ '\n' :: tail :=
  dropWhile_append_newline (by decide)

theorem not_mem_skipSpace (h : '\n' ∉ text) : '\n' ∉ skipSpace text := not_mem_dropWhile h

theorem skipRemark_append_newline :
    skipRemark (text ++ '\n' :: tail) = skipRemark text ++ '\n' :: tail := by
  rcases text with _ | ⟨c, text⟩
  · rfl
  · by_cases hc : c = '#'
    · subst hc
      exact dropWhile_append_newline (by decide)
    · simp [skipRemark, hc]

theorem not_mem_skipRemark (h : '\n' ∉ text) : '\n' ∉ skipRemark text := by
  rw [skipRemark.eq_def]
  split
  · exact not_mem_dropWhile fun hmem => h (.tail _ hmem)
  · exact h

theorem newline?_eq_none (h : '\n' ∉ text) : newline? text = none := by
  rw [newline?.eq_def]
  split
  · exact absurd (.head _) h
  · exact absurd (.tail _ (.head _)) h
  · rfl

/-- A line that starts with a character, other than a lone carriage return, does not start with a
newline when further lines follow. -/
theorem newline?_append_newline (h : '\n' ∉ text) (hne : text ≠ []) (hcr : text ≠ ['\r'])
    (tail : List Char) : newline? (text ++ '\n' :: tail) = none := by
  rcases text with _ | ⟨c, _ | ⟨d, text⟩⟩
  · exact absurd rfl hne
  · have hc : c ≠ '\n' := fun hc => h (hc ▸ .head _)
    have hcr : c ≠ '\r' := fun hc => hcr (hc ▸ rfl)
    simp [newline?, hc, hcr]
  · have hc : c ≠ '\n' := fun hc => h (hc ▸ .head _)
    have hd : d ≠ '\n' := fun hd => h (hd ▸ .tail _ (.head _))
    simp [newline?, hc, hd]

/-- The end of a line is the end of the text, or the newline that follows. -/
theorem lineEnd?_append_newline (h : '\n' ∉ text) {rest : List Char}
    (hend : lineEnd? text = some rest) :
    rest = [] ∧ ∀ tail, lineEnd? (text ++ '\n' :: tail) = some tail := by
  have hnone := newline?_eq_none (not_mem_skipRemark (not_mem_skipSpace h))
  rw [lineEnd?] at hend
  split at hend
  · rename_i hskip
    refine ⟨(Option.some.inj hend).symm, fun tail => ?_⟩
    rw [lineEnd?, skipSpace_append_newline, skipRemark_append_newline, hskip]
    rfl
  · rw [hnone] at hend
    cases hend

/-- On a line there is nothing to drop but blanks and a remark. -/
theorem skipAll_eq (h : '\n' ∉ text) : skipAll text = skipRemark (skipSpace text) := by
  have hnone := newline?_eq_none (not_mem_skipRemark (not_mem_skipSpace h))
  rw [skipAll]
  cases text with
  | nil => rfl
  | cons c text => rw [List.length_cons, skipLines, hnone]

theorem not_mem_skipAll (h : '\n' ∉ text) : '\n' ∉ skipAll text := by
  rw [skipAll_eq h]
  exact not_mem_skipRemark (not_mem_skipSpace h)

/-- If there is more on a line than blanks and a remark, the lines below stay where they are. -/
theorem skipAll_append_newline (h : '\n' ∉ text) (hne : skipAll text ≠ [])
    (hcr : skipAll text ≠ ['\r']) :
    skipAll (text ++ '\n' :: tail) = skipAll text ++ '\n' :: tail := by
  have hmem := not_mem_skipAll h
  rw [skipAll_eq h] at hne hcr hmem ⊢
  have hnone := newline?_append_newline hmem hne hcr tail
  rw [skipAll, List.length_append, List.length_cons, Nat.add_succ, skipLines,
    skipSpace_append_newline, skipRemark_append_newline, hnone]

end Blanks

/-! ## Strings -/

theorem lineLocal_readCode? :
    ∀ (n code : Nat), LineLocal (readCode? code n) (readCode? code n)
  | 0, code => by
    intro text c rest hline h
    rw [readCode?] at h
    split at h
    · obtain ⟨rfl, rfl⟩ := Prod.mk.inj (Option.some.inj h)
      exact ⟨hline, fun tail => by rw [readCode?, if_pos ‹_›]⟩
    · cases h
  | n + 1, code => by
    intro text c rest hline h
    cases text with
    | nil => cases h
    | cons d text =>
      rw [readCode?] at h
      obtain ⟨digit, hdigit, h⟩ := Option.bind_eq_some_iff.1 h
      obtain ⟨hrest, h⟩ := lineLocal_readCode? n _ (fun hmem => hline (.tail _ hmem)) h
      exact ⟨hrest, fun tail => by rw [List.cons_append, readCode?, hdigit]; exact h tail⟩

theorem lineLocal_readEscape? : LineLocal readEscape? readEscape? := by
  intro text c rest hline h
  cases text with
  | nil => cases h
  | cons d text =>
    have htext : '\n' ∉ text := fun hmem => hline (.tail _ hmem)
    have hplain {e : Char} (h : some (e, text) = some (c, rest)) :
        '\n' ∉ rest ∧ ∀ tail, some (e, text ++ '\n' :: tail) = some (c, rest ++ '\n' :: tail) := by
      obtain ⟨rfl, rfl⟩ := Prod.mk.inj (Option.some.inj h)
      exact ⟨htext, fun _ => rfl⟩
    rw [readEscape?.eq_def] at h
    simp only at h
    split at h
    case h_9 => exact lineLocal_readCode? 2 0 htext h
    case h_10 => exact lineLocal_readCode? 4 0 htext h
    case h_11 => exact lineLocal_readCode? 8 0 htext h
    case h_12 => cases h
    all_goals exact hplain h

/-- What starts an escape is no blank, and no carriage return either. -/
theorem continuation?_append_newline {text rest tail : List Char} {c : Char} (hline : '\n' ∉ text)
    (h : readEscape? text = some (c, rest)) : continuation? (text ++ '\n' :: tail) = none := by
  cases text with
  | nil => cases h
  | cons d text =>
    have hspace : isSpace d = false := by
      refine Bool.eq_false_iff.2 fun hd => ?_
      obtain rfl | rfl : d = ' ' ∨ d = '\t' := by simpa [isSpace] using hd
      · cases h
      · cases h
    have hskip : skipSpace (d :: text) = d :: text := by simp [skipSpace, hspace]
    have hcr : d :: text ≠ ['\r'] := by
      rintro heq
      obtain ⟨rfl, rfl⟩ := List.cons.inj heq
      cases h
    rw [continuation?, skipSpace_append_newline, hskip,
      newline?_append_newline hline (List.cons_ne_nil d text) hcr tail]
    rfl

theorem lineLocal_readBasic? {fuel fuel' : Nat} (hfuel : fuel ≤ fuel') (done : List Char) :
    LineLocal (readBasic? done fuel) (readBasic? done fuel') := by
  intro text s rest hline h
  induction fuel generalizing fuel' done text with
  | zero => cases h
  | succ fuel ih =>
    obtain ⟨fuel', rfl⟩ := Nat.exists_eq_add_of_lt hfuel
    cases text with
    | nil => cases h
    | cons c text =>
      have htext : '\n' ∉ text := fun hmem => hline (.tail _ hmem)
      have hmore : fuel ≤ fuel + fuel' := by omega
      simp only [List.cons_append, readBasic?] at h ⊢
      split at h
      · obtain ⟨rfl, rfl⟩ := Prod.mk.inj (Option.some.inj h)
        exact ⟨htext, fun tail => if_pos ‹_›⟩
      split at h
      · obtain ⟨⟨d, text'⟩, hd, h⟩ := Option.bind_eq_some_iff.1 h
        obtain ⟨htext', hd⟩ := lineLocal_readEscape? htext hd
        obtain ⟨hrest, h⟩ := ih hmore _ htext' h
        refine ⟨hrest, fun tail => ?_⟩
        rw [if_neg ‹_›, if_pos ‹_›, hd tail]
        exact h tail
      split at h
      · obtain ⟨hrest, h⟩ := ih hmore _ htext h
        refine ⟨hrest, fun tail => ?_⟩
        rw [if_neg ‹_›, if_neg ‹_›, if_pos ‹_›]
        exact h tail
      · cases h

theorem lineLocal_readLiteral? : LineLocal readLiteral? readLiteral? := by
  intro text s rest hline h
  have hp : (isAllowed '\n' && '\n' != '\'') = false := by decide
  rw [readLiteral?] at h
  split at h
  · rename_i rest' hdrop
    obtain ⟨rfl, rfl⟩ := Prod.mk.inj (Option.some.inj h)
    have hmem := not_mem_dropWhile (p := fun c => isAllowed c && c != '\'') hline
    rw [hdrop] at hmem
    refine ⟨fun hrest => hmem (.tail _ hrest), fun tail => ?_⟩
    rw [readLiteral?, dropWhile_append_newline hp, takeWhile_append_newline hp, hdrop]
    rfl
  · cases h

theorem closing?_append_newline {quote : Char} (hq : quote ≠ '\n') (text tail : List Char) :
    closing? quote (text ++ '\n' :: tail)
      = (closing? quote text).map fun (own, rest) => (own, rest ++ '\n' :: tail) := by
  have hp : ('\n' == quote) = false := by simpa using hq.symm
  rw [closing?, closing?, takeWhile_append_newline hp]
  generalize hcount : (text.takeWhile (· == quote)).length = count
  by_cases hthree : count < 3
  · simp [hthree]
  · have hlength : count ≤ text.length := hcount ▸ (List.takeWhile_prefix _).length_le
    simp only [hthree, if_false, Option.map_some]
    rw [List.drop_append_of_le_length (by omega)]

theorem not_mem_of_closing? {quote : Char} {text own rest : List Char} (hline : '\n' ∉ text)
    (h : closing? quote text = some (own, rest)) : '\n' ∉ rest := by
  simp only [closing?] at h
  split at h
  · cases h
  · obtain ⟨-, rfl⟩ := Prod.mk.inj (Option.some.inj h)
    exact fun hmem => hline (List.mem_of_mem_drop hmem)

theorem lineLocal_readLong? {quote : Char} (hq : quote ≠ '\n') {fuel fuel' : Nat}
    (hfuel : fuel ≤ fuel') (done : List Char) :
    LineLocal (readLong? quote done fuel) (readLong? quote done fuel') := by
  intro text s rest hline h
  induction fuel generalizing fuel' done text with
  | zero => cases h
  | succ fuel ih =>
    obtain ⟨fuel', rfl⟩ := Nat.exists_eq_add_of_lt hfuel
    cases text with
    | nil => cases h
    | cons c text =>
      have htext : '\n' ∉ text := fun hmem => hline (.tail _ hmem)
      have hmore : fuel ≤ fuel + fuel' := by omega
      have hclosing tail := closing?_append_newline hq (c :: text) tail
      simp only [List.cons_append, readLong?] at h hclosing ⊢
      cases hclose : closing? quote (c :: text) with
      | some closed =>
        obtain ⟨own, rest'⟩ := closed
        rw [hclose] at h hclosing
        obtain ⟨rfl, rfl⟩ := Prod.mk.inj (Option.some.inj h)
        exact ⟨not_mem_of_closing? hline hclose, fun tail => by rw [hclosing]; rfl⟩
      | none =>
        simp only [hclose, hclosing, Option.map_none] at h ⊢
        split at h
        · have hbroken : continuation? text = none := by
            rw [continuation?, newline?_eq_none (not_mem_skipSpace htext)]
            rfl
          rw [hbroken] at h
          obtain ⟨⟨d, text'⟩, hd, h⟩ := Option.bind_eq_some_iff.1 h
          obtain ⟨htext', hd'⟩ := lineLocal_readEscape? htext hd
          obtain ⟨hrest, h⟩ := ih hmore _ htext' h
          refine ⟨hrest, fun tail => ?_⟩
          rw [if_pos ‹_›, continuation?_append_newline htext hd, hd' tail]
          exact h tail
        split at h
        · obtain ⟨hrest, h⟩ := ih hmore _ htext h
          refine ⟨hrest, fun tail => ?_⟩
          rw [if_neg ‹_›, if_pos ‹_›]
          exact h tail
        · rw [newline?_eq_none hline] at h
          cases h

theorem lineLocal_readLongString? {quote : Char} (hq : quote ≠ '\n') :
    LineLocal (readLongString? quote) (readLongString? quote) := by
  intro text s rest hline h
  rw [readLongString?, newline?_eq_none hline, Option.getD_none] at h
  have hne : text ≠ [] := by
    rintro rfl
    cases h
  -- a carriage return alone would join the newline that follows, but no string starts with it
  have hcr : text ≠ ['\r'] := by
    rintro rfl
    have hclose : closing? quote ['\r'] = none := by
      have hcount := (List.takeWhile_prefix (l := ['\r']) (· == quote)).length_le
      rw [closing?, if_pos (Nat.lt_of_le_of_lt hcount (by decide))]
    have hallowed : isAllowed '\r' = false := by decide
    simp [readLong?, hclose, hallowed, newline?] at h
  have hfuel (tail : List Char) : text.length + 1 ≤ (text ++ '\n' :: tail).length + 1 := by simp
  have hrest := (lineLocal_readLong? hq Nat.le.refl [] hline h).1
  refine ⟨hrest, fun tail => ?_⟩
  rw [readLongString?, newline?_append_newline hline hne hcr tail, Option.getD_none]
  exact (lineLocal_readLong? hq (hfuel tail) [] hline h).2 tail

/-- A quote that is not the first of three starts a string on one line. -/
theorem readString?_basic {text : List Char} (h : ¬['"', '"'] <+: text) :
    readString? ('"' :: text)
      = (readBasic? [] (text.length + 1) text).map fun (s, rest) => (String.ofList s, rest) := by
  rw [readString?.eq_def]
  simp only
  split
  · rename_i heq
    exact absurd (List.cons.inj heq).2 fun heq => h (heq ▸ ⟨_, rfl⟩)
  · simp at *
  · rename_i heq
    rw [(List.cons.inj heq).2]
  · simp at *
  · simp at *

/-- An apostrophe that is not the first of three starts a string on one line. -/
theorem readString?_literal {text : List Char} (h : ¬['\'', '\''] <+: text) :
    readString? ('\'' :: text)
      = (readLiteral? text).map fun (s, rest) => (String.ofList s, rest) := by
  rw [readString?.eq_def]
  simp only
  split
  · simp at *
  · rename_i heq
    exact absurd (List.cons.inj heq).2 fun heq => h (heq ▸ ⟨_, rfl⟩)
  · simp at *
  · rename_i heq
    rw [(List.cons.inj heq).2]
  · simp at *

/-- Whether a line starts with two quotes does not depend on the lines below it. -/
theorem not_prefix_append_newline {quote : Char} (hq : quote ≠ '\n') {text tail : List Char}
    (h : ¬[quote, quote] <+: text) : ¬[quote, quote] <+: text ++ '\n' :: tail := by
  rcases text with _ | ⟨c, _ | ⟨d, text⟩⟩
  · simp [hq]
  · simp [hq]
  · simpa using h

theorem lineLocal_readString? : LineLocal readString? readString? := by
  intro text s rest hline h
  cases text with
  | nil => cases h
  | cons c text =>
    have htext : '\n' ∉ text := fun hmem => hline (.tail _ hmem)
    by_cases hd : c = '"'
    · subst hd
      by_cases htwo : ['"', '"'] <+: text
      · obtain ⟨text, rfl⟩ := htwo
        have hlong := lineLocal_readLongString? (show '"' ≠ '\n' by decide)
        exact (hlong.map String.ofList) (by simp_all) h
      · rw [readString?_basic htwo] at h
        have hbasic {fuel : Nat} (hfuel : text.length + 1 ≤ fuel) :=
          (lineLocal_readBasic? hfuel []).map String.ofList htext h
        refine ⟨(hbasic Nat.le.refl).1, fun tail => ?_⟩
        rw [List.cons_append, readString?_basic (not_prefix_append_newline (by decide) htwo)]
        exact (hbasic (by simp)).2 tail
    by_cases hs : c = '\''
    · subst hs
      by_cases htwo : ['\'', '\''] <+: text
      · obtain ⟨text, rfl⟩ := htwo
        have hlong := lineLocal_readLongString? (show '\'' ≠ '\n' by decide)
        exact (hlong.map String.ofList) (by simp_all) h
      · rw [readString?_literal htwo] at h
        obtain ⟨hrest, h⟩ := lineLocal_readLiteral?.map String.ofList htext h
        refine ⟨hrest, fun tail => ?_⟩
        rw [List.cons_append, readString?_literal (not_prefix_append_newline (by decide) htwo)]
        exact h tail
    · simp [readString?, hd, hs] at h

/-! ## Keys -/

/-- A key without quotes is a run of key characters. -/
theorem readKeyPart?_bare {text : List Char} (hd : text.head? ≠ some '"')
    (hs : text.head? ≠ some '\'') : readKeyPart? text =
      if text.takeWhile isKeyChar = [] then none
      else some (String.ofList (text.takeWhile isKeyChar), text.dropWhile isKeyChar) := by
  rw [readKeyPart?.eq_def]
  split
  · exact absurd rfl hd
  · exact absurd rfl hs
  · rfl

theorem lineLocal_readKeyPart? : LineLocal readKeyPart? readKeyPart? := by
  intro text part rest hline h
  by_cases hd : text.head? = some '"'
  · obtain ⟨text, rfl⟩ := List.head?_eq_some_iff.1 hd
    have hbasic {fuel : Nat} (hfuel : text.length + 1 ≤ fuel) :=
      (lineLocal_readBasic? hfuel []).map String.ofList (fun hmem => hline (.tail _ hmem)) h
    exact ⟨(hbasic Nat.le.refl).1, fun tail => (hbasic (by simp)).2 tail⟩
  by_cases hs : text.head? = some '\''
  · obtain ⟨text, rfl⟩ := List.head?_eq_some_iff.1 hs
    exact lineLocal_readLiteral?.map String.ofList (fun hmem => hline (.tail _ hmem)) h
  · rw [readKeyPart?_bare hd hs] at h
    split at h
    · cases h
    · obtain ⟨rfl, rfl⟩ := Prod.mk.inj (Option.some.inj h)
      refine ⟨not_mem_dropWhile hline, fun tail => ?_⟩
      rw [readKeyPart?_bare (head?_append_newline_ne (by decide) hd tail)
        (head?_append_newline_ne (by decide) hs tail), takeWhile_append_newline (by decide),
        dropWhile_append_newline (by decide), if_neg ‹_›]

section Parts

variable {done : List String} {more : Nat} {text rest : List Char} {part : String}

theorem readParts?_dot {after : List Char}
    (hpart : readKeyPart? (skipSpace text) = some (part, rest)) (hdot : skipSpace rest = '.' :: after) :
    readParts? done (more + 1) text = readParts? (part :: done) more after := by
  simp only [readParts?, hpart, hdot, Option.bind_eq_bind, Option.bind_some]

theorem readParts?_last (hpart : readKeyPart? (skipSpace text) = some (part, rest))
    (hdot : (skipSpace rest).head? ≠ some '.') :
    readParts? done (more + 1) text = some (part :: done, skipSpace rest) := by
  simp only [readParts?, hpart, Option.bind_eq_bind, Option.bind_some]
  split
  · rename_i heq
    exact absurd (by rw [heq]; rfl) hdot
  · rfl

end Parts

theorem lineLocal_readParts? :
    ∀ (more : Nat) (done : List String), LineLocal (readParts? done more) (readParts? done more)
  | 0, done => by
    intro text parts rest hline h
    cases h
  | more + 1, done => by
    intro text parts rest hline h
    obtain ⟨⟨part, text'⟩, hpart, -⟩ := Option.bind_eq_some_iff.1 h
    obtain ⟨htext', hpart'⟩ := lineLocal_readKeyPart? (not_mem_skipSpace hline) hpart
    simp only [← skipSpace_append_newline] at hpart'
    have hskip := not_mem_skipSpace htext'
    by_cases hdot : (skipSpace text').head? = some '.'
    · obtain ⟨after, hdot⟩ := List.head?_eq_some_iff.1 hdot
      rw [hdot] at hskip
      rw [readParts?_dot hpart hdot] at h
      obtain ⟨hrest, h⟩ := lineLocal_readParts? more _ (fun hmem => hskip (.tail _ hmem)) h
      refine ⟨hrest, fun tail => ?_⟩
      rw [readParts?_dot (hpart' tail) (by rw [skipSpace_append_newline, hdot]; rfl)]
      exact h tail
    · rw [readParts?_last hpart hdot] at h
      obtain ⟨rfl, rfl⟩ := Prod.mk.inj (Option.some.inj h)
      refine ⟨hskip, fun tail => ?_⟩
      have hhead := head?_append_newline_ne (by decide) hdot tail
      rw [← skipSpace_append_newline] at hhead
      rw [readParts?_last (hpart' tail) hhead, skipSpace_append_newline]

theorem lineLocal_readKey? : LineLocal readKey? readKey? := by
  intro text key rest hline h
  rw [readKey?] at h
  split at h
  · rename_i last path rest' hparts
    obtain ⟨rfl, rfl⟩ := Prod.mk.inj (Option.some.inj h)
    obtain ⟨hrest, hparts⟩ := lineLocal_readParts? maxParts [] hline hparts
    exact ⟨hrest, fun tail => by rw [readKey?, hparts tail]⟩
  · cases h

end HouseStyle.Toml
