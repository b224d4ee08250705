import HouseStyle.Proofs.Pattern.Preference
import HouseStyle.Proofs.Rule.Literal

/-!
# Numbers by a pattern

A search for all matches of a pattern finds the literals of a text. The pattern takes a character
that separates literals, the digits with their fraction, and a type letter, up to the edge of a
word; the digits are what is asked for. At each place the preferred match reads what `readLiteral?`
reads (`map_literalAt?`). A match takes the separating character with it, and the search goes on
behind the match; but no such character belongs to a literal, so that the one in front of the next
literal is still to come. So the search and the reader find the same literals
(`literals_eq_captures`), at all places where one can be read (`mem_captures_iff`).
-/

namespace HouseStyle

open Pattern Text

/-! ## The pattern -/

/-- The word characters of ASCII. -/
def asciiWord : CodeSet := ⟨[(0x30, 0x39), (0x41, 0x5A), (0x5F, 0x5F), (0x61, 0x7A)]⟩

/-- The characters behind which no literal can start: those of words, and the point. -/
def wordOrPoint : CodeSet :=
  asciiWord.union <| foreignLetters.union <| foreignDigits.union (.single '.')

/-- The letters that may stand behind the digits of a number. -/
def typeLetters : CodeSet := ⟨"fFdDlL".toList.map fun c => (c.toNat, c.toNat)⟩

/-- A run of digits. -/
def digitRun : Pattern := .plus (.one .digit)

/-- A point and a run of digits. -/
def fraction : Pattern := .seq (.one (.single '.')) digitRun

/-- `(?:^|[^\w.])(\d+(?:\.\d+)?)[fFdDlL]?\b`, in three parts. -/
def numberPattern : Grouped where
  lead := .alt (.anchor .textStart) (.one (.not (.of wordOrPoint)))
  group := .seq digitRun (.opt fraction)
  tail := .seq (.opt (.one (.of typeLetters))) (.anchor (.wordEdge .every))

/-- Of ASCII, the tables beyond it hold nothing. -/
theorem contains_foreign_of_lt {c : Char} (hc : c.toNat < 0x80) :
    foreignLetters.contains c = false ∧ foreignDigits.contains c = false := by
  have hascii : (CodeSet.mk [(0, 0x7F)]).contains c = true :=
    CodeSet.contains_eq_true_iff.2
      ⟨_, List.mem_singleton_self _, Nat.zero_le _, Nat.le_of_lt_succ hc⟩
  exact ⟨CodeSet.contains_eq_false_of_disjoint (by decide +kernel) hascii,
    CodeSet.contains_eq_false_of_disjoint (by decide +kernel) hascii⟩

theorem contains_wordOrPoint (c : Char) : wordOrPoint.contains c = (isWord c || c == '.') := by
  have hpoint : (CodeSet.single '.').contains c = (c == '.') := CharClass.contains_single '.' c
  rw [wordOrPoint, CodeSet.contains_union, CodeSet.contains_union, CodeSet.contains_union, hpoint]
  by_cases hc : c.toNat < 0x80
  · have hall : ∀ n < 0x80, asciiWord.contains (Char.ofNat n) = isWord (Char.ofNat n) := by decide
    have hascii : asciiWord.contains c = isWord c := by simpa using hall c.toNat hc
    rw [hascii, (contains_foreign_of_lt hc).1, (contains_foreign_of_lt hc).2, Bool.false_or,
      Bool.false_or]
  · have hascii : asciiWord.contains c = false := by
      simp only [asciiWord, CodeSet.contains, List.any_cons, List.any_nil]
      grind
    rw [hascii, isWord, isLetterlike, isDigit, if_neg hc, if_neg hc, Bool.false_or, Bool.or_assoc]

theorem contains_lead (c : Char) : (CharClass.not (.of wordOrPoint)).contains c = separates c := by
  rw [CharClass.contains, CharClass.contains, contains_wordOrPoint, Bool.not_or]
  rfl

theorem contains_typeLetters (c : Char) :
    (CharClass.of typeLetters).contains c = "fFdDlL".toList.contains c := by
  rw [Bool.eq_iff_iff, CharClass.contains, CodeSet.contains_eq_true_iff, List.contains_iff_mem]
  constructor
  · rintro ⟨r, hr, hle, hge⟩
    obtain ⟨d, hd, rfl⟩ := List.mem_map.1 hr
    have hcd : c = d := Char.toNat_inj.1 (Nat.le_antisymm hge hle)
    rwa [hcd]
  · exact fun h => ⟨_, List.mem_map.2 ⟨c, h, rfl⟩, Nat.le_refl _, Nat.le_refl _⟩

theorem not_typeLetter_of_isDigit {c : Char} (h : isDigit c = true) :
    "fFdDlL".toList.contains c = false := by
  have hall : "fFdDlL".toList.all (fun c => !isDigit c) = true := by decide
  rw [Bool.eq_false_iff]
  intro hmem
  have := List.all_eq_true.1 hall c (List.contains_iff_mem.1 hmem)
  simp [h] at this

/-! ## Behind the digits -/

/-- The place behind a type letter, if there is one. -/
theorem reach_typeLetter (read rest : List Char) (c : Char) :
    (Regex.one (.of typeLetters) : Pattern).reach ⟨read, c :: rest⟩ =
      if "fFdDlL".toList.contains c then [⟨c :: read, rest⟩] else [] := by
  simp only [Regex.reach, contains_typeLetters]

/-- The edge of a word behind a word character is where the word ends. -/
theorem reach_wordEdge {d : Char} (hd : isWord d = true) (read rest : List Char) :
    (Regex.anchor (.wordEdge .every) : Pattern).reach ⟨d :: read, rest⟩ =
      if endsWord rest then [⟨d :: read, rest⟩] else [] := by
  rw [Regex.reach]
  cases rest <;>
    simp [Regex.gapAt, Anchor.holds, Alphabet.wordAt, Alphabet.isWord, hd, endsWord]

/-- Behind a word character, a match can end where a literal can. -/
theorem map_head?_reach_tail {d : Char} (hd : isWord d = true) (read rest : List Char) :
    (numberPattern.tail.reach ⟨d :: read, rest⟩).head?.map Place.rest =
      if endsLiteral rest then some (skipTypeLetter rest) else none := by
  have htail : numberPattern.tail.reach ⟨d :: read, rest⟩ =
      ((Regex.one (.of typeLetters)).reach ⟨d :: read, rest⟩).flatMap
        (Regex.anchor (.wordEdge .every) : Pattern).reach ++
        (Regex.anchor (.wordEdge .every) : Pattern).reach ⟨d :: read, rest⟩ := by
    simp [numberPattern, Regex.opt, Regex.reach]
  rw [htail, reach_wordEdge hd]
  cases rest with
  | nil => rfl
  | cons c rest =>
    rw [reach_typeLetter, endsLiteral, skipTypeLetter]
    by_cases hc : "fFdDlL".toList.contains c = true
    · have hword : isWord c = true := isWord_of_typeLetter (List.contains_iff_mem.1 hc)
      rw [if_pos hc, if_pos hc, List.flatMap_singleton, reach_wordEdge hword, hc, endsWord, hword]
      by_cases hend : endsWord rest = true <;> simp [hend]
    · rw [if_neg hc, if_neg hc, Bool.eq_false_iff.2 hc, endsWord]
      by_cases hword : isWord c = true <;> simp [hword]

/-- The preferred way to end a match behind digits: where the digits end, and where the match
ends. -/
def literalEnd? (b : Place) : Option (Place × Place) :=
  (numberPattern.tail.reach b).head?.map fun c => (b, c)

/-- Behind digits, a match ends as a literal does. -/
theorem map_literalEnd? (read rest : List Char) {digits : List Char} {d : Char}
    (hlast : digits.getLast? = some d) (hd : isDigit d = true) :
    (literalEnd? ⟨digits.reverse ++ read, rest⟩).map
        (fun m => (Place.upTo ⟨read, digits ++ rest⟩ m.1, m.2.rest)) = finish? digits rest := by
  obtain ⟨front, rfl⟩ := List.getLast?_eq_some_iff.1 hlast
  have hread : (front ++ [d]).reverse ++ read = d :: (front.reverse ++ read) := by simp
  have hmap := map_head?_reach_tail (isWord_of_isDigit hd) (front.reverse ++ read) rest
  rw [← hread] at hmap
  have hfinish := congrArg (Option.map fun after => (front ++ [d], after)) hmap
  rw [Option.map_map] at hfinish
  rw [literalEnd?, Option.map_map, finish?]
  refine Eq.trans ?_ (hfinish.trans (by split <;> rfl))
  simp only [Function.comp_def, (Place.leads_append read (front ++ [d]) rest).upTo_eq]

/-- A match cannot end within a run of digits. -/
theorem literalEnd?_eq_none (read rest : List Char) {u v : List Char}
    (h : ∀ c ∈ u ++ v, isDigit c = true) (hu : u ≠ []) (hv : v ≠ []) :
    literalEnd? ⟨u.reverse ++ read, v ++ rest⟩ = none := by
  obtain ⟨e, v, rfl⟩ := List.exists_cons_of_ne_nil hv
  have he : isDigit e = true := h e (by simp)
  have hmap := map_literalEnd? read (e :: v ++ rest) (List.getLast?_eq_some_getLast hu)
    (h _ (List.mem_append_left _ (List.getLast_mem hu)))
  have hends : endsLiteral (e :: v ++ rest) = false := by
    rw [List.cons_append, endsLiteral, isWord_of_isDigit he, not_typeLetter_of_isDigit he]
    rfl
  rw [finish?, hends] at hmap
  exact Option.map_eq_none_iff.1 hmap

/-! ## The digits and their fraction -/

/-- The preferred way to match digits, their fraction and what belongs behind them. -/
def literalAt? (a : Place) : Option (Place × Place) :=
  (numberPattern.group.reach a).findSome? literalEnd?

/-- The preferred way to match what belongs behind the first digits. -/
def afterDigits? (b : Place) : Option (Place × Place) :=
  ((Regex.opt fraction).reach b).findSome? literalEnd?

theorem literalAt?_eq (a : Place) :
    literalAt? a = (digitRun.reach a).findSome? afterDigits? :=
  Regex.findSome?_reach_seq digitRun (.opt fraction) a

theorem afterDigits?_eq (b : Place) :
    afterDigits? b = ((fraction.reach b).findSome? literalEnd?).or (literalEnd? b) :=
  Regex.findSome?_reach_opt fraction b

theorem reach_fraction_point (read rest : List Char) :
    fraction.reach ⟨read, '.' :: rest⟩ = digitRun.reach ⟨'.' :: read, rest⟩ := by
  simp [fraction, Regex.reach]

theorem reach_fraction_of_ne (read : List Char) {rest : List Char} (h : ∀ c ∈ rest.head?, c ≠ '.') :
    fraction.reach ⟨read, rest⟩ = [] := by
  cases rest with
  | nil => rfl
  | cons c rest => simp [fraction, Regex.reach, h c rfl]

theorem reach_digitRun_eq_nil (read : List Char) {rest : List Char}
    (h : ∀ c ∈ rest.head?, isDigit c = false) : digitRun.reach ⟨read, rest⟩ = [] :=
  Regex.reach_plus_one_of_not (k := .digit) read h

/-- A run of digits is read to its end, if it is of no use to stop before. -/
theorem findSome?_reach_digitRun {f : Place → Option (Place × Place)} (read : List Char)
    {digits rest : List Char} (h : IsDigits digits rest)
    (hf : ∀ u v, digits = u ++ v → u ≠ [] → v ≠ [] → f ⟨u.reverse ++ read, v ++ rest⟩ = none) :
    (digitRun.reach ⟨read, digits ++ rest⟩).findSome? f = f ⟨digits.reverse ++ read, rest⟩ :=
  Regex.findSome?_reach_plus_one (k := .digit) read h.2 h.1 hf

/-- A point and digits are read to their end. -/
theorem findSome?_reach_fraction (read : List Char) {decimals rest : List Char}
    (h : IsDigits decimals rest) :
    (fraction.reach ⟨read, '.' :: (decimals ++ rest)⟩).findSome? literalEnd? =
      literalEnd? ⟨('.' :: decimals).reverse ++ read, rest⟩ := by
  rw [reach_fraction_point, findSome?_reach_digitRun _ h]
  · simp
  · rintro u v rfl hu hv
    exact literalEnd?_eq_none _ _ h.2.1 hu hv

/-- Without a point and digits there is no fraction to be read. -/
theorem reach_fraction_eq_nil (read : List Char) {rest : List Char}
    (h : ¬ ∃ decimals after, rest = '.' :: (decimals ++ after) ∧ IsDigits decimals after) :
    fraction.reach ⟨read, rest⟩ = [] := by
  by_cases hpoint : ∃ tail, rest = '.' :: tail
  · obtain ⟨tail, rfl⟩ := hpoint
    obtain ⟨decimals, after, rfl, hspans⟩ := exists_spans isDigit tail
    by_cases hne : decimals = []
    · subst hne
      rw [reach_fraction_point, List.nil_append, reach_digitRun_eq_nil _ hspans.2]
    · exact absurd ⟨decimals, after, rfl, hne, hspans⟩ h
  · refine reach_fraction_of_ne read fun c hc hpoint' => ?_
    obtain ⟨tail, rfl⟩ := List.head?_eq_some_iff.1 (Option.mem_def.1 hc)
    exact hpoint ⟨tail, by rw [hpoint']⟩

/-- Behind the first digits, the preferred match takes the fraction if it can, and else ends. -/
theorem map_afterDigits? (read : List Char) {digits rest : List Char} (h : IsDigits digits rest) :
    (afterDigits? ⟨digits.reverse ++ read, rest⟩).map
        (fun m => (Place.upTo ⟨read, digits ++ rest⟩ m.1, m.2.rest)) =
      (withFraction? digits rest).or (finish? digits rest) := by
  obtain ⟨d, hd, hdigit⟩ := h.exists_getLast?
  rw [afterDigits?_eq, Option.map_or, map_literalEnd? read rest hd hdigit]
  congr 1
  by_cases hpoint : ∃ decimals after, rest = '.' :: (decimals ++ after) ∧ IsDigits decimals after
  · obtain ⟨decimals, after, rfl, hdecimals⟩ := hpoint
    obtain ⟨e, he, hdigit'⟩ := hdecimals.exists_getLast?
    have hlast : (digits ++ '.' :: decimals).getLast? = some e := by
      rw [getLast?_append_cons, he]
      rfl
    have hmap := map_literalEnd? read after hlast hdigit'
    rw [List.reverse_append, List.append_assoc, List.append_assoc, List.cons_append] at hmap
    rw [findSome?_reach_fraction _ hdecimals, withFraction?_point _ hdecimals, hmap]
  · rw [reach_fraction_eq_nil _ hpoint, withFraction?_eq_none _ hpoint]
    rfl

/-- At each place, the preferred match reads what `readLiteral?` reads. -/
theorem map_literalAt? (a : Place) :
    (literalAt? a).map (fun m => (a.upTo m.1, m.2.rest)) = readLiteral? a.rest := by
  obtain ⟨read, text⟩ := a
  obtain ⟨digits, rest, rfl, hspans⟩ := exists_spans isDigit text
  by_cases hne : digits = []
  · subst hne
    rw [literalAt?_eq, List.nil_append, readLiteral?_eq_none hspans.2,
      reach_digitRun_eq_nil _ hspans.2]
    rfl
  · have hdigits : IsDigits digits rest := ⟨hne, hspans⟩
    rw [literalAt?_eq, findSome?_reach_digitRun _ hdigits, map_afterDigits? _ hdigits,
      readLiteral?_append hdigits]
    rintro u v rfl hu hv
    rw [afterDigits?_eq, literalEnd?_eq_none _ _ hspans.1 hu hv, reach_fraction_of_ne]
    · rfl
    · obtain ⟨e, v, rfl⟩ := List.exists_cons_of_ne_nil hv
      have he : isDigit e = true := hspans.1 e (by simp)
      rintro _ ⟨⟩ rfl
      exact absurd he (by decide)

theorem literalAt?_eq_none_iff {a : Place} : literalAt? a = none ↔ readLiteral? a.rest = none := by
  rw [← map_literalAt?, Option.map_eq_none_iff]

theorem literalAt?_nil (read : List Char) : literalAt? ⟨read, []⟩ = none :=
  literalAt?_eq_none_iff.2 (readLiteral?_eq_none (by simp))

/-- A match ends behind what it has read. -/
theorem exists_leads_of_literalAt? {a b c : Place} (h : literalAt? a = some (b, c)) :
    ∃ used, a.Leads used c := by
  obtain ⟨b', hb, hend⟩ := List.exists_of_findSome?_eq_some h
  obtain ⟨c', hc, hpair⟩ := Option.map_eq_some_iff.1 hend
  obtain ⟨rfl, rfl⟩ := Prod.mk.inj hpair
  obtain ⟨digits, hdigits, -⟩ := (Regex.listsEnds_reach numberPattern.group a b').1 hb
  obtain ⟨letters, hletters, -⟩ :=
    (Regex.listsEnds_reach numberPattern.tail b' c').1 (List.mem_of_head? hc)
  exact ⟨digits ++ letters, hdigits.trans hletters⟩

/-- Where a literal is read, the preferred match reads it. -/
theorem literalAt?_of_readLiteral? (read : List Char) {used rest digits : List Char}
    (h : readLiteral? (used ++ rest) = some (digits, rest)) :
    ∃ b, literalAt? ⟨read, used ++ rest⟩ = some (b, ⟨used.reverse ++ read, rest⟩) ∧
      Place.upTo ⟨read, used ++ rest⟩ b = digits := by
  rw [← map_literalAt? ⟨read, used ++ rest⟩] at h
  obtain ⟨⟨b, c⟩, hm, hpair⟩ := Option.map_eq_some_iff.1 h
  obtain ⟨hdigits, hrest⟩ := Prod.mk.inj hpair
  obtain ⟨used', htext, hread⟩ := exists_leads_of_literalAt? hm
  obtain ⟨read', rest'⟩ := c
  obtain rfl : rest' = rest := hrest
  obtain rfl : used = used' := List.append_cancel_right htext
  exact ⟨b, by rw [hm, ← hread], hdigits⟩

/-! ## The search -/

/-- What the search finds from a place on where a literal may start. -/
def capturesAt (a : Place) : List (List Char × List Char) :=
  match literalAt? a with
  | some (b, c) => (a.read.reverse, a.upTo b) :: numberPattern.captures c.read c.rest
  | none => numberPattern.captures a.read a.rest

theorem capturesAt_of_eq_none {a : Place} (h : literalAt? a = none) :
    capturesAt a = numberPattern.captures a.read a.rest := by
  rw [capturesAt, h]

theorem capturesAt_of_eq_some {a b c : Place} (h : literalAt? a = some (b, c)) :
    capturesAt a = (a.read.reverse, a.upTo b) :: numberPattern.captures c.read c.rest := by
  rw [capturesAt, h]

theorem first?_eq (x : Place) : numberPattern.first? x =
    (numberPattern.lead.reach x).findSome? fun a => (literalAt? a).map fun m => (a, m) := by
  rw [Grouped.first?]
  congr 1
  funext a
  rw [literalAt?, List.map_findSome?]
  simp [literalEnd?, Function.comp_def]

theorem length_lt_of_literalAt? {a b c : Place} (h : literalAt? a = some (b, c)) :
    c.rest.length < a.rest.length := by
  have hread := map_literalAt? a
  rw [h] at hread
  exact length_lt_of_readLiteral? hread.symm

/-- A match starts at the start of the text, or with a character that separates literals. -/
theorem reach_lead (read rest : List Char) : numberPattern.lead.reach ⟨read, rest⟩ =
    (if read = [] then [⟨read, rest⟩] else []) ++
      ((rest.head?.filter separates).map fun c => Place.mk (c :: read) rest.tail).toList := by
  have hstart : (Regex.anchor .textStart : Pattern).reach ⟨read, rest⟩ =
      if read = [] then [⟨read, rest⟩] else [] := by
    cases read <;> rfl
  rw [numberPattern, Regex.reach, hstart]
  congr 1
  cases rest with
  | nil => rfl
  | cons c rest =>
    simp only [Regex.reach, contains_lead]
    by_cases hc : separates c = true <;> simp [hc, Option.filter]

/-- At the start of the text a literal may start. -/
theorem capturesAt_start (text : List Char) :
    capturesAt ⟨[], text⟩ = numberPattern.captures [] text := by
  cases h : literalAt? ⟨[], text⟩ with
  | none => exact capturesAt_of_eq_none h
  | some m =>
    have hfirst : numberPattern.first? ⟨[], text⟩ = some (⟨[], text⟩, m) := by
      rw [first?_eq, reach_lead, if_pos rfl, List.singleton_append, List.findSome?_cons, h]
      rfl
    rw [capturesAt_of_eq_some h, Grouped.captures_of_eq_some hfirst (length_lt_of_literalAt? h)]

/-- Where no literal starts at the start of the text, a match starts with a character that separates
literals. -/
theorem first?_cons {read : List Char} {c : Char} {rest : List Char}
    (h : read = [] → literalAt? ⟨[], c :: rest⟩ = none) :
    numberPattern.first? ⟨read, c :: rest⟩ = if separates c then
      (literalAt? ⟨c :: read, rest⟩).map fun m => (⟨c :: read, rest⟩, m) else none := by
  have hstart : (if read = [] then [Place.mk read (c :: rest)] else []).findSome?
      (fun a => (literalAt? a).map fun m => (a, m)) = none := by
    split
    next hread => rw [List.findSome?_singleton, hread, h hread]; rfl
    next => rfl
  rw [first?_eq, reach_lead, List.findSome?_append, hstart, Option.none_or]
  by_cases hc : separates c = true <;> simp [hc, Option.filter]

theorem captures_cons {read : List Char} {c : Char} {rest : List Char}
    (h : read = [] → literalAt? ⟨[], c :: rest⟩ = none) :
    numberPattern.captures read (c :: rest) =
      if separates c then capturesAt ⟨c :: read, rest⟩
      else numberPattern.captures (c :: read) rest := by
  have hfirst := first?_cons h
  by_cases hc : separates c = true
  · rw [if_pos hc] at hfirst ⊢
    cases hm : literalAt? ⟨c :: read, rest⟩ with
    | none =>
      rw [hm] at hfirst
      rw [capturesAt_of_eq_none hm, Grouped.captures_cons_of_eq_none hfirst]
    | some m =>
      rw [hm] at hfirst
      rw [capturesAt_of_eq_some hm, Grouped.captures_of_eq_some hfirst]
      exact (length_lt_of_literalAt? hm).trans (Nat.lt_succ_self _)
  · rw [if_neg hc] at hfirst ⊢
    exact Grouped.captures_cons_of_eq_none hfirst

theorem captures_nil (read : List Char) : numberPattern.captures read [] = [] := by
  refine Grouped.captures_nil_of_eq_none ?_
  rw [first?_eq, reach_lead, List.findSome?_append]
  split <;> simp [literalAt?_nil]

/-- The search finds the literals with their places. -/
theorem Placed.eq_captures {fresh : Bool} {read text : List Char}
    {found : List (List Char × List Char)} (h : Placed fresh read text found)
    (hstart : read = [] → fresh = true) :
    found = if fresh then capturesAt ⟨read, text⟩ else numberPattern.captures read text := by
  induction h with
  | @nil fresh read =>
    rw [capturesAt_of_eq_none (literalAt?_nil read), captures_nil]
    split <;> rfl
  | @literal read used rest digits found h _ ih =>
    obtain ⟨b, hm, rfl⟩ := literalAt?_of_readLiteral? read h
    have hfound := ih fun hnil => absurd (List.append_eq_nil_iff.1 hnil).1
      (List.reverse_ne_nil_iff.2 (ne_nil_of_readLiteral? h))
    rw [if_neg (by decide)] at hfound
    rw [if_pos rfl, capturesAt_of_eq_some hm, ← hfound]
  | @skip fresh read rest c found h _ ih =>
    have hnone : fresh = true → literalAt? ⟨read, c :: rest⟩ = none := fun hfresh =>
      literalAt?_eq_none_iff.2 (h hfresh)
    have hcons : found = numberPattern.captures read (c :: rest) := by
      rw [captures_cons fun hread => hread ▸ hnone (hstart hread)]
      exact ih (by simp)
    split
    next hfresh => rw [capturesAt_of_eq_none (hnone hfresh), hcons]
    next => exact hcons

/-! ## The literals found -/

/-- The search finds the literals that the reader finds. -/
theorem literals_eq_captures (text : List Char) :
    literals text = (numberPattern.captures [] text).map Prod.snd := by
  obtain ⟨found, hfound, hmap⟩ := exists_placed true [] text
  rw [literals, ← hmap, hfound.eq_captures fun _ => rfl, if_pos rfl, capturesAt_start]

/-- A literal can start behind a text: the text is empty, or ends with a character of no word that
is not a point. -/
def IsFresh (before : List Char) : Prop := ∀ c ∈ before.getLast?, isWord c = false ∧ c ≠ '.'

theorem startsBehind_iff_isFresh {before : List Char} :
    StartsBehind true before ↔ IsFresh before := by
  rw [StartsBehind, IsFresh]
  cases before.getLast? <;> simp [separates]

/-- The search leaves out no place where a literal can start. -/
theorem mem_captures_iff {text before digits : List Char} :
    (before, digits) ∈ numberPattern.captures [] text ↔
      ∃ rest, text = before ++ rest ∧ IsFresh before ∧ ReadsNumber rest digits := by
  obtain ⟨found, hfound, -⟩ := exists_placed true [] text
  have heq := hfound.eq_captures fun _ => rfl
  rw [if_pos rfl, capturesAt_start] at heq
  rw [← heq, hfound.mem_iff]
  constructor
  · rintro ⟨gap, rest, rfl, rfl, hstart, hreads⟩
    exact ⟨rest, by simp, startsBehind_iff_isFresh.1 hstart, hreads⟩
  · rintro ⟨rest, rfl, hfresh, hreads⟩
    exact ⟨before, rest, rfl, by simp, startsBehind_iff_isFresh.2 hfresh, hreads⟩

end HouseStyle
