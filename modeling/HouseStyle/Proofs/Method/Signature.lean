import HouseStyle.Method.Opening
import HouseStyle.Proofs.Method.Call
import HouseStyle.Proofs.Pattern.Preference

/-!
# The signature of a method by a pattern

The signature that a method is shown by can be asked for with a pattern: a blank, and behind it
letters with parentheses, the last of which is the last one of the line. The preferred match reads
what `callAt?` reads (`head?_reach_group`), so that the signature of a line is what the first match
holds (`signature?_eq_captures`).

A line without a match is shown up to its first brace, whether or not the method opens there. Of
the lines that open a method, exactly those with no brace in front of the opening one are shown up
to that (`displayName_eq_trim_head_iff`).
-/

namespace HouseStyle

open Pattern Text

/-! ## The pattern -/

/-- `.*\)`. -/
def throughParenthesis : Pattern := .seq (.star (.one .notNewline)) (.one (.single ')'))

/-- `\(.*\)`. -/
def parenthesizedPattern : Pattern := .seq (.one (.single '(')) throughParenthesis

/-- `\s?\(.*\)`. -/
def argumentsPattern : Pattern := .seq (.opt (.one .blank)) parenthesizedPattern

/-- `\s([a-zA-Z]+\s?\(.*\))`, in three parts, the last of which is empty. -/
def signaturePattern : Grouped where
  lead := .one .blank
  group := .seq (.plus (.one (.of asciiLetters))) argumentsPattern
  tail := .empty

/-! ## The arguments -/

theorem head?_reach_parenthesis (read rest : List Char) (c : Char) :
    ((Regex.one (.single ')') : Pattern).reach ⟨read, c :: rest⟩).head? =
      (if c = ')' then some [')'] else none).map (Place.past ⟨read, c :: rest⟩) := by
  by_cases h : c = ')' <;> simp [Regex.reach, h, Place.past]

theorem contains_notNewline (c : Char) : CharClass.notNewline.contains c = (c != '\n') := by
  rw [CharClass.notNewline, CharClass.contains, CharClass.contains_single]
  rfl

/-- The pattern reads up to the last closing parenthesis of the line. -/
theorem head?_reach_throughParenthesis : ∀ read rest : List Char,
    (throughParenthesis.reach ⟨read, rest⟩).head? =
      (throughLast? ')' (rest.takeWhile (· != '\n'))).map (Place.past ⟨read, rest⟩)
  | read, [] => by
    rw [throughParenthesis, Regex.head?_reach_seq, Regex.reach_star_one_of_not _ (by simp)]
    rfl
  | read, c :: rest => by
    by_cases hc : c = '\n'
    · subst hc
      rw [throughParenthesis, Regex.head?_reach_seq,
        Regex.reach_star_one_of_not _ (by simp [contains_notNewline])]
      rfl
    · have ih := head?_reach_throughParenthesis (c :: read) rest
      have hmore : (c != '\n') = true := bne_iff_ne.2 hc
      rw [throughParenthesis, Regex.head?_reach_seq] at ih ⊢
      rw [Regex.reach_star_one_cons _ _ ((contains_notNewline c).trans hmore),
        List.findSome?_append, ih, List.findSome?_singleton, head?_reach_parenthesis,
        List.takeWhile_cons, if_pos hmore, throughLast?_cons, Option.map_or, Option.map_map,
        Place.past_comp_cons]

/-- The arguments at the start of a text, with their parentheses. -/
def parenthesized? : List Char → Option (List Char)
  | '(' :: rest => (throughLast? ')' (rest.takeWhile (· != '\n'))).map ('(' :: ·)
  | _ => none

theorem parenthesized?_of_ne {c : Char} (h : c ≠ '(') (rest : List Char) :
    parenthesized? (c :: rest) = none := by
  simp [parenthesized?, h]

theorem head?_reach_parenthesized (read rest : List Char) :
    (parenthesizedPattern.reach ⟨read, rest⟩).head? =
      (parenthesized? rest).map (Place.past ⟨read, rest⟩) := by
  cases rest with
  | nil => rfl
  | cons c rest =>
    by_cases hc : c = '('
    · subst hc
      rw [parenthesized?, Option.map_map, Place.past_comp_cons, ← head?_reach_throughParenthesis]
      simp [parenthesizedPattern, Regex.reach]
    · rw [parenthesized?_of_ne hc]
      simp [parenthesizedPattern, Regex.reach, hc]

/-- The arguments at the start of a text, perhaps behind a blank. -/
def arguments? (text : List Char) : Option (List Char) := do
  let (opening, rest) ← argumentsOpening? text
  (throughLast? ')' (rest.takeWhile (· != '\n'))).map (opening ++ ·)

theorem arguments?_cons (c : Char) (rest : List Char) : arguments? (c :: rest) =
    (if isBlank c then (parenthesized? rest).map (c :: ·) else none).or
      (parenthesized? (c :: rest)) := by
  by_cases hc : c = '('
  · subst hc
    rfl
  · rw [parenthesized?_of_ne hc, Option.or_none, arguments?]
    cases rest with
    | nil => simp [argumentsOpening?, parenthesized?]
    | cons d rest =>
      by_cases hd : d = '('
      · subst hd
        by_cases hb : isBlank c = true <;>
          simp [argumentsOpening?, hb, parenthesized?, Function.comp_def]
      · simp [argumentsOpening?, hd, parenthesized?]

theorem head?_reach_arguments (read rest : List Char) :
    (argumentsPattern.reach ⟨read, rest⟩).head? =
      (arguments? rest).map (Place.past ⟨read, rest⟩) := by
  cases rest with
  | nil => rfl
  | cons c rest =>
    rw [argumentsPattern, Regex.head?_reach_seq, Regex.findSome?_reach_opt,
      head?_reach_parenthesized, arguments?_cons, Option.map_or]
    congr 1
    by_cases hb : isBlank c = true
    · rw [if_pos hb, Option.map_map, Place.past_comp_cons, ← head?_reach_parenthesized]
      simp [Regex.reach, CharClass.contains, hb]
    · rw [if_neg hb]
      simp [Regex.reach, CharClass.contains, hb]

/-! ## The call -/

theorem callAt?_eq (text : List Char) : callAt? text =
    if text.takeWhile Char.isAlpha = [] then none
    else (arguments? (text.dropWhile Char.isAlpha)).map (text.takeWhile Char.isAlpha ++ ·) := by
  rw [callAt?, arguments?]
  by_cases h : text.takeWhile Char.isAlpha = []
  · simp [h]
  · cases argumentsOpening? (text.dropWhile Char.isAlpha) with
    | none => simp [h]
    | some o => cases hlast : throughLast? ')' (o.2.takeWhile (· != '\n')) <;> simp [h, hlast]

/-- Arguments do not start with a letter. -/
theorem arguments?_of_isAlpha {c : Char} (hc : c.isAlpha = true) (rest : List Char) :
    arguments? (c :: rest) = none := by
  rw [arguments?, Option.bind_eq_bind, Option.bind_eq_none_iff]
  rintro ⟨opening, after⟩ h
  obtain ⟨gap, hg, heq⟩ := exists_of_argumentsOpening?_eq_some h
  have hhead := (hg.spans_isAlpha (List.forall_mem_nil (Char.isAlpha · = true)) after).2 c
  rw [← heq] at hhead
  simp [hc] at hhead

/-- The preferred match at a place reads what `callAt?` reads. -/
theorem head?_reach_group (x : Place) :
    (signaturePattern.group.reach x).head? = (callAt? x.rest).map x.past := by
  obtain ⟨read, rest⟩ := x
  obtain ⟨name, rest, rfl, hspans⟩ := exists_spans Char.isAlpha rest
  have hletters : (CharClass.of asciiLetters).contains = Char.isAlpha :=
    funext contains_asciiLetters
  rw [callAt?_eq, hspans.takeWhile_eq, hspans.dropWhile_eq, signaturePattern,
    Regex.head?_reach_seq]
  rw [← hletters] at hspans
  by_cases hne : name = []
  · subst hne
    rw [if_pos rfl, List.nil_append, Regex.reach_plus_one_of_not read hspans.2]
    rfl
  · rw [if_neg hne, Regex.findSome?_reach_plus_one read hspans hne, head?_reach_arguments]
    · rw [Option.map_map, Place.past_comp_append]
    · rintro u v rfl - hv
      obtain ⟨c, v, rfl⟩ := List.exists_cons_of_ne_nil hv
      rw [head?_reach_arguments, List.cons_append, arguments?_of_isAlpha]
      · rfl
      · rw [← hletters]
        exact hspans.1 c (by simp)

/-- What is read stands at the start of the text. -/
theorem isPrefix_of_callAt?_eq_some {text name : List Char} (h : callAt? text = some name) :
    name <+: text := by
  have hhead := head?_reach_group ⟨[], text⟩
  rw [h, Option.map_some] at hhead
  obtain ⟨found, ⟨hrest, hread⟩, -⟩ :=
    (Regex.listsEnds_reach _ _ _).1 (List.mem_of_mem_head? (Option.mem_def.2 hhead))
  have hname : name = found := by simpa [Place.past] using hread
  subst hname
  exact ⟨_, hrest.symm⟩

/-! ## The search -/

theorem findSome?_some {α β : Type} (g : α → β) :
    ∀ l : List α, (l.findSome? fun x => some (g x)) = l.head?.map g
  | [] => rfl
  | _ :: _ => rfl

theorem first?_signature_nil (read : List Char) : signaturePattern.first? ⟨read, []⟩ = none :=
  rfl

/-- Behind a blank, the preferred match is that of a name with its arguments. -/
theorem first?_signature_cons (read rest : List Char) (c : Char) :
    signaturePattern.first? ⟨read, c :: rest⟩ =
      (if isBlank c then callAt? rest else none).map fun name =>
        let behind := Place.past ⟨c :: read, rest⟩ name
        (⟨c :: read, rest⟩, behind, behind) := by
  have hlead : signaturePattern.lead.reach ⟨read, c :: rest⟩ =
      if isBlank c then [⟨c :: read, rest⟩] else [] := rfl
  have htail (a b : Place) : ((signaturePattern.tail.reach b).head?.map fun e => (a, b, e)) =
      some (a, b, b) := rfl
  rw [Grouped.first?, hlead]
  by_cases hc : isBlank c = true
  · simp only [if_pos hc, List.findSome?_singleton, htail]
    rw [findSome?_some, head?_reach_group, Option.map_map]
    rfl
  · rw [if_neg hc, if_neg hc]
    rfl

/-- The signature of a text is the second part of the first match in it. -/
theorem signature?_eq_captures (read : List Char) : ∀ text : List Char,
    signature? text = (signaturePattern.captures read text).head?.map Prod.snd
  | [] => by
    rw [Grouped.captures_nil_of_eq_none (first?_signature_nil read)]
    rfl
  | c :: rest => by
    have hfirst := first?_signature_cons read rest c
    rw [signature?]
    cases hcall : if isBlank c then callAt? rest else none with
    | none =>
      rw [hcall, Option.map_none] at hfirst
      rw [Grouped.captures_cons_of_eq_none hfirst]
      exact signature?_eq_captures (c :: read) rest
    | some name =>
      rw [hcall, Option.map_some] at hfirst
      have hname : name <+: rest := by
        by_cases hc : isBlank c = true
        · rw [if_pos hc] at hcall
          exact isPrefix_of_callAt?_eq_some hcall
        · rw [if_neg hc] at hcall
          cases hcall
      have hlt : (Place.past ⟨c :: read, rest⟩ name).rest.length < (c :: rest).length := by
        simp only [Place.past, List.length_drop, List.length_cons]
        omega
      rw [Grouped.captures_of_eq_some hfirst hlt, List.head?_cons, Option.map_some,
        Place.upTo_past hname]

theorem signature?_cons_eq_none_iff {c : Char} {rest : List Char} :
    signature? (c :: rest) = none ↔
      (if isBlank c then callAt? rest else none) = none ∧ signature? rest = none := by
  rw [signature?]
  cases if isBlank c then callAt? rest else none <;> simp

/-- There is no signature if no match starts anywhere. -/
theorem signature?_eq_none_iff_first? (read : List Char) : ∀ text : List Char,
    signature? text = none ↔
      ∀ u v, text = u ++ v → signaturePattern.first? ⟨u.reverse ++ read, v⟩ = none
  | [] => by
    refine iff_of_true rfl fun u v h => ?_
    rw [(List.append_eq_nil_iff.1 h.symm).2, first?_signature_nil]
  | c :: rest => by
    rw [signature?_cons_eq_none_iff, signature?_eq_none_iff_first? (c :: read) rest]
    constructor
    · rintro ⟨hhere, hbehind⟩ u v h
      cases u with
      | nil =>
        obtain rfl : c :: rest = v := h
        rw [List.reverse_nil, List.nil_append, first?_signature_cons, hhere, Option.map_none]
      | cons d u =>
        obtain ⟨rfl, rfl⟩ := List.cons.inj h
        simpa using hbehind u v rfl
    · intro h
      have hhere := h [] (c :: rest) rfl
      rw [List.reverse_nil, List.nil_append, first?_signature_cons,
        Option.map_eq_none_iff] at hhere
      exact ⟨hhere, fun u v huv => by simpa using h (c :: u) v (by rw [huv]; rfl)⟩

/-- There is a signature where the pattern occurs. -/
theorem signature?_eq_none_iff {text : List Char} :
    signature? text = none ↔ ¬ Occurs signaturePattern.whole text := by
  rw [signature?_eq_none_iff_first? [], Grouped.occurs_whole_iff]
  simp

/-! ## Lines without a signature -/

/-- A line without a signature that opens a method is shown up to its first brace. This is the text
in front of the opening brace exactly if no brace stands in that text. -/
theorem displayName_eq_trim_head_iff {text : List Char} {o : Opening}
    (hopen : Opening.find? text = some o) (hsignature : ¬ Occurs signaturePattern.whole text) :
    displayName text = trim (text.takeWhile (· != '{')) ∧
      (displayName text = trim o.head.dropLast ↔ '{' ∉ o.head.dropLast) := by
  obtain ⟨htext, hlast⟩ := Opening.eq_of_find? hopen
  have hname : displayName text = trim (text.takeWhile (· != '{')) := by
    rw [displayName, signature?_eq_none_iff.2 hsignature, Option.getD_none]
  refine ⟨hname, fun h hmem => ?_, fun h => ?_⟩
  · have hbrace := (mem_trim_iff (by decide)).2 hmem
    rw [← h, hname, mem_trim_iff (by decide)] at hbrace
    simpa using List.mem_takeWhile_imp hbrace
  · have hcut : text = o.head.dropLast ++ '{' :: o.body := by
      rw [htext, ← List.dropLast_append_getLast? _ hlast]
      simp
    rw [hname, hcut, takeWhile_append_of_not_mem h]

theorem displayName_eq_trim_head_iff_run :
    Opening.find? "  \x7d run2 () \x7b".toList = some ⟨"  \x7d run2 () \x7b".toList, []⟩ ∧
      ¬ Occurs signaturePattern.whole "  \x7d run2 () \x7b".toList ∧
      displayName "  \x7d run2 () \x7b".toList = "\x7d run2 ()".toList := by
  have hopen : Opening.find? "  \x7d run2 () \x7b".toList =
      some ⟨"  \x7d run2 () \x7b".toList, []⟩ := by decide
  have hsignature : ¬ Occurs signaturePattern.whole "  \x7d run2 () \x7b".toList :=
    signature?_eq_none_iff.1 (by decide)
  have hhead : '{' ∉ "  \x7d run2 () \x7b".toList.dropLast := by decide
  exact ⟨hopen, hsignature, (displayName_eq_trim_head_iff hopen hsignature).2.2 hhead⟩

/-- A method that opens behind another brace is shown without its own name. -/
theorem displayName_ne_trim_head_class :
    Opening.find? "class Box \x7b int get2() \x7b".toList =
        some ⟨"class Box \x7b int get2() \x7b".toList, []⟩ ∧
      ¬ Occurs signaturePattern.whole "class Box \x7b int get2() \x7b".toList ∧
      displayName "class Box \x7b int get2() \x7b".toList = "class Box".toList ∧
      trim "class Box \x7b int get2() \x7b".toList.dropLast =
        "class Box \x7b int get2()".toList := by
  have hopen : Opening.find? "class Box \x7b int get2() \x7b".toList =
      some ⟨"class Box \x7b int get2() \x7b".toList, []⟩ := by decide
  have hsignature : ¬ Occurs signaturePattern.whole "class Box \x7b int get2() \x7b".toList :=
    signature?_eq_none_iff.1 (by decide)
  exact ⟨hopen, hsignature, by decide, by decide⟩

end HouseStyle
