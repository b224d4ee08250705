import HouseStyle.Proofs.Json.Written
import HouseStyle.Proofs.Toml.Entry

/-!
# Plain values

A text stands for a value (`ReadsAs`) if it is read as that value and only blanks and a remark are
left over. The digits of a number, the two truth values, and a text between apostrophes that
holds no apostrophe and no control character stand for themselves.
-/

namespace HouseStyle.Toml

/-- The rest of a line behind an equals sign stands for a value. -/
structure ReadsAs (text : List Char) (value : Value) : Prop where
  isLine : '\n' ∉ text
  /-- The value is read from it, and nothing else follows on the line. -/
  read : ∃ rest, readValue? maxDepth (text.length + 2) (skipSpace text) = some (value, rest)
    ∧ lineEnd? rest = some []

/-! ## Numbers -/

section Digits

variable {digits : List Char}

/-- A run of digits holds nothing but digits. -/
theorem not_mem_digits (hdigits : ∀ c ∈ digits, c.isDigit = true) {c : Char}
    (hc : c.isDigit = false) : c ∉ digits := by
  intro hmem
  rw [hdigits c hmem] at hc
  cases hc

theorem ungroup?_digits (hdigits : ∀ c ∈ digits, c.isDigit = true) (hne : digits ≠ []) :
    ungroup? Char.isDigit digits = some digits := by
  induction digits with
  | nil => exact absurd rfl hne
  | cons c digits ih =>
    cases digits with
    | nil => simp [ungroup?, hdigits c]
    | cons d digits =>
      have hd : d ≠ '_' := by
        rintro rfl
        exact not_mem_digits hdigits (c := '_') (by decide) (by simp)
      have hrest := ih (fun e he => hdigits e (.tail _ he)) (List.cons_ne_nil _ _)
      rw [ungroup?, if_pos (hdigits c (.head _)), hrest]
      · rfl
      · intro hnil
        cases hnil
      · rintro rest heq
        exact hd (List.cons.inj heq).1

theorem ofDigits_eq_ofDigitChars :
    ∀ {digits : List Char} (n : Nat), (∀ c ∈ digits, c.isDigit = true) →
      digits.foldl (fun n c => 10 * n + digitValue c) n = Nat.ofDigitChars 10 digits n
  | [], _, _ => rfl
  | c :: digits, n, hdigits => by
    have hc : digitValue c = c.toNat - '0'.toNat := if_pos (hdigits c (.head _))
    rw [List.foldl_cons, hc, ofDigits_eq_ofDigitChars _ fun d hd => hdigits d (.tail _ hd)]
    rfl

theorem fixedNumber?_suffix : ∀ {n value value' : Nat} {text rest : List Char},
    fixedNumber? value n text = some (value', rest) → rest <:+ text
  | 0, _, _, text, _, h => (Prod.mk.inj (Option.some.inj h)).2 ▸ List.suffix_refl text
  | n + 1, _, _, [], _, h => by cases h
  | n + 1, _, _, c :: text, _, h => by
    rw [fixedNumber?] at h
    split at h
    · exact (fixedNumber?_suffix h).trans (List.suffix_cons c text)
    · cases h

theorem expect?_eq_none {c : Char} {text : List Char} (h : c ∉ text) : expect? c text = none := by
  cases text with
  | nil => rfl
  | cons d text => exact if_neg fun hd => h (by rw [hd]; exact .head _)

/-- A number is no date and no time, since these have dashes and colons. -/
theorem isMoment_digits (hdigits : ∀ c ∈ digits, c.isDigit = true) : isMoment digits = false := by
  have hexpect {n value : Nat} {rest : List Char} (h : fixedNumber? 0 n digits = some (value, rest))
      {c : Char} (hc : c.isDigit = false) : expect? c rest = none :=
    expect?_eq_none fun hmem => not_mem_digits hdigits hc ((fixedNumber?_suffix h).subset hmem)
  have hdate : date? digits = none := by
    rw [date?]
    cases hyear : fixedNumber? 0 4 digits with
    | none => rfl
    | some year =>
      have hdash := hexpect hyear (c := '-') (by decide)
      simp [hdash]
  have htime : time? digits = none := by
    rw [time?]
    cases hhour : fixedNumber? 0 2 digits with
    | none => rfl
    | some hour =>
      have hcolon := hexpect hhour (c := ':') (by decide)
      simp [hcolon]
  rw [isMoment, hdate, htime]
  rfl

end Digits

section Number

variable (n : Nat)

theorem isDigit_of_mem_toDigits : ∀ c ∈ Nat.toDigits 10 n, c.isDigit = true :=
  fun _ hc => Nat.isDigit_of_mem_toDigits (by decide) (by decide) hc

/-- The digits of a number do not start with a zero in front of others. -/
theorem decimal?_toDigits : decimal? (Nat.toDigits 10 n) = some (Nat.toDigits 10 n) := by
  have hread := ungroup?_digits (isDigit_of_mem_toDigits n) Nat.toDigits_ne_nil
  by_cases hn : n = 0
  · subst hn
    rfl
  · have hhead := Json.head?_toDigits_ne (Nat.pos_of_ne_zero hn)
    rw [decimal?.eq_def]
    split
    · rename_i heq
      rw [heq] at hhead
      exact absurd rfl hhead
    · exact hread

theorem scalar?_toDigits : scalar? (Nat.toDigits 10 n) = some (.integer n) := by
  have hdigits := isDigit_of_mem_toDigits n
  have hword {word : List Char} {c : Char} (hmem : c ∈ word) (hc : c.isDigit = false) :
      Nat.toDigits 10 n ≠ word := fun heq => not_mem_digits hdigits hc (heq ▸ hmem)
  have htrue : Nat.toDigits 10 n ≠ ['t', 'r', 'u', 'e'] :=
    hword (c := 't') (by simp) (by decide)
  have hfalse : Nat.toDigits 10 n ≠ ['f', 'a', 'l', 's', 'e'] :=
    hword (c := 'f') (by simp) (by decide)
  have hprefix : prefixed? (Nat.toDigits 10 n) = none := by
    rw [prefixed?.eq_def]
    split
    · rename_i heq
      exact absurd heq (hword (c := 'x') (by simp) (by decide))
    · rename_i heq
      exact absurd heq (hword (c := 'o') (by simp) (by decide))
    · rename_i heq
      exact absurd heq (hword (c := 'b') (by simp) (by decide))
    · rfl
  have hsign : sign (Nat.toDigits 10 n) = (false, Nat.toDigits 10 n) := by
    rw [sign.eq_def]
    split
    · rename_i heq
      exact absurd heq (hword (c := '+') (by simp) (by decide))
    · rename_i heq
      exact absurd heq (hword (c := '-') (by simp) (by decide))
    · rfl
  have hvalue : ofDigits 10 (Nat.toDigits 10 n) = n := by
    rw [ofDigits, ofDigits_eq_ofDigitChars _ hdigits,
      Nat.ofDigitChars_toDigits (by decide) (by decide)]
  simp [scalar?, htrue, hfalse, isMoment_digits hdigits, integer?, hprefix, signed?, hsign,
    decimal?_toDigits, hvalue]

theorem isScalarChar_of_isDigit {c : Char} (h : c.isDigit = true) : isScalarChar c = true := by
  have hother : ['=', ',', '[', ']', '\x7b', '\x7d', ' ', '\t', '#', '\r', '\n'].all
      (!Char.isDigit ·) = true := by decide
  rw [isScalarChar_eq, Bool.not_eq_true', ← Bool.not_eq_true, List.contains_iff_mem]
  intro hmem
  have hc := List.all_eq_true.1 hother c hmem
  rw [h] at hc
  cases hc

end Number

/-! ## Scalars and strings on a line -/

section Scalars

variable {text : List Char} {v : Value}

/-- A text that is made of the characters of a scalar is read to its end. -/
theorem readScalar?_eq (hchars : ∀ c ∈ text, isScalarChar c = true) (h : scalar? text = some v) :
    readScalar? text = some (v, []) := by
  have htake : text.takeWhile isScalarChar = text := List.takeWhile_eq_self_iff.2 hchars
  have hdrop : text.dropWhile isScalarChar = [] := List.dropWhile_eq_nil_iff.2 hchars
  simp [readScalar?, takeScalar, htake, hdrop, h]

theorem readsAs_scalar (hchars : ∀ c ∈ text, isScalarChar c = true)
    (hquotes : ∀ c ∈ text, c ≠ '"' ∧ c ≠ '\'') (h : scalar? text = some v) : ReadsAs text v where
  isLine hmem := by
    cases (hchars _ hmem).symm.trans isScalarChar_newline
  read := by
    have hhead {c : Char} (hc : isScalarChar c = false) : text.head? ≠ some c := by
      intro hhead
      cases (hchars c (List.mem_of_head? hhead)).symm.trans hc
    have hskip : skipSpace text = text := by
      cases text with
      | nil => rfl
      | cons c text =>
        have hblank : isSpace c = false := by
          refine Bool.eq_false_iff.2 fun hblank => ?_
          have hc := hchars c (.head _)
          obtain rfl | rfl : c = ' ' ∨ c = '\t' := by simpa [isSpace] using hblank
          · simp [isScalarChar_eq] at hc
          · simp [isScalarChar_eq] at hc
        simp [skipSpace, hblank]
    refine ⟨[], ?_, rfl⟩
    rw [hskip, readValue?_scalar (hhead (by simp [isScalarChar_eq]))
      (hhead (by simp [isScalarChar_eq])) (fun hd => (hquotes _ (List.mem_of_head? hd)).1 rfl)
      fun hs => (hquotes _ (List.mem_of_head? hs)).2 rfl]
    exact readScalar?_eq hchars h

/-- The digits of a number stand for it. -/
theorem readsAs_repr (n : Nat) : ReadsAs n.repr.toList (.integer n) := by
  have hdigits := isDigit_of_mem_toDigits n
  rw [Nat.toList_repr]
  refine readsAs_scalar (fun c hc => isScalarChar_of_isDigit (hdigits c hc)) (fun c hc => ?_)
    (scalar?_toDigits n)
  constructor
  · rintro rfl
    exact not_mem_digits hdigits (by decide) hc
  · rintro rfl
    exact not_mem_digits hdigits (by decide) hc

theorem readsAs_boolean (b : Bool) : ReadsAs (toString b).toList (.boolean b) := by
  cases b with
  | false =>
    rw [show (toString false).toList = ['f', 'a', 'l', 's', 'e'] from rfl]
    exact readsAs_scalar (by simp [isScalarChar_eq]) (by simp) (by simp [scalar?])
  | true =>
    rw [show (toString true).toList = ['t', 'r', 'u', 'e'] from rfl]
    exact readsAs_scalar (by simp [isScalarChar_eq]) (by simp) (by simp [scalar?])

/-- A text without an apostrophe and without control characters stands between apostrophes. -/
theorem readsAs_literal {s : String} (h : ∀ c ∈ s.toList, isAllowed c = true ∧ c ≠ '\'') :
    ReadsAs ("'" ++ s ++ "'").toList (.string s) := by
  have htext : ("'" ++ s ++ "'").toList = '\'' :: (s.toList ++ ['\'']) := by simp
  have hchars : ∀ c ∈ s.toList, (isAllowed c && c != '\'') = true := by simpa using h
  have htake : (s.toList ++ ['\'']).takeWhile (fun c => isAllowed c && c != '\'') = s.toList := by
    rw [List.takeWhile_append_of_pos hchars]
    simp
  have hdrop : (s.toList ++ ['\'']).dropWhile (fun c => isAllowed c && c != '\'') = ['\''] := by
    rw [List.dropWhile_append_of_pos hchars]
    simp
  have hshort : ¬['\'', '\''] <+: s.toList ++ ['\''] := by
    rintro ⟨more, hmore⟩
    cases hs : s.toList with
    | nil => simp [hs] at hmore
    | cons c cs =>
      rw [hs] at h hmore
      exact (h c (.head _)).2 (List.cons.inj hmore).1.symm
  have hspace : isSpace '\'' = false := by decide
  rw [htext]
  constructor
  · have hs : '\n' ∉ s.toList := fun hmem => absurd (h _ hmem).1 (by decide)
    simp [hs]
  · refine ⟨[], ?_, rfl⟩
    simp [skipSpace, hspace, readValue?, readString?_literal hshort, readLiteral?, htake, hdrop]

end Scalars

end HouseStyle.Toml
