import HouseStyle.Json.Basic
import HouseStyle.Pattern.Escape
import Mathlib.Algebra.Order.Field.Rat
import Mathlib.Data.List.TakeWhile

/-!
# The grammar of JSON

The whole grammar, with every spelling that a reader of JSON has to accept: spaces around tokens,
signs, fractions and exponents of numbers, and all the escapes within strings. Each rule relates the
text that it starts on, the value that it reads, and the text that it leaves; `Document` is the rule
for a text as a whole.

The rules overlap only where a number could go on. Where the text behind a value does not go on
with a number, the value and that text are determined (`Reads.unique`), and so a text is a document
for one value at most (`Document.unique`).
-/

namespace HouseStyle.Json

/-- A value that a JSON document can stand for. -/
inductive Value where
  | null
  | boolean (b : Bool)
  | number (q : ℚ)
  | string (s : String)
  | array (items : List Value)
  /-- An object, in the order of its fields. -/
  | object (fields : List (String × Value))

/-! ## Spaces -/

/-- Whether a character may stand between tokens. -/
def isSpace (c : Char) : Bool := c == ' ' || c == '\t' || c == '\n' || c == '\r'

/-- Spaces, as many as one likes. -/
inductive Spaces : List Char → List Char → Prop
  | done {rest : List Char} : Spaces rest rest
  | more {c : Char} {text rest : List Char} (hc : isSpace c = true) (h : Spaces text rest) :
    Spaces (c :: text) rest

/-! ## Strings -/

/-- The character that is meant by a character behind a backslash. -/
def escaped? : Char → Option Char
  | '"' => some '"'
  | '\\' => some '\\'
  | '/' => some '/'
  | 'b' => some '\x08'
  | 'f' => some '\x0c'
  | 'n' => some '\n'
  | 'r' => some '\r'
  | 't' => some '\t'
  | _ => none

/-- The number that four hexadecimal digits stand for. -/
def fourHex? (a b c d : Char) : Option Nat := do
  let a ← Pattern.hexDigit? a
  let b ← Pattern.hexDigit? b
  let c ← Pattern.hexDigit? c
  let d ← Pattern.hexDigit? d
  return 16 * (16 * (16 * a + b) + c) + d

/-- One character within a string: by itself, behind a backslash, by its code, or by the two halves
of its code. -/
inductive Letter : List Char → Char → List Char → Prop
  /-- The character itself, unless it is a quote, a backslash or a control character. -/
  | plain {c : Char} {rest : List Char} (hq : c ≠ '"') (hb : c ≠ '\\') (hc : 0x20 ≤ c.toNat) :
    Letter (c :: rest) c rest
  /-- A character with a name of its own. -/
  | named {e c : Char} {rest : List Char} (h : escaped? e = some c) :
    Letter ('\\' :: e :: rest) c rest
  | code {a b c d : Char} {n : Nat} {rest : List Char} (h : fourHex? a b c d = some n)
      (hn : n.isValidChar) : Letter ('\\' :: 'u' :: a :: b :: c :: d :: rest) (Char.ofNat n) rest
  /-- The upper and the lower half of the code of a character. -/
  | halves {a b c d a' b' c' d' : Char} {up low : Nat} {rest : List Char}
      (h : fourHex? a b c d = some up) (h' : fourHex? a' b' c' d' = some low)
      (hup : 0xD800 ≤ up ∧ up < 0xDC00) (hlow : 0xDC00 ≤ low ∧ low < 0xE000) :
    Letter ('\\' :: 'u' :: a :: b :: c :: d :: '\\' :: 'u' :: a' :: b' :: c' :: d' :: rest)
      (Char.ofNat (0x10000 + 0x400 * (up - 0xD800) + (low - 0xDC00))) rest

/-- The characters of a string, and the quote behind them. -/
inductive Letters : List Char → List Char → List Char → Prop
  | done {rest : List Char} : Letters ('"' :: rest) [] rest
  | more {text next rest : List Char} {c : Char} {cs : List Char} (hc : Letter text c next)
      (h : Letters next cs rest) : Letters text (c :: cs) rest

/-! ## Numbers -/

/-- Decimal digits, at least one. -/
structure Digits (text digits rest : List Char) : Prop where
  eq : text = digits ++ rest
  ne_nil : digits ≠ []
  isDigit : ∀ c ∈ digits, c.isDigit = true

/-- The number that decimal digits stand for. -/
def digitsValue (digits : List Char) : Nat := Nat.ofDigitChars 10 digits 0

/-- A whole number. No further digits follow a zero in front. -/
inductive Whole : List Char → Nat → List Char → Prop
  /-- Digits, the first of which is not zero if there are several. -/
  | digits {text digits rest : List Char} (h : Digits text digits rest)
      (hzero : digits.head? = some '0' → digits = ['0']) : Whole text (digitsValue digits) rest

/-- The fraction of a number. -/
inductive Fraction : List Char → ℚ → List Char → Prop
  | absent {rest : List Char} : Fraction rest 0 rest
  | digits {text digits rest : List Char} (h : Digits text digits rest) :
    Fraction ('.' :: text) (digitsValue digits / 10 ^ digits.length) rest

/-- The power of ten that a number is multiplied by. -/
inductive Scale : List Char → ℚ → List Char → Prop
  | absent {rest : List Char} : Scale rest 1 rest
  /-- An exponent without a sign. -/
  | up {e : Char} {text digits rest : List Char} (he : e = 'e' ∨ e = 'E')
      (h : Digits text digits rest) : Scale (e :: text) (10 ^ digitsValue digits) rest
  | plus {e : Char} {text digits rest : List Char} (he : e = 'e' ∨ e = 'E')
      (h : Digits text digits rest) : Scale (e :: '+' :: text) (10 ^ digitsValue digits) rest
  | minus {e : Char} {text digits rest : List Char} (he : e = 'e' ∨ e = 'E')
      (h : Digits text digits rest) : Scale (e :: '-' :: text) (1 / 10 ^ digitsValue digits) rest

/-- A number without a sign. -/
inductive Unsigned : List Char → ℚ → List Char → Prop
  | parts {text next next' rest : List Char} {n : Nat} {f x : ℚ} (hn : Whole text n next)
      (hf : Fraction next f next') (hx : Scale next' x rest) : Unsigned text ((n + f) * x) rest

/-- A number. -/
inductive Number : List Char → ℚ → List Char → Prop
  | plus {text rest : List Char} {q : ℚ} (h : Unsigned text q rest) : Number text q rest
  | minus {text rest : List Char} {q : ℚ} (h : Unsigned text q rest) :
    Number ('-' :: text) (-q) rest

/-! ## Values -/

/-- The key of a field, with the colon behind it and spaces around it. -/
inductive Key : List Char → String → List Char → Prop
  | colon {text start next rest : List Char} {cs : List Char} (hs : Spaces text ('"' :: start))
      (hc : Letters start cs next) (hr : Spaces next (':' :: rest)) :
    Key text (String.ofList cs) rest

mutual

/-- A value. -/
inductive Reads : List Char → Value → List Char → Prop
  | null {rest : List Char} : Reads ('n' :: 'u' :: 'l' :: 'l' :: rest) .null rest
  | truth {rest : List Char} : Reads ('t' :: 'r' :: 'u' :: 'e' :: rest) (.boolean true) rest
  | falsehood {rest : List Char} :
    Reads ('f' :: 'a' :: 'l' :: 's' :: 'e' :: rest) (.boolean false) rest
  | number {text rest : List Char} {q : ℚ} (h : Number text q rest) : Reads text (.number q) rest
  | string {text cs rest : List Char} (h : Letters text cs rest) :
    Reads ('"' :: text) (.string (String.ofList cs)) rest
  | noItems {text rest : List Char} (h : Spaces text (']' :: rest)) :
    Reads ('[' :: text) (.array []) rest
  | array {text rest : List Char} {items : List Value} (h : Items text items rest) :
    Reads ('[' :: text) (.array items) rest
  | noFields {text rest : List Char} (h : Spaces text ('}' :: rest)) :
    Reads ('{' :: text) (.object []) rest
  | object {text rest : List Char} {fields : List (String × Value)} (h : Fields text fields rest) :
    Reads ('{' :: text) (.object fields) rest

/-- A value with spaces around it. -/
inductive Padded : List Char → Value → List Char → Prop
  | spaces {text start next rest : List Char} {v : Value} (hs : Spaces text start)
      (hv : Reads start v next) (hr : Spaces next rest) : Padded text v rest

/-- The items of an array, and the bracket behind them. -/
inductive Items : List Char → List Value → List Char → Prop
  | last {text rest : List Char} {v : Value} (h : Padded text v (']' :: rest)) :
    Items text [v] rest
  | more {text next rest : List Char} {v : Value} {vs : List Value}
      (hv : Padded text v (',' :: next)) (h : Items next vs rest) : Items text (v :: vs) rest

/-- The fields of an object, and the brace behind them. -/
inductive Fields : List Char → List (String × Value) → List Char → Prop
  | last {text start rest : List Char} {k : String} {v : Value} (hk : Key text k start)
      (h : Padded start v ('}' :: rest)) : Fields text [(k, v)] rest
  | more {text start next rest : List Char} {k : String} {v : Value}
      {fields : List (String × Value)} (hk : Key text k start)
      (hv : Padded start v (',' :: next)) (h : Fields next fields rest) :
    Fields text ((k, v) :: fields) rest

end

/-- A text that is a document for a value. -/
def Document (text : List Char) (v : Value) : Prop := Padded text v []

/-! ## Strings are determined -/

theorem Letter.ne_quote {text : List Char} {c : Char} {rest : List Char}
    (h : Letter text c rest) : ∀ t, text ≠ '"' :: t := by
  rintro t rfl
  cases h with
  | plain hq => exact hq rfl

theorem Letter.unique {text : List Char} {c c' : Char} {rest rest' : List Char}
    (h : Letter text c rest) (h' : Letter text c' rest') : c = c' ∧ rest = rest' := by
  cases h with
  | plain hq hb hc =>
    cases h' with
    | plain => exact ⟨rfl, rfl⟩
    | named | code | halves => exact absurd rfl hb
  | named h =>
    cases h' with
    | plain _ hb => exact absurd rfl hb
    | named h' => exact ⟨Option.some.inj (h.symm.trans h'), rfl⟩
    | code | halves => cases h
  | code h hn =>
    cases h' with
    | plain _ hb => exact absurd rfl hb
    | named h' => cases h'
    | code h' => exact ⟨congrArg Char.ofNat (Option.some.inj (h.symm.trans h')), rfl⟩
    | halves h' _ hup =>
      -- A half of a code is no code of its own.
      obtain rfl := Option.some.inj (h.symm.trans h')
      rcases hn with hn | hn <;> omega
  | halves h hl hup =>
    cases h' with
    | plain _ hb => exact absurd rfl hb
    | named h' => cases h'
    | code h' hn =>
      obtain rfl := Option.some.inj (h.symm.trans h')
      rcases hn with hn | hn <;> omega
    | halves h' hl' =>
      obtain rfl := Option.some.inj (h.symm.trans h')
      obtain rfl := Option.some.inj (hl.symm.trans hl')
      exact ⟨rfl, rfl⟩

theorem Letters.unique : ∀ {text cs cs' rest rest' : List Char}, Letters text cs rest →
    Letters text cs' rest' → cs = cs' ∧ rest = rest'
  | _, _, _, _, _, .done, h' => by
    cases h' with
    | done => exact ⟨rfl, rfl⟩
    | more hc => exact absurd rfl (hc.ne_quote _)
  | _, _, _, _, _, .more hc h, h' => by
    cases h' with
    | done => exact absurd rfl (hc.ne_quote _)
    | more hc' h' =>
      obtain ⟨rfl, rfl⟩ := hc.unique hc'
      obtain ⟨rfl, rfl⟩ := h.unique h'
      exact ⟨rfl, rfl⟩

/-! ## Numbers are determined -/

/-- The text does not go on with a digit. -/
def NoDigit (text : List Char) : Prop := ∀ c ∈ text.head?, c.isDigit = false

/-- The text does not go on with a number. -/
def NumberEnd (text : List Char) : Prop :=
  ∀ c ∈ text.head?, c.isDigit = false ∧ c ≠ '.' ∧ c ≠ 'e' ∧ c ≠ 'E'

theorem NumberEnd.noDigit {text : List Char} (h : NumberEnd text) : NoDigit text :=
  fun c hc => (h c hc).1

/-- Digits go as far as they can. -/
theorem Digits.eq_takeWhile {text digits rest : List Char} (h : Digits text digits rest)
    (hr : NoDigit rest) : digits = text.takeWhile Char.isDigit := by
  have hrest : rest.takeWhile Char.isDigit = [] := by
    cases rest with
    | nil => rfl
    | cons c rest => simp [hr c rfl]
  rw [h.eq, List.takeWhile_append_of_pos h.isDigit, hrest, List.append_nil]

theorem Digits.unique {text digits digits' rest rest' : List Char} (h : Digits text digits rest)
    (h' : Digits text digits' rest') (hr : NoDigit rest) (hr' : NoDigit rest') :
    digits = digits' ∧ rest = rest' := by
  have hd : digits = digits' := (h.eq_takeWhile hr).trans (h'.eq_takeWhile hr').symm
  subst hd
  exact ⟨rfl, List.append_cancel_left (h.eq.symm.trans h'.eq)⟩

/-- Digits start with a digit. -/
theorem Digits.exists_cons {text digits rest : List Char} (h : Digits text digits rest) :
    ∃ c t, text = c :: t ∧ c.isDigit = true := by
  obtain ⟨c, cs, hcs⟩ := List.exists_cons_of_ne_nil h.ne_nil
  refine ⟨c, cs ++ rest, ?_, h.isDigit c (by simp [hcs])⟩
  rw [h.eq, hcs, List.cons_append]

theorem Whole.unique {text rest rest' : List Char} {n n' : Nat} (h : Whole text n rest)
    (h' : Whole text n' rest') (hr : NoDigit rest) (hr' : NoDigit rest') :
    n = n' ∧ rest = rest' := by
  cases h with
  | digits h =>
    cases h' with
    | digits h' =>
      obtain ⟨rfl, hrest⟩ := h.unique h' hr hr'
      exact ⟨rfl, hrest⟩

/-- In front of a power of ten no digit and no point can follow. -/
theorem Scale.noDigit {text rest : List Char} {x : ℚ} (h : Scale text x rest)
    (hr : NumberEnd rest) : NoDigit text ∧ ∀ t, text ≠ '.' :: t := by
  cases h with
  | absent =>
    refine ⟨hr.noDigit, ?_⟩
    rintro t rfl
    exact (hr '.' rfl).2.1 rfl
  | up he | plus he | minus he =>
    rcases he with rfl | rfl <;> exact ⟨by simp [NoDigit], by simp⟩

/-- In front of a fraction no digit can follow. -/
theorem Fraction.noDigit {text next : List Char} {f : ℚ} (h : Fraction text f next)
    (hn : NoDigit next) : NoDigit text := by
  cases h with
  | absent => exact hn
  | digits => simp [NoDigit]

theorem Fraction.unique {text rest rest' : List Char} {f f' : ℚ} (h : Fraction text f rest)
    (h' : Fraction text f' rest') (hr : NoDigit rest ∧ ∀ t, rest ≠ '.' :: t)
    (hr' : NoDigit rest' ∧ ∀ t, rest' ≠ '.' :: t) : f = f' ∧ rest = rest' := by
  cases h with
  | absent =>
    cases h' with
    | absent => exact ⟨rfl, rfl⟩
    | digits => exact absurd rfl (hr.2 _)
  | digits h =>
    cases h' with
    | absent => exact absurd rfl (hr'.2 _)
    | digits h' =>
      obtain ⟨rfl, hrest⟩ := h.unique h' hr.1 hr'.1
      exact ⟨rfl, hrest⟩

/-- A number that ends does not go on with an exponent. -/
theorem NumberEnd.ne_exponent {e : Char} {text : List Char} (h : NumberEnd (e :: text)) :
    ¬(e = 'e' ∨ e = 'E') := by
  rintro (rfl | rfl)
  · exact (h 'e' rfl).2.2.1 rfl
  · exact (h 'E' rfl).2.2.2 rfl

/-- No digits start with a sign. -/
theorem Digits.not_sign {c : Char} {text digits rest : List Char}
    (h : Digits (c :: text) digits rest) : c ≠ '+' ∧ c ≠ '-' := by
  obtain ⟨d, t, heq, hd⟩ := h.exists_cons
  obtain ⟨rfl, -⟩ := List.cons.inj heq
  constructor
  · rintro rfl
    exact absurd hd (by decide)
  · rintro rfl
    exact absurd hd (by decide)

theorem Scale.unique {text rest rest' : List Char} {x x' : ℚ} (h : Scale text x rest)
    (h' : Scale text x' rest') (hr : NumberEnd rest) (hr' : NumberEnd rest') :
    x = x' ∧ rest = rest' := by
  cases h with
  | absent =>
    cases h' with
    | absent => exact ⟨rfl, rfl⟩
    | up he | plus he | minus he => exact absurd he hr.ne_exponent
  | up he h =>
    cases h' with
    | absent => exact absurd he hr'.ne_exponent
    | up _ h' =>
      obtain ⟨rfl, hrest⟩ := h.unique h' hr.noDigit hr'.noDigit
      exact ⟨rfl, hrest⟩
    | plus => exact absurd rfl h.not_sign.1
    | minus => exact absurd rfl h.not_sign.2
  | plus he h =>
    cases h' with
    | absent => exact absurd he hr'.ne_exponent
    | up _ h' => exact absurd rfl h'.not_sign.1
    | plus _ h' =>
      obtain ⟨rfl, hrest⟩ := h.unique h' hr.noDigit hr'.noDigit
      exact ⟨rfl, hrest⟩
  | minus he h =>
    cases h' with
    | absent => exact absurd he hr'.ne_exponent
    | up _ h' => exact absurd rfl h'.not_sign.2
    | minus _ h' =>
      obtain ⟨rfl, hrest⟩ := h.unique h' hr.noDigit hr'.noDigit
      exact ⟨rfl, hrest⟩

theorem Unsigned.unique {text rest rest' : List Char} {q q' : ℚ} (h : Unsigned text q rest)
    (h' : Unsigned text q' rest') (hr : NumberEnd rest) (hr' : NumberEnd rest') :
    q = q' ∧ rest = rest' := by
  cases h with
  | parts hn hf hx =>
    cases h' with
    | parts hn' hf' hx' =>
      have hs := hx.noDigit hr
      have hs' := hx'.noDigit hr'
      obtain ⟨rfl, rfl⟩ := hn.unique hn' (hf.noDigit hs.1) (hf'.noDigit hs'.1)
      obtain ⟨rfl, rfl⟩ := hf.unique hf' hs hs'
      obtain ⟨rfl, rfl⟩ := hx.unique hx' hr hr'
      exact ⟨rfl, rfl⟩

/-- A number without a sign starts with a digit. -/
theorem Unsigned.isDigit {c : Char} {text rest : List Char} {q : ℚ}
    (h : Unsigned (c :: text) q rest) : c.isDigit = true := by
  cases h with
  | parts hn =>
    cases hn with
    | digits h =>
      obtain ⟨d, t, heq, hd⟩ := h.exists_cons
      rwa [(List.cons.inj heq).1]

/-- A number starts with a digit or a minus sign. -/
theorem Number.isDigit_or_eq {c : Char} {text rest : List Char} {q : ℚ}
    (h : Number (c :: text) q rest) : c.isDigit = true ∨ c = '-' := by
  cases h with
  | plus h => exact .inl h.isDigit
  | minus => exact .inr rfl

theorem Number.unique {text rest rest' : List Char} {q q' : ℚ} (h : Number text q rest)
    (h' : Number text q' rest') (hr : NumberEnd rest) (hr' : NumberEnd rest') :
    q = q' ∧ rest = rest' := by
  cases h with
  | plus h =>
    cases h' with
    | plus h' => exact h.unique h' hr hr'
    | minus => exact absurd h.isDigit (by decide)
  | minus h =>
    cases h' with
    | plus h' => exact absurd h'.isDigit (by decide)
    | minus h' =>
      obtain ⟨rfl, hrest⟩ := h.unique h' hr hr'
      exact ⟨rfl, hrest⟩

/-! ## Values are determined -/

/-- The text goes on with a character that is no space, or not at all. -/
def NoSpace (text : List Char) : Prop := ∀ c ∈ text.head?, isSpace c = false

theorem noSpace_cons {c : Char} (h : isSpace c = false) (rest : List Char) :
    NoSpace (c :: rest) := by
  rintro d ⟨⟩
  exact h

/-- Spaces go as far as they can. -/
theorem Spaces.unique : ∀ {text rest rest' : List Char}, Spaces text rest → Spaces text rest' →
    NoSpace rest → NoSpace rest' → rest = rest'
  | _, _, _, .done, h', hr, _ => by
    cases h' with
    | done => rfl
    | more hc => exact absurd hc (by simp [hr _ rfl])
  | _, _, _, .more hc h, h', hr, hr' => by
    cases h' with
    | done => exact absurd hc (by simp [hr' _ rfl])
    | more _ h' => exact h.unique h' hr hr'

/-- A space does not go on with a number. -/
theorem Spaces.numberEnd {text rest : List Char} (h : Spaces text rest) (hr : NumberEnd rest) :
    NumberEnd text := by
  cases h with
  | done => exact hr
  | @more c _ _ hc =>
    rintro d ⟨⟩
    simp only [isSpace, Bool.or_eq_true, beq_iff_eq] at hc
    rcases hc with ((rfl | rfl) | rfl) | rfl <;> decide

/-- What follows a value within another one: no space and nothing that a number goes on with. -/
structure Closed (text : List Char) : Prop where
  noSpace : NoSpace text
  numberEnd : NumberEnd text

theorem closed_nil : Closed [] where
  noSpace := by simp [NoSpace]
  numberEnd := by simp [NumberEnd]

theorem closed_comma (rest : List Char) : Closed (',' :: rest) where
  noSpace := noSpace_cons rfl rest
  numberEnd := by simp [NumberEnd]

theorem closed_bracket (rest : List Char) : Closed (']' :: rest) where
  noSpace := noSpace_cons rfl rest
  numberEnd := by simp [NumberEnd]

theorem closed_brace (rest : List Char) : Closed ('}' :: rest) where
  noSpace := noSpace_cons rfl rest
  numberEnd := by simp [NumberEnd]

/-- A value starts with a character that is neither a space nor a closing bracket. -/
theorem Reads.head {text rest : List Char} {v : Value} (h : Reads text v rest) :
    NoSpace text ∧ ∀ t, text ≠ ']' :: t := by
  cases h with
  | number h =>
    constructor
    · intro c hc
      obtain ⟨t, rfl⟩ := List.head?_eq_some_iff.mp hc
      have hc := h.isDigit_or_eq
      by_contra hspace
      simp only [isSpace, Bool.not_eq_false, Bool.or_eq_true, beq_iff_eq] at hspace
      rcases hspace with ((rfl | rfl) | rfl) | rfl <;> exact absurd hc (by decide)
    · rintro t rfl
      exact absurd h.isDigit_or_eq (by decide)
  | _ => exact ⟨noSpace_cons rfl _, by simp⟩

theorem Key.unique {text rest rest' : List Char} {k k' : String} (h : Key text k rest)
    (h' : Key text k' rest') : k = k' ∧ rest = rest' := by
  cases h with
  | colon hs hc hr =>
    cases h' with
    | colon hs' hc' hr' =>
      obtain ⟨-, rfl⟩ := List.cons.inj (hs.unique hs' (noSpace_cons rfl _) (noSpace_cons rfl _))
      obtain ⟨rfl, rfl⟩ := hc.unique hc'
      obtain ⟨-, rfl⟩ := List.cons.inj (hr.unique hr' (noSpace_cons rfl _) (noSpace_cons rfl _))
      exact ⟨rfl, rfl⟩

/-- A key does not start with a brace. -/
theorem Key.not_brace {text rest t : List Char} {k : String} (h : Key text k rest)
    (ht : Spaces text ('}' :: t)) : False := by
  cases h with
  | colon hs =>
    have := hs.unique ht (noSpace_cons rfl _) (noSpace_cons rfl _)
    simp at this

/-- A value does not start with a bracket. -/
theorem Items.not_bracket {text rest t : List Char} {vs : List Value} (h : Items text vs rest)
    (ht : Spaces text (']' :: t)) : False := by
  have hpadded {v : Value} {next : List Char} (h : Padded text v next) : False := by
    cases h with
    | spaces hs hv =>
      have heq := hs.unique ht hv.head.1 (noSpace_cons rfl _)
      exact hv.head.2 _ heq
  cases h with
  | last h => exact hpadded h
  | more hv => exact hpadded hv

theorem Fields.not_brace {text rest t : List Char} {fields : List (String × Value)}
    (h : Fields text fields rest) (ht : Spaces text ('}' :: t)) : False := by
  cases h with
  | last hk => exact hk.not_brace ht
  | more hk => exact hk.not_brace ht

mutual

/-- A value and the text behind it are determined, where no number goes on. -/
theorem Reads.unique : ∀ {text rest rest' : List Char} {v v' : Value}, Reads text v rest →
    Reads text v' rest' → NumberEnd rest → NumberEnd rest' → v = v' ∧ rest = rest'
  | _, _, _, _, _, .null, h', _, _ => by
    cases h' with
    | null => exact ⟨rfl, rfl⟩
    | number h' => exact absurd h'.isDigit_or_eq (by decide)
  | _, _, _, _, _, .truth, h', _, _ => by
    cases h' with
    | truth => exact ⟨rfl, rfl⟩
    | number h' => exact absurd h'.isDigit_or_eq (by decide)
  | _, _, _, _, _, .falsehood, h', _, _ => by
    cases h' with
    | falsehood => exact ⟨rfl, rfl⟩
    | number h' => exact absurd h'.isDigit_or_eq (by decide)
  | _, _, _, _, _, .number h, h', hr, hr' => by
    cases h' with
    | number h' =>
      obtain ⟨rfl, hrest⟩ := h.unique h' hr hr'
      exact ⟨rfl, hrest⟩
    | _ => exact absurd h.isDigit_or_eq (by decide)
  | _, _, _, _, _, .string h, h', _, _ => by
    cases h' with
    | string h' =>
      obtain ⟨rfl, hrest⟩ := h.unique h'
      exact ⟨rfl, hrest⟩
    | number h' => exact absurd h'.isDigit_or_eq (by decide)
  | _, _, _, _, _, .noItems h, h', _, _ => by
    cases h' with
    | noItems h' =>
      have := h.unique h' (noSpace_cons rfl _) (noSpace_cons rfl _)
      exact ⟨rfl, (List.cons.inj this).2⟩
    | array h' => exact (h'.not_bracket h).elim
    | number h' => exact absurd h'.isDigit_or_eq (by decide)
  | _, _, _, _, _, .array h, h', _, _ => by
    cases h' with
    | noItems h' => exact (h.not_bracket h').elim
    | array h' =>
      obtain ⟨rfl, hrest⟩ := h.unique h'
      exact ⟨rfl, hrest⟩
    | number h' => exact absurd h'.isDigit_or_eq (by decide)
  | _, _, _, _, _, .noFields h, h', _, _ => by
    cases h' with
    | noFields h' =>
      have := h.unique h' (noSpace_cons rfl _) (noSpace_cons rfl _)
      exact ⟨rfl, (List.cons.inj this).2⟩
    | object h' => exact (h'.not_brace h).elim
    | number h' => exact absurd h'.isDigit_or_eq (by decide)
  | _, _, _, _, _, .object h, h', _, _ => by
    cases h' with
    | noFields h' => exact (h.not_brace h').elim
    | object h' =>
      obtain ⟨rfl, hrest⟩ := h.unique h'
      exact ⟨rfl, hrest⟩
    | number h' => exact absurd h'.isDigit_or_eq (by decide)

theorem Padded.unique : ∀ {text rest rest' : List Char} {v v' : Value}, Padded text v rest →
    Padded text v' rest' → Closed rest → Closed rest' → v = v' ∧ rest = rest'
  | _, _, _, _, _, .spaces hs hv hr, h', hc, hc' => by
    cases h' with
    | spaces hs' hv' hr' =>
      obtain rfl := hs.unique hs' hv.head.1 hv'.head.1
      obtain ⟨rfl, rfl⟩ := hv.unique hv' (hr.numberEnd hc.numberEnd) (hr'.numberEnd hc'.numberEnd)
      exact ⟨rfl, hr.unique hr' hc.noSpace hc'.noSpace⟩

theorem Items.unique : ∀ {text rest rest' : List Char} {vs vs' : List Value}, Items text vs rest →
    Items text vs' rest' → vs = vs' ∧ rest = rest'
  | _, _, _, _, _, .last h, h' => by
    cases h' with
    | last h' =>
      obtain ⟨rfl, hrest⟩ := h.unique h' (closed_bracket _) (closed_bracket _)
      exact ⟨rfl, (List.cons.inj hrest).2⟩
    | more h' _ =>
      obtain ⟨-, hrest⟩ := h.unique h' (closed_bracket _) (closed_comma _)
      simp at hrest
  | _, _, _, _, _, .more h hmore, h' => by
    cases h' with
    | last h' =>
      obtain ⟨-, hrest⟩ := h.unique h' (closed_comma _) (closed_bracket _)
      simp at hrest
    | more h' hmore' =>
      obtain ⟨rfl, hrest⟩ := h.unique h' (closed_comma _) (closed_comma _)
      obtain ⟨-, rfl⟩ := List.cons.inj hrest
      obtain ⟨rfl, hrest⟩ := hmore.unique hmore'
      exact ⟨rfl, hrest⟩

theorem Fields.unique : ∀ {text rest rest' : List Char} {fields fields' : List (String × Value)},
    Fields text fields rest → Fields text fields' rest' → fields = fields' ∧ rest = rest'
  | _, _, _, _, _, .last hk h, h' => by
    cases h' with
    | last hk' h' =>
      obtain ⟨rfl, rfl⟩ := hk.unique hk'
      obtain ⟨rfl, hrest⟩ := h.unique h' (closed_brace _) (closed_brace _)
      exact ⟨rfl, (List.cons.inj hrest).2⟩
    | more hk' h' _ =>
      obtain ⟨rfl, rfl⟩ := hk.unique hk'
      obtain ⟨-, hrest⟩ := h.unique h' (closed_brace _) (closed_comma _)
      simp at hrest
  | _, _, _, _, _, .more hk h hmore, h' => by
    cases h' with
    | last hk' h' =>
      obtain ⟨rfl, rfl⟩ := hk.unique hk'
      obtain ⟨-, hrest⟩ := h.unique h' (closed_comma _) (closed_brace _)
      simp at hrest
    | more hk' h' hmore' =>
      obtain ⟨rfl, rfl⟩ := hk.unique hk'
      obtain ⟨rfl, hrest⟩ := h.unique h' (closed_comma _) (closed_comma _)
      obtain ⟨-, rfl⟩ := List.cons.inj hrest
      obtain ⟨rfl, hrest⟩ := hmore.unique hmore'
      exact ⟨rfl, hrest⟩

end

/-- A text is a document for one value at most. -/
theorem Document.unique {text : List Char} {v v' : Value} (h : Document text v)
    (h' : Document text v') : v = v' :=
  (Padded.unique h h' closed_nil closed_nil).1

end HouseStyle.Json
