import HouseStyle.Json.Basic
import HouseStyle.Proofs.Json.Grammar

/-!
# Written documents are read back

The text of a JSON value is a document for that value, by the grammar of JSON: the escapes of a
string stand for its characters, the digits of a number for the number, and the lines and the
indentation between entries are spaces. As a text is a document for one value at most, a reader
finds the value that was written and no other (`document_render_iff`).
-/

namespace HouseStyle.Json

mutual

/-- What a value stands for. -/
def toValue : Json → Value
  | null => .null
  | number n => .number n
  | string s => .string s
  | array items => .array (toValues items)
  | object fields => .object (toFields fields)

/-- What the items of a list stand for. -/
def toValues : List Json → List Value
  | [] => []
  | item :: items => item.toValue :: toValues items

/-- What the fields of an object stand for. -/
def toFields : List (String × Json) → List (String × Value)
  | [] => []
  | (key, value) :: fields => (key, value.toValue) :: toFields fields

end

/-! ## Strings -/

theorem hexDigit?_hexDigit {n : Nat} (h : n < 16) : Pattern.hexDigit? (hexDigit n) = some n :=
  (by decide : ∀ n < 16, Pattern.hexDigit? (hexDigit n) = some n) n h

theorem fourHex?_hexDigit {a b : Nat} (ha : a < 16) (hb : b < 16) :
    fourHex? '0' '0' (hexDigit a) (hexDigit b) = some (16 * a + b) := by
  have hzero : Pattern.hexDigit? '0' = some 0 := by decide
  simp [fourHex?, hzero, hexDigit?_hexDigit ha, hexDigit?_hexDigit hb]

/-- A control character is read by its code. -/
theorem letter_control {c : Char} (h : c.toNat < 0x20) (rest : List Char) :
    Letter ('\\' :: 'u' :: '0' :: '0' :: hexDigit (c.toNat / 16) :: hexDigit (c.toNat % 16) :: rest)
      c rest := by
  have hcode := fourHex?_hexDigit (a := c.toNat / 16) (b := c.toNat % 16) (by omega) (by omega)
  have hdiv : 16 * (c.toNat / 16) + c.toNat % 16 = c.toNat := Nat.div_add_mod ..
  rw [hdiv] at hcode
  have hletter := @Letter.code _ _ _ _ _ rest hcode (.inl (by omega))
  rwa [Char.ofNat_toNat] at hletter

/-- A character with a name of its own is read by that name. -/
theorem letter_named {c d e : Char} (h : c = d) (he : escaped? e = some d) (rest : List Char) :
    Letter ('\\' :: e :: rest) c rest :=
  h ▸ .named he

/-- A character is read behind its escape. -/
theorem letter_escapeChar (c : Char) (rest : List Char) : Letter (escapeChar c ++ rest) c rest := by
  rw [escapeChar]
  split
  · exact letter_named ‹c = _› rfl rest
  split
  · exact letter_named ‹c = _› rfl rest
  split
  · exact letter_named ‹c = _› rfl rest
  split
  · exact letter_named ‹c = _› rfl rest
  split
  · exact letter_named ‹c = _› rfl rest
  split
  · exact letter_named ‹c = _› rfl rest
  split
  · exact letter_named ‹c = _› rfl rest
  split
  · exact letter_control ‹_› rest
  · exact .plain ‹c ≠ '"'› ‹c ≠ '\\'› (Nat.le_of_not_lt ‹_›)

theorem letters_flatMap_escapeChar (rest : List Char) :
    ∀ cs : List Char, Letters (cs.flatMap escapeChar ++ '"' :: rest) cs rest
  | [] => .done
  | c :: cs => by
    rw [List.flatMap_cons, List.append_assoc]
    exact .more (letter_escapeChar c _) (letters_flatMap_escapeChar rest cs)

/-- A quoted string is read as a value. -/
theorem reads_quote (s : String) (rest : List Char) : Reads (quote s ++ rest) (.string s) rest := by
  have h := Reads.string (letters_flatMap_escapeChar rest s.toList)
  rw [String.ofList_toList] at h
  simpa [quote] using h

/-! ## Numbers -/

/-- The digits of a positive number do not start with zero. -/
theorem head?_toDigits_ne {n : Nat} (h : 0 < n) : (Nat.toDigits 10 n).head? ≠ some '0' := by
  induction n using Nat.strongRecOn with
  | ind n ih =>
    by_cases hn : n < 10
    · rw [Nat.toDigits_of_lt_base hn]
      simpa using h.ne'
    · have hdigits := Nat.toDigits_of_base_le (b := 10) (n := n) (by decide) (by omega)
      rw [hdigits, List.head?_append, Option.or_of_isSome (by simp [Nat.toDigits_ne_nil])]
      exact ih (n / 10) (by omega) (by omega)

theorem digits_toDigits (n : Nat) (rest : List Char) :
    Digits (Nat.toDigits 10 n ++ rest) (Nat.toDigits 10 n) rest where
  eq := rfl
  ne_nil := Nat.toDigits_ne_nil
  isDigit _ hc := Nat.isDigit_of_mem_toDigits (by decide) (by decide) hc

/-- A number is read behind its digits. -/
theorem reads_toDigits (n : Nat) (rest : List Char) :
    Reads (Nat.toDigits 10 n ++ rest) (.number n) rest := by
  have hzero (h : (Nat.toDigits 10 n).head? = some '0') : Nat.toDigits 10 n = ['0'] := by
    obtain rfl : n = 0 := by
      by_contra hn
      exact head?_toDigits_ne (Nat.pos_of_ne_zero hn) h
    rfl
  have hwhole := Whole.digits (digits_toDigits n rest) hzero
  rw [digitsValue, Nat.ofDigitChars_toDigits (by decide) (by decide)] at hwhole
  have h := Reads.number (.plus (.parts hwhole .absent .absent))
  rwa [add_zero, mul_one] at h

/-! ## Values -/

theorem spaces_blank (rest : List Char) : Spaces (' ' :: rest) rest :=
  .more rfl .done

theorem spaces_blanks (rest : List Char) : ∀ n, Spaces (List.replicate n ' ' ++ rest) rest
  | 0 => .done
  | n + 1 => .more rfl (spaces_blanks rest n)

theorem spaces_newLine (level : Nat) (rest : List Char) : Spaces (newLine level ++ rest) rest :=
  .more rfl (spaces_blanks rest _)

/-- A key is read behind its text, with the blank behind its colon left over. -/
theorem key_quote (level : Nat) (k : String) (rest : List Char) :
    Key (newLine level ++ (quote k ++ ':' :: rest)) k rest := by
  have hletters := letters_flatMap_escapeChar (':' :: rest) k.toList
  have h := Key.colon (spaces_newLine level ('"' :: _)) hletters .done
  rw [String.ofList_toList] at h
  simpa [quote] using h

/-- A value that stands between the start of a line and the text behind it. -/
theorem Reads.padded {level : Nat} {start rest : List Char} {v : Value} (h : Reads start v rest) :
    Padded (newLine level ++ start) v rest :=
  .spaces (spaces_newLine level start) h .done

mutual

/-- A value is read behind its text. -/
theorem reads_renderAt (level : Nat) (v : Json) (rest : List Char) :
    Reads (renderAt level v ++ rest) v.toValue rest :=
  match v with
  | null => .null
  | number n => reads_toDigits n rest
  | string s => reads_quote s rest
  | array [] => .noItems .done
  | array (item :: items) => by
    have h := Reads.array (items_render (level + 1) level item items rest)
    simpa [renderAt, toValue, toValues] using h
  | object [] => .noFields .done
  | object ((key, value) :: fields) => by
    have h := Reads.object (fields_render (level + 1) level key value fields rest)
    simpa [renderAt, toValue, toFields] using h
termination_by sizeOf v

/-- The items of a list are read behind their texts; the bracket stands at the level `close`. -/
theorem items_render (level close : Nat) (item : Json) (items : List Json) (rest : List Char) :
    Items (newLine level ++ (renderAt level item ++ (renderItems level items ++
      (newLine close ++ ']' :: rest)))) (item.toValue :: toValues items) rest :=
  match items with
  | [] => .last (.spaces (spaces_newLine level _) (reads_renderAt level item _)
      (spaces_newLine close _))
  | next :: items => by
    have h := items_render level close next items rest
    have hitem := reads_renderAt level item
      (',' :: (newLine level ++ (renderAt level next ++ (renderItems level items ++
        (newLine close ++ ']' :: rest)))))
    simpa [renderItems, toValues] using Items.more hitem.padded h
termination_by sizeOf (item :: items)

/-- The fields of an object are read behind their texts; the brace stands at the level `close`. -/
theorem fields_render (level close : Nat) (key : String) (value : Json)
    (fields : List (String × Json)) (rest : List Char) :
    Fields (newLine level ++ (quote key ++ ':' :: ' ' :: (renderAt level value ++
      (renderFields level fields ++ (newLine close ++ '}' :: rest)))))
      ((key, value.toValue) :: toFields fields) rest :=
  match fields with
  | [] => .last (key_quote level key _) (.spaces (spaces_blank _) (reads_renderAt level value _)
      (spaces_newLine close _))
  | (next, value') :: fields => by
    have h := fields_render level close next value' fields rest
    have hvalue := reads_renderAt level value
      (',' :: (newLine level ++ (quote next ++ ':' :: ' ' :: (renderAt level value' ++
        (renderFields level fields ++ (newLine close ++ '}' :: rest))))))
    have hfield := Fields.more (key_quote level key _) (.spaces (spaces_blank _) hvalue .done) h
    simpa [renderFields, toFields] using hfield
termination_by sizeOf ((key, value) :: fields)

end

/-- The text of a value is a document for that value and for no other. -/
theorem document_render_iff (v : Json) (w : Value) :
    Document v.render.toList w ↔ w = v.toValue := by
  have h : Document v.render.toList v.toValue := by
    have h := reads_renderAt 0 v []
    rw [List.append_nil] at h
    exact .spaces .done (by simpa [render] using h) .done
  constructor
  · intro hw
    exact hw.unique h
  · rintro rfl
    exact h

end HouseStyle.Json
