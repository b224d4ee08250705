import HouseStyle.Text.Lines
import HouseStyle.Toml.Text
import HouseStyle.Toml.Value

/-!
# Numbers, truth values and dates of a settings document

A value without quotes or brackets is read as a whole: `readScalar?` takes the characters that can
belong to it, and `scalar?` tells what they stand for. Integers are read in two steps. A document
may hold an integer whose digits do not make sense, as long as its underscores are in place; it is
refused only when somebody asks for its value.
-/

namespace HouseStyle.Toml

open Text

/-- Removes the underscores between digits; `none` if one does not stand between two digits. -/
def ungroup? (isDigit : Char → Bool) : List Char → Option (List Char)
  | [] => none
  | [c] => if isDigit c then some [c] else none
  | c :: '_' :: rest => if isDigit c then (ungroup? isDigit rest).map (c :: ·) else none
  | c :: rest => if isDigit c then (ungroup? isDigit rest).map (c :: ·) else none

/-- The value of a digit in any base. -/
def digitValue (c : Char) : Nat :=
  if c.isDigit then c.toNat - '0'.toNat else c.toLower.toNat - 'a'.toNat + 10

/-- The value of some digits. -/
def ofDigits (base : Nat) (digits : List Char) : Nat :=
  digits.foldl (fun n c => base * n + digitValue c) 0

/-- Whether a character is a hexadecimal digit. -/
def isHexDigit (c : Char) : Bool :=
  c.isDigit || ('a' ≤ c.toLower && c.toLower ≤ 'f')

/-- The digits of a number in some base. Without any digits the number has no value. -/
def based? (base : Nat) (isDigit : Char → Bool) (digits : List Char) : Option Value :=
  if digits.isEmpty then some .unreadable
  else (ungroup? isDigit digits).map fun digits => .integer (ofDigits base digits)

/-- A natural number in another base. -/
def prefixed? : List Char → Option Value
  | '0' :: 'x' :: digits => based? 16 isHexDigit digits
  | '0' :: 'o' :: digits => based? 8 (fun c => '0' ≤ c && c ≤ '7') digits
  | '0' :: 'b' :: digits => based? 2 (fun c => c == '0' || c == '1') digits
  | _ => none

/-- Decimal digits without a zero in front. -/
def decimal? (text : List Char) : Option (List Char) :=
  match text with
  | '0' :: _ :: _ => none
  | digits => ungroup? Char.isDigit digits

/-- Splits off a sign; the flag tells whether it is a minus. -/
def sign : List Char → Bool × List Char
  | '+' :: rest => (false, rest)
  | '-' :: rest => (true, rest)
  | text => (false, text)

/-- Whether a number is grouped by underscores, if the groups may hold digits of every base: it
starts with a group of decimal digits without a zero in front, and there is a digit on both sides
of every underscore. -/
def isGrouped (text : List Char) : Bool :=
  match split '_' text with
  | first :: second :: more =>
    !first.isEmpty && first.all Char.isDigit && first.head? != some '0'
      && (second :: more).all (fun group => group.head?.any isHexDigit)
      && ((first :: second :: more).dropLast.all fun group => group.getLast?.any isHexDigit)
  | _ => false

/-- Whether a character marks a floating-point number or cannot be part of a number at all. -/
def endsInteger (c : Char) : Bool := c == '.' || c == 'e' || c == 'E' || c == ' '

/-- A decimal integer. -/
def signed? (text : List Char) : Option Value :=
  let (negative, text) := sign text
  match decimal? text with
  | some digits =>
    let n : Int := ofDigits 10 digits
    some (.integer (if negative then -n else n))
  | none => if isGrouped text && !text.any endsInteger then some .unreadable else none

/-- An integer. -/
def integer? (text : List Char) : Option Value := (prefixed? text).or (signed? text)

/-! ## Floating-point numbers -/

/-- Splits a text at the first character that satisfies a test; the character is dropped. -/
def cutAt (p : Char → Bool) (text : List Char) : List Char × Option (List Char) :=
  match text.dropWhile (!p ·) with
  | [] => (text, none)
  | _ :: rest => (text.takeWhile (!p ·), some rest)

/-- The exponent of a floating-point number. -/
def exponent? (text : List Char) : Option Int :=
  let (negative, digits) := sign text
  (ungroup? Char.isDigit digits).map fun digits =>
    let n : Int := ofDigits 10 digits
    if negative then -n else n

/-- The number `mantissa · 10 ^ exponent`; exponents beyond the range of the format make no
difference. -/
def scientific (mantissa : Nat) (exponent : Int) : Float :=
  if mantissa = 0 then 0
  else
    let digits : Int := (Nat.toDigits 10 mantissa).length
    if 400 < exponent + digits then 1 / 0
    else if exponent + digits < -400 then 0
    else if 0 ≤ exponent then Float.ofScientific mantissa false exponent.toNat
    else Float.ofScientific mantissa true (-exponent).toNat

/-- A floating-point number with a point, an exponent or both. -/
def float? (text : List Char) : Option Value := do
  let (negative, text) := sign text
  let signed (x : Float) : Float := if negative then -x else x
  if text = "inf".toList then return .float (signed (1 / 0))
  if text = "nan".toList then return .float (0 / 0)
  let (mantissa, exponent) := cutAt (fun c => c == 'e' || c == 'E') text
  let (whole, fraction) := cutAt (· == '.') mantissa
  guard (exponent.isSome || fraction.isSome)
  let whole ← decimal? whole
  let fraction ←
    match fraction with
    | some digits => ungroup? Char.isDigit digits
    | none => some []
  let exponent ←
    match exponent with
    | some text => exponent? text
    | none => some 0
  let x := scientific (ofDigits 10 (whole ++ fraction)) (exponent - fraction.length)
  return if x.isInf then .hugeFloat else .float (signed x)

/-! ## Dates and times -/

/-- Reads a number of exactly `n` digits. -/
def fixedNumber? (value : Nat) : Nat → List Char → Option (Nat × List Char)
  | 0, text => some (value, text)
  | _ + 1, [] => none
  | n + 1, c :: rest => if c.isDigit then fixedNumber? (10 * value + digitValue c) n rest else none

/-- Reads a given character. -/
def expect? (c : Char) : List Char → Option (List Char)
  | [] => none
  | d :: rest => if d = c then some rest else none

/-- The number of days of a month. -/
def daysOfMonth (year month : Nat) : Nat :=
  if month = 2 then
    if year % 4 = 0 && (year % 100 != 0 || year % 400 = 0) then 29 else 28
  else if month = 4 ∨ month = 6 ∨ month = 9 ∨ month = 11 then 30
  else 31

/-- Reads a date. -/
def date? (text : List Char) : Option (List Char) := do
  let (year, text) ← fixedNumber? 0 4 text
  let text ← expect? '-' text
  let (month, text) ← fixedNumber? 0 2 text
  let text ← expect? '-' text
  let (day, text) ← fixedNumber? 0 2 text
  guard (1 ≤ month ∧ month ≤ 12 ∧ 1 ≤ day ∧ day ≤ daysOfMonth year month)
  return text

/-- Reads the fraction of a second, if there is one. -/
def secondFraction? : List Char → Option (List Char)
  | '.' :: rest =>
    if (rest.takeWhile Char.isDigit).isEmpty then none else some (rest.dropWhile Char.isDigit)
  | text => some text

/-- Reads a time of the day; the seconds may be left out. -/
def time? (text : List Char) : Option (List Char) := do
  let (hour, text) ← fixedNumber? 0 2 text
  let text ← expect? ':' text
  let (minute, text) ← fixedNumber? 0 2 text
  guard (hour ≤ 23 ∧ minute ≤ 59)
  match text with
  | ':' :: text => do
    let (second, text) ← fixedNumber? 0 2 text
    guard (second ≤ 60)
    secondFraction? text
  | text => return text

/-- Reads the offset of a time zone, if there is one. -/
def offset? (text : List Char) : Option (List Char) :=
  match text with
  | [] => some []
  | c :: rest =>
    if c = 'Z' ∨ c = 'z' then some rest
    else if c = '+' ∨ c = '-' then do
      let (hours, rest) ← fixedNumber? 0 2 rest
      let rest ← expect? ':' rest
      let (minutes, rest) ← fixedNumber? 0 2 rest
      guard (hours ≤ 23 ∧ minutes ≤ 59)
      return rest
    else none

/-- Whether a text is a date, a time or a date with a time. -/
def isMoment (text : List Char) : Bool :=
  match date? text with
  | some [] => true
  | some (c :: rest) =>
    (c == 'T' || c == 't' || c == ' ') && ((time? rest).bind offset?).any List.isEmpty
  | none => (time? text).any List.isEmpty

/-! ## All scalars -/

/-- What a value without quotes or brackets stands for. -/
def scalar? (text : List Char) : Option Value :=
  if text = "true".toList then some (.boolean true)
  else if text = "false".toList then some (.boolean false)
  else if isMoment text then some .moment
  else (integer? text).or (float? text)

/-- Whether a character can belong to a value without quotes or brackets. -/
def isScalarChar (c : Char) : Bool := !"=,[]\x7b\x7d \t#\r\n".contains c

/-- Whether a character can stand at the start of such a value. -/
def startsScalar (c : Char) : Bool := isScalarChar c && c != '.' && c != '"' && c != '\''

/-- Takes the characters of a value without quotes or brackets. Blanks belong to it if more of such
characters follow; `fuel` bounds how often this happens. -/
def takeScalar : (fuel : Nat) → List Char → List Char × List Char
  | 0, text => ([], text)
  | fuel + 1, text =>
    let word := text.takeWhile isScalarChar
    let rest := text.dropWhile isScalarChar
    let more := skipSpace rest
    if rest.head?.any isSpace && more.head?.any startsScalar then
      let (words, rest') := takeScalar fuel more
      (word ++ rest.takeWhile isSpace ++ words, rest')
    else (word, rest)

/-- Reads a value without quotes or brackets. -/
def readScalar? (text : List Char) : Option (Value × List Char) :=
  let (word, rest) := takeScalar (text.length + 1) text
  (scalar? word).map fun v => (v, rest)

end HouseStyle.Toml
