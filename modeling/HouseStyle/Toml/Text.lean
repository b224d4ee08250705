/-!
# Blanks, remarks, strings and keys of a settings document

Each reader takes the text in front of it and gives back what it has read with the rest of the
text, or nothing if the text is not well-formed there.
-/

namespace HouseStyle.Toml

/-- Whether a character is a blank within a line. -/
def isSpace (c : Char) : Bool := c == ' ' || c == '\t'

/-- Drops the blanks at the start of a text. -/
def skipSpace (text : List Char) : List Char := text.dropWhile isSpace

/-- Whether a character may stand in remarks and strings: no control character but the tab. -/
def isAllowed (c : Char) : Bool := c == '\t' || (0x20 ≤ c.toNat && c != '\x7f')

/-- Drops a newline, with or without a carriage return. -/
def newline? : List Char → Option (List Char)
  | '\n' :: rest => some rest
  | '\r' :: '\n' :: rest => some rest
  | _ => none

/-- Drops a remark, if there is one. The end of the line stays. -/
def skipRemark : List Char → List Char
  | '#' :: rest => rest.dropWhile isAllowed
  | text => text

/-- Reads the end of a line: blanks, perhaps a remark, and a newline or the end of the text. -/
def lineEnd? (text : List Char) : Option (List Char) :=
  match skipRemark (skipSpace text) with
  | [] => some []
  | rest => newline? rest

/-- Drops blanks, remarks and newlines; `fuel` bounds the number of lines. -/
def skipLines : Nat → List Char → List Char
  | 0, text => text
  | fuel + 1, text =>
    match newline? (skipRemark (skipSpace text)) with
    | some rest => skipLines fuel rest
    | none => skipRemark (skipSpace text)

/-- Drops all blanks, remarks and newlines at the start of a text. -/
def skipAll (text : List Char) : List Char := skipLines text.length text

/-! ## Strings -/

/-- The value of a hexadecimal digit. -/
def hexDigit? (c : Char) : Option Nat :=
  if '0' ≤ c ∧ c ≤ '9' then some (c.toNat - '0'.toNat)
  else if 'a' ≤ c ∧ c ≤ 'f' then some (c.toNat - 'a'.toNat + 10)
  else if 'A' ≤ c ∧ c ≤ 'F' then some (c.toNat - 'A'.toNat + 10)
  else none

/-- Reads the code of a character with the given number of digits. -/
def readCode? (code : Nat) : Nat → List Char → Option (Char × List Char)
  | 0, text => if code.isValidChar then some (Char.ofNat code, text) else none
  | _ + 1, [] => none
  | n + 1, c :: rest => do
    let digit ← hexDigit? c
    readCode? (16 * code + digit) n rest

/-- Reads an escape from the text behind the backslash. -/
def readEscape? : List Char → Option (Char × List Char)
  | [] => none
  | c :: rest =>
    match c with
    | 'b' => some ('\x08', rest)
    | 't' => some ('\t', rest)
    | 'n' => some ('\n', rest)
    | 'f' => some ('\x0c', rest)
    | 'r' => some ('\r', rest)
    | 'e' => some ('\x1b', rest)
    | '"' => some ('"', rest)
    | '\\' => some ('\\', rest)
    | 'x' => readCode? 0 2 rest
    | 'u' => readCode? 0 4 rest
    | 'U' => readCode? 0 8 rest
    | _ => none

/-- Reads a string with escapes up to the closing quote; `fuel` bounds its length. -/
def readBasic? (done : List Char) : Nat → List Char → Option (List Char × List Char)
  | 0, _ => none
  | _ + 1, [] => none
  | fuel + 1, c :: rest =>
    if c = '"' then some (done.reverse, rest)
    else if c = '\\' then do
      let (d, rest) ← readEscape? rest
      readBasic? (d :: done) fuel rest
    else if isAllowed c then readBasic? (c :: done) fuel rest
    else none

/-- Reads a string without escapes up to the closing apostrophe. -/
def readLiteral? (text : List Char) : Option (List Char × List Char) :=
  match text.dropWhile fun c => isAllowed c && c != '\'' with
  | '\'' :: rest => some (text.takeWhile fun c => isAllowed c && c != '\'', rest)
  | _ => none

/-- The closing quotes of a string over several lines: three, and up to two before them that belong
to the string. -/
def closing? (quote : Char) (text : List Char) : Option (List Char × List Char) :=
  let count := (text.takeWhile (· == quote)).length
  if count < 3 then none
  else
    let own := min (count - 3) 2
    some (List.replicate own quote, text.drop (own + 3))

/-- Drops the line that a backslash breaks: blanks, a newline, and blanks and newlines behind it. -/
def continuation? (text : List Char) : Option (List Char) :=
  (newline? (skipSpace text)).map fun rest => skipBroken rest.length rest
where
  /-- Drops blanks and newlines; `fuel` bounds the number of lines. -/
  skipBroken : Nat → List Char → List Char
    | 0, text => text
    | fuel + 1, text =>
      match newline? (skipSpace text) with
      | some rest => skipBroken fuel rest
      | none => skipSpace text

/-- Reads a string over several lines, with escapes if it stands between quotes; `fuel` bounds its
length. -/
def readLong? (quote : Char) (done : List Char) : Nat → List Char → Option (List Char × List Char)
  | 0, _ => none
  | _ + 1, [] => none
  | fuel + 1, c :: rest =>
    match closing? quote (c :: rest) with
    | some (own, rest) => some (done.reverse ++ own, rest)
    | none =>
      if c = '\\' ∧ quote = '"' then
        match continuation? rest with
        | some rest => readLong? quote done fuel rest
        | none => do
          let (d, rest) ← readEscape? rest
          readLong? quote (d :: done) fuel rest
      else if isAllowed c ∨ c = '\n' then readLong? quote (c :: done) fuel rest
      else
        match newline? (c :: rest) with
        | some rest => readLong? quote ('\n' :: c :: done) fuel rest
        | none => none

/-- Reads a string over several lines from the text behind the opening quotes. A newline right
there does not count. -/
def readLongString? (quote : Char) (text : List Char) : Option (List Char × List Char) :=
  readLong? quote [] (text.length + 1) ((newline? text).getD text)

/-- Reads a string of any kind. -/
def readString? (text : List Char) : Option (String × List Char) :=
  let result :=
    match text with
    | '"' :: '"' :: '"' :: rest => readLongString? '"' rest
    | '\'' :: '\'' :: '\'' :: rest => readLongString? '\'' rest
    | '"' :: rest => readBasic? [] (rest.length + 1) rest
    | '\'' :: rest => readLiteral? rest
    | _ => none
  result.map fun (s, rest) => (String.ofList s, rest)

/-! ## Keys -/

/-- Whether a character may stand in a key without quotes. -/
def isKeyChar (c : Char) : Bool := c.isAlphanum || c == '_' || c == '-'

/-- Reads one part of a key. -/
def readKeyPart? (text : List Char) : Option (String × List Char) :=
  match text with
  | '"' :: rest =>
    (readBasic? [] (rest.length + 1) rest).map fun (s, rest) => (String.ofList s, rest)
  | '\'' :: rest => (readLiteral? rest).map fun (s, rest) => (String.ofList s, rest)
  | text =>
    let part := text.takeWhile isKeyChar
    if part = [] then none else some (String.ofList part, text.dropWhile isKeyChar)

/-- How many parts a key may have. -/
def maxParts : Nat := 80

/-- Reads a key, whose parts are separated by dots; blanks around them are dropped. The parts come
with the last one first, and there must not be more than the given number. -/
def readParts? (done : List String) : Nat → List Char → Option (List String × List Char)
  | 0, _ => none
  | more + 1, text => do
    let (part, rest) ← readKeyPart? (skipSpace text)
    match skipSpace rest with
    | '.' :: rest => readParts? (part :: done) more rest
    | rest => some (part :: done, rest)

/-- A key: the tables it goes through, and its last part. -/
structure Key where
  /-- The tables, outermost first. -/
  path : List String
  last : String
  deriving DecidableEq, Repr

/-- Reads a key, blanks around it included. -/
def readKey? (text : List Char) : Option (Key × List Char) :=
  match readParts? [] maxParts text with
  | some (last :: path, rest) => some (⟨path.reverse, last⟩, rest)
  | _ => none

end HouseStyle.Toml
