/-!
# JSON documents

The JSON values that a report is made of, and their text: two blanks of indentation for each
level, a blank after each colon, one entry on each line. Strings are written as they are apart
from quotes, backslashes and control characters.
-/

namespace HouseStyle

/-- A JSON value; the numbers of a report are natural numbers. -/
inductive Json where
  | null
  | number (n : Nat)
  | string (s : String)
  | array (items : List Json)
  /-- An object, in the order of its fields. -/
  | object (fields : List (String × Json))

namespace Json

/-- A small hexadecimal digit. -/
def hexDigit (n : Nat) : Char := Char.ofNat (if n < 10 then '0'.toNat + n else 'a'.toNat + (n - 10))

/-- A character within a string. -/
def escapeChar (c : Char) : List Char :=
  if c = '"' then ['\\', '"']
  else if c = '\\' then ['\\', '\\']
  else if c = '\n' then ['\\', 'n']
  else if c = '\r' then ['\\', 'r']
  else if c = '\t' then ['\\', 't']
  else if c = '\x08' then ['\\', 'b']
  else if c = '\x0c' then ['\\', 'f']
  else if c.toNat < 0x20 then
    ['\\', 'u', '0', '0', hexDigit (c.toNat / 16), hexDigit (c.toNat % 16)]
  else [c]

/-- A string with its quotes. -/
def quote (s : String) : List Char := '"' :: s.toList.flatMap escapeChar ++ ['"']

/-- The start of a line at the given level. -/
def newLine (level : Nat) : List Char := '\n' :: List.replicate (2 * level) ' '

mutual

/-- The text of a value whose entries stand at the given level. -/
def renderAt (level : Nat) : Json → List Char
  | null => "null".toList
  | number n => Nat.toDigits 10 n
  | string s => quote s
  | array [] => ['[', ']']
  | array (item :: items) =>
    '[' :: newLine (level + 1) ++ renderAt (level + 1) item ++ renderItems (level + 1) items
      ++ newLine level ++ [']']
  | object [] => ['\x7b', '\x7d']
  | object ((key, value) :: fields) =>
    '\x7b' :: newLine (level + 1) ++ quote key ++ [':', ' '] ++ renderAt (level + 1) value
      ++ renderFields (level + 1) fields ++ newLine level ++ ['\x7d']

/-- The further items of a list. -/
def renderItems (level : Nat) : List Json → List Char
  | [] => []
  | item :: items => ',' :: newLine level ++ renderAt level item ++ renderItems level items

/-- The further fields of an object. -/
def renderFields (level : Nat) : List (String × Json) → List Char
  | [] => []
  | (key, value) :: fields =>
    ',' :: newLine level ++ quote key ++ [':', ' '] ++ renderAt level value
      ++ renderFields level fields

end

/-- The text of a document. -/
def render (v : Json) : String := String.ofList (renderAt 0 v)

end Json

end HouseStyle
