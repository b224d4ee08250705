import HouseStyle.Text.Blank

/-!
# The name of a method

A method is shown by its name and its arguments, such as `run(String[] args)`: the first ASCII
letters behind a blank that are followed by a pair of parentheses, up to the last closing one.
A line without such a shape is shown up to its first brace.
-/

namespace HouseStyle

open Text

/-- The part of a text up to its last `c`, which is included. -/
def throughLast? (c : Char) (text : List Char) : Option (List Char) :=
  match text.reverse.dropWhile (· != c) with
  | [] => none
  | rest => some rest.reverse

/-- The parenthesis that opens the arguments, perhaps after one blank. -/
def argumentsOpening? : List Char → Option (List Char × List Char)
  | [] => none
  | '(' :: rest => some (['('], rest)
  | c :: rest =>
    match rest with
    | '(' :: rest => if isBlank c then some ([c, '('], rest) else none
    | _ => none

/-- The name and the arguments at the start of a text, on its first line. -/
def callAt? (text : List Char) : Option (List Char) := do
  let name := text.takeWhile Char.isAlpha
  guard !name.isEmpty
  let (opening, rest) ← argumentsOpening? (text.dropWhile Char.isAlpha)
  let arguments ← throughLast? ')' (rest.takeWhile (· != '\n'))
  return name ++ opening ++ arguments

/-- The name and the arguments behind the first blank where there are some. -/
def signature? : List Char → Option (List Char)
  | [] => none
  | c :: rest =>
    match if isBlank c then callAt? rest else none with
    | some name => some name
    | none => signature? rest

/-- The name under which a line's method is reported. -/
def displayName (text : List Char) : List Char :=
  (signature? text).getD (trim (text.takeWhile (· != '{')))

end HouseStyle
