import HouseStyle.Pattern.Mode
import HouseStyle.Pattern.Property
import HouseStyle.Text.Word

/-!
# Escapes

What a backslash stands for: a character, by itself or by its code, a class of characters, or an
anchor. Letters and digits without a meaning are refused, so that one can be given to them later.
-/

namespace HouseStyle.Pattern

open Text

/-- The smallest parts of a pattern. -/
inductive Atom where
  | char (c : Char)
  /-- A set of characters in its shortest form. -/
  | set (s : CodeSet)
  | anchor (a : Anchor)

/-- The value of a hexadecimal digit. -/
def hexDigit? (c : Char) : Option Nat :=
  if '0' ≤ c ∧ c ≤ '9' then some (c.toNat - '0'.toNat)
  else if 'a' ≤ c ∧ c ≤ 'f' then some (c.toNat - 'a'.toNat + 10)
  else if 'A' ≤ c ∧ c ≤ 'F' then some (c.toNat - 'A'.toNat + 10)
  else none

/-- The character with the given code. -/
def charOfCode? (code : Nat) : Option Char :=
  if code.isValidChar then some (Char.ofNat code) else none

namespace Escape

/-- Reads exactly `n` hexadecimal digits. -/
def fixedHex? (mode : Mode) (value : Nat) : Nat → List Char → Option (Nat × List Char)
  | 0, text => some (value, text)
  | n + 1, text =>
    match mode.skip text with
    | [] => none
    | c :: rest => do
      let digit ← hexDigit? c
      fixedHex? mode (16 * value + digit) n rest

/-- Reads hexadecimal digits up to a closing brace; `fuel` bounds their number. -/
def bracedHex? (mode : Mode) (value : Option Nat) : Nat → List Char → Option (Nat × List Char)
  | 0, _ => none
  | fuel + 1, text =>
    match mode.skip text with
    | [] => none
    | '}' :: rest => value.map fun n => (n, rest)
    | c :: rest => do
      let digit ← hexDigit? c
      bracedHex? mode (some (16 * value.getD 0 + digit)) fuel rest

/-- Reads the code of a character behind `\x`, `\u` or `\U`, which takes `n` digits unless they
stand in braces. A two-digit code beyond ASCII is a byte unless every script is on. -/
def coded? (mode : Mode) (n : Nat) (text : List Char) : Option (Atom × List Char) :=
  match mode.skip text with
  | '{' :: rest => do
    let (code, rest) ← bracedHex? mode none (rest.length + 1) rest
    let c ← charOfCode? code
    return (.char c, rest)
  | text => do
    let (code, rest) ← fixedHex? mode 0 n text
    let c ← charOfCode? code
    guard (mode.everyScript || n ≠ 2 || code < 0x80)
    return (.char c, rest)

/-- Reads a property name up to a closing brace; `fuel` bounds its length. -/
def bracedName? (mode : Mode) (name : List Char) : Nat → List Char → Option (List Char × List Char)
  | 0, _ => none
  | fuel + 1, text =>
    match mode.skip text with
    | [] => none
    | '}' :: rest => some (name.reverse, rest)
    | c :: rest => bracedName? mode (c :: name) fuel rest

/-- Reads a property behind `\p` or `\P`. -/
def property? (mode : Mode) (negated : Bool) (text : List Char) : Option (Atom × List Char) := do
  guard mode.everyScript
  let (name, rest) ←
    match mode.skip text with
    | [] => none
    | '\\' :: _ => none
    | '{' :: rest => bracedName? mode [] (rest.length + 1) rest
    | c :: rest => some ([c], rest)
  let (flipped, set) ← Pattern.property? name
  let set ← mode.negate? (negated != flipped) (mode.fold set)
  return (.set set, rest)

/-- The ASCII characters behind `\d`, `\s` or `\w`, in hexadecimal. -/
def namedAscii : Char → String
  | 'd' => "30-39"
  | 's' => "9-D 20"
  | _ => "30-39 41-5A 5F 61-7A"

/-- The characters behind `\d`, `\s` or `\w`. -/
def namedClass (mode : Mode) (c : Char) : CodeSet :=
  let ascii := CodeSet.ofHex (namedAscii c)
  if !mode.everyScript then ascii
  else
    match c with
    | 'd' => ascii.union foreignDigits
    | 's' => blanks
    | _ => (ascii.union (foreignDigits.union foreignLetters)).normalize

/-- The names of the halves of a word's edge, behind `\b`. -/
def edgeNamed? (a : Alphabet) (name : List Char) : Option Anchor :=
  if name = "start".toList then some (.wordStart a)
  else if name = "end".toList then some (.wordEnd a)
  else if name = "start-half".toList then some (.wordStartHalf a)
  else if name = "end-half".toList then some (.wordEndHalf a)
  else none

/-- Whether a character can stand in the name of an edge. -/
def isEdgeChar (c : Char) : Bool := c.isAlpha || c == '-'

/-- Reads the name of an edge up to a closing brace; `fuel` bounds its length. -/
def edgeName? (mode : Mode) (name : List Char) : Nat → List Char → Option (List Char × List Char)
  | 0, _ => none
  | fuel + 1, text =>
    match mode.skip text with
    | [] => none
    | c :: rest =>
      if c = '}' then some (name.reverse, rest)
      else if isEdgeChar c then edgeName? mode (c :: name) fuel rest
      else none

/-- Reads what follows `\b`: the name of an edge in braces, unless they hold a count. -/
def edge? (mode : Mode) (text : List Char) : Option (Atom × List Char) :=
  match text with
  | '{' :: inner =>
    match mode.skip inner with
    | [] => none
    | c :: _ =>
      if isEdgeChar c then do
        let (name, rest) ← edgeName? mode [] (inner.length + 1) inner
        let a ← edgeNamed? mode.alphabet name
        return (.anchor a, rest)
      else some (.anchor (.wordEdge mode.alphabet), text)
  | text => some (.anchor (.wordEdge mode.alphabet), text)

/-- The control character that a letter stands for. -/
def control? : Char → Option Char
  | 'a' => some '\x07'
  | 'f' => some '\x0c'
  | 't' => some '\t'
  | 'n' => some '\n'
  | 'r' => some '\r'
  | 'v' => some '\x0b'
  | _ => none

/-- The anchor that a letter stands for. -/
def anchor? (mode : Mode) : Char → Option Anchor
  | 'A' => some .textStart
  | 'z' => some .textEnd
  | 'B' => some (.noWordEdge mode.alphabet)
  | '<' => some (.wordStart mode.alphabet)
  | '>' => some (.wordEnd mode.alphabet)
  | _ => none

/-- Whether a character stands for itself behind a backslash: ASCII, but no letter and no digit. -/
def isPlain (c : Char) : Bool := c.toNat < 0x80 && !c.isAlphanum && c != '<' && c != '>'

/-- Reads an escape from the text behind the backslash. -/
def read? (mode : Mode) : List Char → Option (Atom × List Char)
  | [] => none
  | c :: rest =>
    match c with
    | 'x' => coded? mode 2 rest
    | 'u' => coded? mode 4 rest
    | 'U' => coded? mode 8 rest
    | 'p' => property? mode false rest
    | 'P' => property? mode true rest
    | 'd' | 's' | 'w' => some (.set (namedClass mode c), rest)
    | 'D' | 'S' | 'W' => do
      let set ← mode.negate? true (namedClass mode c.toLower)
      return (.set set, rest)
    | 'b' => edge? mode rest
    | _ =>
      if isPlain c then some (.char c, rest)
      else
        ((control? c).map fun d => (.char d, rest)).or
          ((anchor? mode c).map fun a => (.anchor a, rest))

end Escape

end HouseStyle.Pattern
