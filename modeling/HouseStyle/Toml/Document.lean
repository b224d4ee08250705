import HouseStyle.Toml.Scalar
import HouseStyle.Toml.Text

/-!
# Reading a settings document

A document is a sequence of lines: a key with its value, a header, or nothing. Within brackets and
braces a value may run over several lines. `Document.ofString?` reads the whole document or nothing.
-/

namespace HouseStyle.Toml

/-- How deeply values may nest. -/
def maxDepth : Nat := 80

mutual

/-- Reads a value; `depth` is the number of levels that may still be opened, and `fuel` bounds the
number of values. -/
def readValue? (depth : Nat) : Nat → List Char → Option (Value × List Char)
  | 0, _ => none
  | fuel + 1, text =>
    match text with
    | '[' :: rest => if depth = 0 then none else readItems? (depth - 1) [] fuel (skipAll rest)
    | '\x7b' :: rest => if depth = 0 then none else readFields? (depth - 1) [] fuel (skipAll rest)
    | '"' :: _ => (readString? text).map fun (s, rest) => (.string s, rest)
    | '\'' :: _ => (readString? text).map fun (s, rest) => (.string s, rest)
    | text => readScalar? text

/-- Reads the items of a list, the last one read first in `done`. -/
def readItems? (depth : Nat) (done : List Value) : Nat → List Char → Option (Value × List Char)
  | 0, _ => none
  | fuel + 1, text =>
    match text with
    | ']' :: rest => some (.array done.reverse, rest)
    | text => do
      let (item, rest) ← readValue? depth fuel text
      match skipAll rest with
      | ',' :: rest => readItems? depth (item :: done) fuel (skipAll rest)
      | ']' :: rest => some (.array (item :: done).reverse, rest)
      | _ => none

/-- Reads the entries of a table that is written as a value. -/
def readFields? (depth : Nat) (done : Entries) : Nat → List Char → Option (Value × List Char)
  | 0, _ => none
  | fuel + 1, text =>
    match text with
    | '\x7d' :: rest => some (.table .value done, rest)
    | text => do
      let (key, rest) ← readKey? text
      let rest ← expect? '=' (skipAll rest)
      let (value, rest) ← readValue? depth fuel (skipAll rest)
      let done ← done.assign? key.last value key.path
      match skipAll rest with
      | ',' :: rest => readFields? depth done fuel (skipAll rest)
      | '\x7d' :: rest => some (.table .value done, rest)
      | _ => none

end

/-- A document that is being read. -/
structure Document where
  entries : Entries := []
  /-- The table that the last header has named. -/
  current : List String := []

namespace Document

/-- Reads a header, from the text behind its first bracket. -/
def header? (d : Document) (text : List Char) : Option (Document × List Char) := do
  let (isElement, text) :=
    match text with
    | '[' :: rest => (true, rest)
    | text => (false, text)
  let (key, rest) ← readKey? text
  let rest ← expect? ']' rest
  let rest ← if isElement then expect? ']' rest else some rest
  let start := if isElement then Entries.openElement? key.last else Entries.openTable? key.last
  let entries ← d.entries.within? start key.path
  return ({ entries, current := key.path ++ [key.last] }, rest)

/-- Reads a key and its value. -/
def entry? (d : Document) (text : List Char) : Option (Document × List Char) := do
  let (key, rest) ← readKey? text
  let rest ← expect? '=' rest
  let (value, rest) ← readValue? maxDepth (rest.length + 1) (skipSpace rest)
  let entries ← d.entries.within? (Entries.assign? key.last value key.path) d.current
  return ({ d with entries }, rest)

/-- Reads what stands on a line in front of its end. -/
def statement? (d : Document) (text : List Char) : Option (Document × List Char) :=
  match text with
  | [] => some (d, [])
  | c :: rest =>
    if c = '[' then d.header? rest
    else if c = '#' ∨ c = '\n' ∨ c = '\r' then some (d, text)
    else d.entry? text

/-- Reads the remaining lines; `fuel` bounds their number. -/
def readLines? (d : Document) : Nat → List Char → Option Entries
  | 0, _ => none
  | fuel + 1, text => do
    let (d, rest) ← d.statement? (skipSpace text)
    let rest ← lineEnd? rest
    if rest = [] then some d.entries else readLines? d fuel rest

/-- The entries of a document; a byte order mark in front does not count. -/
def ofString? (text : String) : Option Entries :=
  let chars := text.toList
  let chars := if chars.head? = some '\ufeff' then chars.tail else chars
  readLines? {} (chars.length + 1) chars

end Document

end HouseStyle.Toml
