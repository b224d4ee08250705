/-!
# Values of a settings document

The values that a TOML document is made of, and how keys and headers build up its tables. A table
remembers how it came about, because that decides what may still be added to it:

* a table written as a value is complete;
* a table that a header names must not be named again, nor be filled by dotted keys;
* a table that is only part of a longer header may still get a header of its own;
* a table made by dotted keys may be extended by dotted keys.

`assign?` adds a value under a dotted key, `openTable?` and `openElement?` do what the two kinds of
headers say, and `within?` goes to the place that a header has named.
-/

namespace HouseStyle.Toml

/-- How a table came about. -/
inductive Origin where
  /-- It is written as a value. -/
  | value
  /-- A header names it. -/
  | header
  /-- The header of a table inside it implies it. -/
  | implied
  /-- A dotted key makes it. -/
  | dotted
  deriving DecidableEq, Repr

/-- A value of a document. -/
inductive Value where
  | string (s : String)
  | integer (n : Int)
  /-- An integer whose digits do not make up a number. -/
  | unreadable
  | float (x : Float)
  /-- A floating-point number that is too large for the format. -/
  | hugeFloat
  | boolean (b : Bool)
  /-- A date, a time or both. -/
  | moment
  | array (items : List Value)
  /-- A list of tables, one for each header. -/
  | tables (elements : List (List (String × Value)))
  | table (origin : Origin) (entries : List (String × Value))

/-- The entries of a table, in the order in which they were made. -/
abbrev Entries := List (String × Value)

namespace Entries

/-- Replaces the value of a key, or adds it at the end. -/
def put (key : String) (value : Value) : Entries → Entries
  | [] => [(key, value)]
  | (k, v) :: rest => if k = key then (key, value) :: rest else (k, v) :: put key value rest

/-- Changes the last of several tables. -/
def updateLast? (f : Entries → Option Entries) : List Entries → Option (List Entries)
  | [] => none
  | [last] => (f last).map fun e => [e]
  | e :: rest => (updateLast? f rest).map (e :: ·)

/-- Adds a value under a dotted key: the path of the tables, and the last part. -/
def assign? (key : String) (value : Value) : List String → Entries → Option Entries
  | [], entries =>
    if (entries.lookup key).isSome then none else some (entries ++ [(key, value)])
  | part :: path, entries =>
    match entries.lookup part with
    | none => (assign? key value path []).map fun e => entries ++ [(part, .table .dotted e)]
    | some (.table origin inner) =>
      if origin = .dotted ∨ (origin = .implied ∧ path ≠ []) then
        (assign? key value path inner).map fun e => put part (.table origin e) entries
      else none
    | some (.tables elements) =>
      if path = [] then none
      else
        (updateLast? (assign? key value path) elements).map fun es =>
          put part (.tables es) entries
    | some _ => none

/-- Changes the table at the end of a path of headers, making the tables on the way. -/
def within? (f : Entries → Option Entries) : List String → Entries → Option Entries
  | [], entries => f entries
  | part :: path, entries =>
    match entries.lookup part with
    | none => (within? f path []).map fun e => entries ++ [(part, .table .implied e)]
    | some (.table origin inner) =>
      if origin = .value then none
      else (within? f path inner).map fun e => put part (.table origin e) entries
    | some (.tables elements) =>
      (updateLast? (within? f path) elements).map fun es => put part (.tables es) entries
    | some _ => none

/-- Starts the table that a header names. -/
def openTable? (key : String) (entries : Entries) : Option Entries :=
  match entries.lookup key with
  | none => some (entries ++ [(key, .table .header [])])
  | some (.table .implied inner) => some (put key (.table .header inner) entries)
  | some _ => none

/-- Starts one more table of the list that a double header names. -/
def openElement? (key : String) (entries : Entries) : Option Entries :=
  match entries.lookup key with
  | none => some (entries ++ [(key, .tables [[]])])
  | some (.tables elements) => some (put key (.tables (elements ++ [[]])) entries)
  | some _ => none

end Entries

end HouseStyle.Toml
