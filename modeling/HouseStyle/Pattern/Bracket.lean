import HouseStyle.Pattern.Escape

/-!
# Bracketed classes

A bracket lists characters, ranges, escapes, named ASCII classes and other brackets, and combines
them by union, intersection (`&&`), difference (`--`) and symmetric difference (`~~`). The three
operators bind equally, from the left, and less than union. The reader keeps the brackets that
are still open on a stack, the innermost first.
-/

namespace HouseStyle.Pattern

open Text

namespace Bracket

/-- A set of characters with the depth of its nesting. -/
structure Sum where
  /-- The union of the parts read so far. -/
  set : CodeSet := .empty
  parts : Nat := 0
  /-- The deepest nesting of a part. -/
  depth : Nat := 0

/-- Adds a part to a sum. -/
def Sum.add (sum : Sum) (set : CodeSet) (depth : Nat) : Sum where
  set := sum.set.union set
  parts := sum.parts + 1
  depth := max sum.depth depth

/-- The nesting depth of a sum; a single part adds no level. -/
def Sum.height (sum : Sum) : Nat := if sum.parts < 2 then sum.depth else sum.depth + 1

/-- An operator between classes. -/
inductive Operator where
  /-- The common members. -/
  | both
  /-- The members of the left class alone. -/
  | without
  /-- The members of exactly one class. -/
  | either

/-- What an operator does, to sets in their shortest form. -/
def Operator.apply : Operator → CodeSet → CodeSet → CodeSet
  | both, s, t => s.inter t
  | without, s, t => s.diff t
  | either, s, t => s.symmDiff t

/-- A bracket that is still open. -/
structure Frame where
  negated : Bool
  /-- The left side of the last operator, with its depth. -/
  left : Option (Operator × CodeSet × Nat) := none
  sum : Sum := {}

/-- The value of a frame so far: the left side and the sum, combined by the operator between
them. -/
def Frame.value (mode : Mode) (f : Frame) : CodeSet × Nat :=
  match f.left with
  | none => (f.sum.set, f.sum.height)
  | some (op, left, depth) =>
    (op.apply (mode.fold left) (mode.fold f.sum.set), max depth f.sum.height + 1)

/-- Starts the right side of an operator. -/
def Frame.operate (mode : Mode) (f : Frame) (op : Operator) : Frame :=
  { f with left := some (op, f.value mode), sum := {} }

/-- The set that a finished bracket stands for, with its depth. -/
def Frame.close? (mode : Mode) (f : Frame) : Option (CodeSet × Nat) := do
  let (set, depth) := f.value mode
  let set ← mode.negate? f.negated (mode.fold set)
  return (set, depth + 1)

/-- Adds a part to the sum of a frame. -/
def Frame.add (f : Frame) (set : CodeSet) (depth : Nat) : Frame :=
  { f with sum := f.sum.add set depth }

/-- Reads the dashes at the start of a bracket, which stand for themselves. -/
def leadingDashes? (mode : Mode) (f : Frame) : Nat → List Char → Option (Frame × List Char)
  | 0, _ => none
  | fuel + 1, text =>
    match mode.skip text with
    | [] => none
    | '-' :: rest => leadingDashes? mode (f.add (.single '-') 0) fuel rest
    | text => some (f, text)

/-- Opens a bracket, from the text behind the square bracket. A closing one that comes first
stands for itself. -/
def open? (mode : Mode) (text : List Char) : Option (Frame × List Char) := do
  let text := mode.skip text
  let (negated, text) :=
    match text with
    | '^' :: rest => (true, rest)
    | text => (false, text)
  let (f, text) ← leadingDashes? mode { negated } (text.length + 1) text
  match text with
  | ']' :: rest =>
    if f.sum.parts = 0 then
      match mode.skip rest with
      | [] => none
      | text => some (f.add (.single ']') 0, text)
    else some (f, text)
  | text => some (f, text)

/-- The named ASCII classes, in hexadecimal. -/
def asciiClasses : List (String × String) :=
  [("alnum", "30-39 41-5A 61-7A"), ("alpha", "41-5A 61-7A"), ("ascii", "0-7F"),
    ("blank", "9 20"), ("cntrl", "0-1F 7F"), ("digit", "30-39"), ("graph", "21-7E"),
    ("lower", "61-7A"), ("print", "20-7E"), ("punct", "21-2F 3A-40 5B-60 7B-7E"),
    ("space", "9-D 20"), ("upper", "41-5A"), ("word", "30-39 41-5A 5F 61-7A"),
    ("xdigit", "30-39 41-46 61-66")]

/-- The named class of the text behind a square bracket, such as `:alpha:]`; the outer option
tells whether there is one, the inner one whether it is allowed. -/
def named? (mode : Mode) (text : List Char) : Option (Option CodeSet × List Char) :=
  match text with
  | ':' :: rest => do
    let (negated, rest) :=
      match rest with
      | '^' :: rest => (true, rest)
      | rest => (false, rest)
    let name := rest.takeWhile (· != ':')
    let table ← (asciiClasses.find? fun entry => entry.1.toList = name).map Prod.snd
    match rest.dropWhile (· != ':') with
    | ':' :: ']' :: rest =>
      some (mode.negate? negated (mode.fold (.ofHex table)), rest)
    | _ => none
  | _ => none

/-- Reads a character or an escape within a bracket. -/
def atom? (mode : Mode) : List Char → Option (Atom × List Char)
  | [] => none
  | '\\' :: rest => Escape.read? mode rest
  | c :: rest => some (.char c, rest)

/-- Whether a character may be listed: only ASCII unless every script is on. -/
def allows (mode : Mode) (c : Char) : Bool := mode.everyScript || c.toNat < 0x80

/-- What an atom adds to a bracket. -/
def ofAtom? (mode : Mode) : Atom → Option CodeSet
  | .char c => if allows mode c then some (.single c) else none
  | .set s => some s
  | .anchor _ => none

/-- The range between two atoms. -/
def rangeOf? (mode : Mode) : Atom → Atom → Option CodeSet
  | .char lo, .char hi =>
    if lo ≤ hi && allows mode lo && allows mode hi then some (.range lo hi) else none
  | _, _ => none

/-- Whether the text behind an atom goes on with a dash that makes a range. -/
def rangeEnd? (mode : Mode) : List Char → Option (List Char)
  | '-' :: rest =>
    match mode.skip rest with
    | ']' :: _ => none
    | '-' :: _ => none
    | text => some text
  | _ => none

/-- Reads an atom or a range. -/
def item? (mode : Mode) (text : List Char) : Option (CodeSet × List Char) := do
  let (first, rest) ← atom? mode text
  let rest := mode.skip rest
  match rangeEnd? mode rest with
  | some text => do
    let (last, rest) ← atom? mode text
    let set ← rangeOf? mode first last
    return (set, rest)
  | none => do
    let set ← ofAtom? mode first
    return (set, rest)

/-- Reads the brackets of a stack to the end of the outermost one: its characters and depth,
and the text behind it. The fuel bounds the number of items. -/
def close? (mode : Mode) (stack : List Frame) (f : Frame) :
    Nat → List Char → Option ((CodeSet × Nat) × List Char)
  | 0, _ => none
  | fuel + 1, text =>
    match mode.skip text with
    | [] => none
    | '[' :: rest =>
      match named? mode rest with
      | some (set, rest) => do
        let set ← set
        close? mode stack (f.add set 0) fuel rest
      | none => do
        let (inner, rest) ← open? mode rest
        close? mode (f :: stack) inner fuel rest
    | ']' :: rest => do
      let value ← f.close? mode
      match stack with
      | [] => return (value, rest)
      | outer :: stack => close? mode stack (outer.add value.1 value.2) fuel rest
    | '&' :: '&' :: rest => close? mode stack (f.operate mode .both) fuel rest
    | '-' :: '-' :: rest => close? mode stack (f.operate mode .without) fuel rest
    | '~' :: '~' :: rest => close? mode stack (f.operate mode .either) fuel rest
    | text => do
      let (set, rest) ← item? mode text
      close? mode stack (f.add set 0) fuel rest

/-- Reads a bracketed class from the text behind its square bracket. -/
def read? (mode : Mode) (text : List Char) : Option ((CodeSet × Nat) × List Char) := do
  let (f, rest) ← open? mode text
  close? mode [] f (rest.length + 1) rest

end Bracket

end HouseStyle.Pattern
