import HouseStyle.Pattern.Assembly
import HouseStyle.Pattern.Bracket
import HouseStyle.Pattern.Search

/-!
# Reading a pattern

`Pattern.ofString?` reads a pattern as users write it. The reader walks over the text once and
keeps the groups that are still open on a stack, the innermost first. Patterns that nest too
deeply or whose machines outgrow their room are refused.
-/

namespace HouseStyle.Pattern

open Text

/-- The deepest nesting that is accepted. -/
def maxHeight : Nat := 250

/-- A part of a pattern. -/
structure Piece where
  expr : Expr
  /-- How deeply it nests. -/
  height : Nat := 0

/-- A part that matches one character of a set. -/
def Piece.ofSet (s : CodeSet) (height : Nat) : Piece := { expr := .ofSet s, height }

/-- A part that matches a character of the pattern, in either case if cases do not count. -/
def Piece.ofChar (mode : Mode) (c : Char) : Piece := .ofSet (mode.fold (.single c)) 0

/-- The height of some parts as one; a single part adds no level. -/
def Piece.heightOf (pieces : List Piece) : Nat :=
  (pieces.map Piece.height).foldl max 0 + if pieces.length < 2 then 0 else 1

/-- The parts of a pattern, one after the other; the last one comes first in the list. -/
def Piece.sequence (pieces : List Piece) : Piece where
  expr := .concat (pieces.reverse.map Piece.expr)
  height := heightOf pieces

/-- The branches of a pattern, the last one first in the list. -/
def Piece.choice : List Piece → Piece
  | [branch] => branch
  | branches => {
      expr := .alternation (branches.reverse.map Piece.expr)
      height := heightOf branches }

/-- A part repeated. -/
def Piece.repeated (p : Piece) (counts : Counts) : Piece where
  expr := p.expr.repeated counts
  height := p.height + 1

/-! ## Repetitions -/

/-- Reads a number of repetitions, blanks around it allowed. -/
def readCount? (mode : Mode) (text : List Char) : Option (Nat × List Char) := do
  let text := text.dropWhile isBlank
  let (digits, rest) := spanCount mode (text.length + 1) [] text
  guard (!digits.isEmpty)
  let count := digits.foldl (fun n c => 10 * n + (c.toNat - '0'.toNat)) 0
  guard (count ≤ 0xFFFFFFFF)
  return (count, rest)
where
  /-- Splits off the digits, and the blanks behind them. -/
  spanCount (mode : Mode) : Nat → List Char → List Char → List Char × List Char
    | fuel + 1, digits, c :: rest =>
      if c.isDigit then spanCount mode fuel (c :: digits) (mode.skip rest)
      else (digits.reverse, (c :: rest).dropWhile isBlank)
    | _, digits, text => (digits.reverse, text)

/-- Reads the counts of a repetition, from the text behind the opening brace. -/
def readCounts? (mode : Mode) (text : List Char) : Option ((Nat × Option Nat) × List Char) := do
  let (min, rest) ← readCount? mode (mode.skip text)
  match rest with
  | '}' :: rest => return ((min, some min), rest)
  | ',' :: rest =>
    match mode.skip rest with
    | '}' :: rest => return ((min, none), rest)
    | text => do
      let (max, rest) ← readCount? mode text
      match rest with
      | '}' :: rest =>
        guard (min ≤ max)
        return ((min, some max), rest)
      | _ => none
  | _ => none

/-- Splits off the mark of a repetition that turns its preference around. -/
def spanLazy (mode : Mode) : List Char → Bool × List Char
  | '?' :: rest => (!mode.lazy, rest)
  | text => (mode.lazy, text)

/-- Reads the repetitions behind a part; `fuel` bounds their number. -/
def readRepeats? (mode : Mode) (p : Piece) : Nat → List Char → Option (Piece × List Char)
  | 0, _ => none
  | fuel + 1, text =>
    let repeated (least : Nat) (most : Option Nat) (rest : List Char) :=
      let (lazy, rest) := spanLazy mode rest
      readRepeats? mode (p.repeated { least, most, lazy }) fuel rest
    match mode.skip text with
    | '*' :: rest => repeated 0 none rest
    | '+' :: rest => repeated 1 none rest
    | '?' :: rest => repeated 0 (some 1) rest
    | '{' :: rest => do
      let ((least, most), rest) ← readCounts? mode rest
      repeated least most (mode.skip rest)
    | text => some (p, text)

/-! ## Groups -/

/-- A group that is still open. -/
structure Group where
  /-- The mode to return to behind the group. -/
  outer : Mode
  number : Option Nat := none
  /-- The branches that are finished, the last one first. -/
  branches : List Piece := []
  /-- The parts of the current branch, the last one first. -/
  pieces : List Piece := []

/-- Adds a part to the current branch. -/
def Group.add (g : Group) (p : Piece) : Group := { g with pieces := p :: g.pieces }

/-- Starts another branch. -/
def Group.branch (g : Group) : Group :=
  { g with branches := .sequence g.pieces :: g.branches, pieces := [] }

/-- What the branches of the group stand for. -/
def Group.inner (g : Group) : Piece := .choice (.sequence g.pieces :: g.branches)

/-- What the group stands for. -/
def Group.value (g : Group) : Piece where
  expr := match g.number with
    | some n => .group n g.inner.expr
    | none => g.inner.expr
  height := g.inner.height + 1

/-- The numbered groups that have been opened. -/
structure Opened where
  count : Nat := 0
  /-- The names of those that have one. -/
  names : List (List Char) := []

/-- One more group without a name. -/
def Opened.next (opened : Opened) : Opened := { opened with count := opened.count + 1 }

/-- What stands at the start of a group. -/
inductive GroupStart where
  /-- A group with a number, counting among those opened. -/
  | numbered (opened : Opened)
  /-- A group without a number, with the mode inside it. -/
  | bare (mode : Mode)
  /-- A switch of the mode for the rest of the group around it. -/
  | switch (mode : Mode)

/-- Whether a character can stand in the name of a group. -/
def isNameChar (first : Bool) (c : Char) : Bool :=
  c == '_' || isAlphabetic c
    || (!first && (c == '.' || c == '[' || c == ']' || isNumeric c))

/-- Reads the name of a group, from the text behind the angle bracket. -/
def readName? (opened : Opened) (text : List Char) : Option (GroupStart × List Char) :=
  let name := text.takeWhile (· != '>')
  match name, text.dropWhile (· != '>') with
  | c :: more, _ :: rest =>
    if isNameChar true c && more.all (isNameChar false) && !opened.names.contains name then
      some (.numbered { opened.next with names := name :: opened.names }, rest)
    else none
  | _, _ => none

/-- Reads the switches of a mode up to the closing parenthesis or the colon, which is returned.
`seen` holds the letters that have occurred, the last one first. -/
def readSwitches? (mode : Mode) (on : Bool) (seen : List Char) :
    List Char → Option (Mode × Char × List Char × List Char)
  | [] => none
  | c :: rest =>
    if c = ':' ∨ c = ')' then
      if seen.head? = some '-' then none else some (mode, c, seen, rest)
    else if seen.contains c then none
    else if c = '-' then readSwitches? mode false ('-' :: seen) rest
    else
      match mode.set? on c with
      | some mode => readSwitches? mode on (c :: seen) rest
      | none => none

/-- Reads the start of a group, from the text behind the opening parenthesis. Groups that look
ahead or behind are refused. -/
def readGroupStart? (mode : Mode) (opened : Opened) (text : List Char) :
    Option (GroupStart × List Char) :=
  match mode.skip text with
  | '?' :: 'P' :: '<' :: rest => readName? opened rest
  | '?' :: '<' :: rest => readName? opened rest
  | '?' :: rest =>
    match readSwitches? mode true [] rest with
    | some (inner, ':', _, rest) => some (.bare inner, rest)
    | some (inner, _, _ :: _, rest) => some (.switch inner, rest)
    | _ => none
  | rest => some (.numbered opened.next, rest)

/-! ## The whole pattern -/

/-- Reads a part that is neither a group nor a branch. -/
def readPart? (mode : Mode) : List Char → Option (Piece × List Char)
  | [] => none
  | c :: rest =>
    match c with
    | '[' => do
      let ((set, height), rest) ← Bracket.read? mode rest
      return (.ofSet set height, rest)
    | '\\' => do
      let (atom, rest) ← Escape.read? mode rest
      match atom with
      | .char c => return (.ofChar mode c, rest)
      | .set s => return (.ofSet s 0, rest)
      | .anchor a => return ({ expr := .anchor a }, rest)
    | '.' => do return (.ofSet (← mode.dot?) 0, rest)
    | '^' => some ({ expr := .anchor mode.caret }, rest)
    | '$' => some ({ expr := .anchor mode.dollar }, rest)
    | '*' | '+' | '?' | '{' => none
    | _ => some (.ofChar mode c, rest)

/-- Reads the rest of a pattern within the open groups; `fuel` bounds the number of parts. -/
def readRest? (opened : Opened) (stack : List Group) (g : Group) (mode : Mode) :
    Nat → List Char → Option Piece
  | 0, _ => none
  | fuel + 1, text =>
    match mode.skip text with
    | [] => if stack.isEmpty then some g.inner else none
    | '|' :: rest => readRest? opened stack g.branch mode fuel rest
    | '(' :: rest => do
      let (start, rest) ← readGroupStart? mode opened rest
      match start with
      | .numbered opened =>
        readRest? opened (g :: stack) { outer := mode, number := some opened.count } mode fuel rest
      | .bare inner => readRest? opened (g :: stack) { outer := mode } inner fuel rest
      | .switch inner => readRest? opened stack (g.add { expr := .empty }) inner fuel rest
    | ')' :: rest =>
      match stack with
      | [] => none
      | outer :: stack => do
        let (p, rest) ← readRepeats? g.outer g.value (rest.length + 1) rest
        readRest? opened stack (outer.add p) g.outer fuel rest
    | text => do
      let (p, rest) ← readPart? mode text
      let (p, rest) ← readRepeats? mode p (rest.length + 1) rest
      readRest? opened stack (g.add p) mode fuel rest

/-- The expression that a text stands for, if it is well-formed. -/
def parse? (text : String) : Option Expr := do
  let chars := text.toList
  let p ← readRest? {} [] { outer := {} } {} (chars.length + 1) chars
  guard (p.height ≤ maxHeight)
  return p.expr

/-- The pattern that a text stands for, if it is well-formed and its machines stay within their
room. -/
def ofString? (text : String) : Option Pattern := do
  let expr ← parse? text
  guard expr.fits
  return expr.regex

end HouseStyle.Pattern
