import HouseStyle.Pattern.Expression
import HouseStyle.Pattern.Machine

/-!
# Putting machines together

`Expr.machine?` puts together the machine that searches for an expression in one direction, and
`Expr.fits` tells whether the machines of both directions stay within their room. The parts of a
machine follow the expression: a repetition is written out as often as it is counted, and where a
part can be left in several ways there is a fork. Only a choice between very many words does without
machines.
-/

namespace HouseStyle.Pattern

open Text

/-- A part of a machine: adds its states to a machine, and tells whether it ends at a fork. -/
abbrev Assembly := Machine → Option (Bool × Machine)

namespace Assembly

/-- Some states one after the other. -/
def states (n : Nat) : Assembly := fun m => do return (false, ← m.add n 0)

/-- A part that ends in a plain state. -/
def plain (part : Machine → Option Machine) : Assembly := fun m => do return (false, ← part m)

/-- Some parts of one kind, behind a part that ends at a fork or not. -/
def copies (part : Assembly) : Nat → Bool → Machine → Option (Bool × Machine)
  | 0, fork, m => some (fork, m)
  | n + 1, fork, m =>
    match part m with
    | none => none
    | some (next, m) =>
      match m.join fork with
      | none => none
      | some m => copies part n next m

/-- Exactly `n` parts of one kind. -/
def exactly (part : Assembly) : Nat → Assembly
  | 0 => states 1
  | n + 1 => fun m => do
    let (fork, m) ← part m
    copies part n fork m

/-- Parts one after the other. -/
def chain : List Assembly → Assembly
  | [] => states 1
  | [part] => part
  | part :: parts => fun m => do
    let (fork, m) ← part m
    let (last, m) ← chain parts m
    return (last, ← m.join fork)

/-- A part that need not be taken: a fork in front of it, and a state behind it. -/
def optional (part : Assembly) : Assembly := fun m => do
  let (fork, m) ← part (← m.add 1 0)
  return (false, ← (← m.add 1 (2 * forkRoom)).join fork)

/-- A part that can be taken again: a fork behind it. -/
def again (part : Assembly) : Assembly := fun m => do
  let (fork, m) ← part m
  return (true, ← (← m.add 1 forkRoom).join fork)

/-- A part that can be taken any number of times. If it reads something each time, one fork in
front of it is enough; otherwise there is one behind it and one that goes around it. -/
def anyNumber (solid : Bool) (part : Assembly) : Assembly := fun m =>
  if solid then do
    let (fork, m) ← part (← m.add 1 0)
    return (true, ← (← m.add 0 forkRoom).join fork)
  else do
    let (fork, m) ← part m
    return (false, ← (← m.add 3 (4 * forkRoom)).join fork)

/-- At most `n` parts behind one that does not end at a fork, with a fork in front of each. -/
def upTo (part : Assembly) : Nat → Bool → Machine → Option (Bool × Machine)
  | 0, fork, m => do return (false, ← m.join fork)
  | n + 1, fork, m =>
    match (m.add 1 (2 * forkRoom)).bind part with
    | none => none
    | some (next, m) =>
      match m.join fork with
      | none => none
      | some m => upTo part n next m

/-- A part repeated as counted. `solid` tells whether it reads something each time. -/
def repeated (counts : Counts) (solid : Bool) (part : Assembly) : Assembly :=
  match counts.least, counts.most with
  | 0, some 1 => optional part
  | 0, none => anyNumber solid part
  | 1, none => again part
  | least + 1, none => chain [exactly part least, again part]
  | least, some most =>
    if least = most then exactly part least
    else fun m => do
      let (fork, m) ← exactly part least m
      upTo part (most - least) fork (← m.add 1 0)

/-- One of several parts: a fork in front of them, and a state behind them. -/
def oneOf : List Assembly → Assembly
  | first :: second :: more => fun m => do
    let (fork, m) ← first m
    let (fork', m) ← second m
    let m ← (← (← m.add 2 (2 * forkRoom)).join fork).join fork'
    let m ← more.foldlM (fun m part => do
      let (fork, m) ← part m
      (← m.add 0 forkRoom).join fork) m
    return (false, m)
  | [part] => part
  | [] => states 1

end Assembly

namespace Expr

/-- The bytes of a text in the order in which a machine reads them. -/
def bytes (d : Direction) (text : List Char) : List Nat :=
  let bytes := text.flatMap fun c => utf8 c.toNat
  match d with
  | .forward => bytes
  | .backward => bytes.reverse

/-- The text of a literal. -/
def text? : Expr → Option (List Char)
  | literal text => some text
  | _ => none

mutual

/-- The part of a machine that an expression makes up. From right to left, groups leave no trace. -/
def assembly (d : Direction) : Expr → Assembly
  | empty | anchor _ => .states 1
  | literal text => .states (bytes d text).length
  | set s => .plain (Machine.addSet d s)
  | loop counts p => .repeated counts (p.shortest?.any (0 < ·)) (p.assembly d)
  | group _ p =>
    match d with
    | .forward => .chain [.states 1, p.assembly d, .states 1]
    | .backward => p.assembly d
  | sequence ps =>
    match d with
    | .forward => .chain (assemblies d ps)
    | .backward => .chain (assemblies d ps).reverse
  | choice ps =>
    match ps.mapM text? with
    | some texts => .plain (Machine.addTrie (texts.map (bytes d)))
    | none => .oneOf (assemblies d ps)

/-- The parts of a machine that the expressions of a list make up. -/
def assemblies (d : Direction) : List Expr → List Assembly
  | [] => []
  | p :: ps => p.assembly d :: assemblies d ps

end

/-- Whether a search in the given direction can start at one end of the text only. -/
def isBound (p : Expr) : Direction → Bool
  | .forward => p.opensAt .textStart
  | .backward => p.closesAt .textEnd

/-- The machine that searches for an expression. What it reads in front of a match takes a loop,
and from left to right it takes note of where a match starts and ends. -/
def machine? (p : Expr) (d : Direction) : Option Machine := do
  let m ← if p.isBound d then Machine.add {} 1 0 else Machine.add {} 3 (branchRoom + 2 * forkRoom)
  let whole : List Assembly :=
    match d with
    | .forward => [.states 1, p.assembly d, .states 2]
    | .backward => [p.assembly d, .states 1]
  let (_, m) ← Assembly.chain whole m
  return m

/-- The number of words from which on they are looked up in a dictionary. -/
def minWords : Nat := 3000

/-- Whether an expression is a choice between so many words that it needs no machine. -/
def isDictionary : Expr → Bool
  | choice ps => minWords ≤ ps.length && (ps.mapM text?).isSome
  | _ => false

/-- Whether the machines for both directions stay within their room, if they are needed. -/
def fits (p : Expr) : Bool :=
  p.isDictionary || ((p.machine? .forward).isSome && (p.machine? .backward).isSome)

end Expr

end HouseStyle.Pattern
