import HouseStyle.Pattern.Regex

/-!
# Expressions as they are written

An `Expr` is a pattern with its repetitions, its groups and its literal texts still in place. The
functions `ofSet`, `concat`, `alternation` and `repeated` build expressions in a simple form: texts
that meet become one text, sequences and choices do not hold others of their kind, a choice between
characters is a set, and branches that start alike share what they start with. `Expr.regex` is the
regular expression that an expression stands for.
-/

namespace HouseStyle.Pattern

open Text

/-- How often something is repeated. -/
structure Counts where
  least : Nat
  /-- At most so often; `none` if there is no limit. -/
  most : Option Nat
  /-- Whether fewer repetitions are preferred. -/
  lazy : Bool
  deriving DecidableEq

/-- An expression as it is written. -/
inductive Expr where
  | empty
  /-- A text of at least one character. -/
  | literal (text : List Char)
  /-- One character of a set; nothing at all if the set is empty. -/
  | set (s : CodeSet)
  | anchor (a : Anchor)
  /-- Texts of the body, one after the other. -/
  | loop (counts : Counts) (body : Expr)
  /-- A group with the number it has in the pattern. -/
  | group (number : Nat) (body : Expr)
  | sequence (parts : List Expr)
  | choice (branches : List Expr)

namespace Expr

mutual

/-- Whether two expressions are the same. -/
def same : Expr → Expr → Bool
  | empty, empty => true
  | literal s, literal t => s == t
  | set s, set t => s == t
  | anchor a, anchor b => a == b
  | loop m p, loop n q => m == n && p.same q
  | group m p, group n q => m == n && p.same q
  | sequence ps, sequence qs => sameAll ps qs
  | choice ps, choice qs => sameAll ps qs
  | _, _ => false

/-- Whether two lists hold the same expressions. -/
def sameAll : List Expr → List Expr → Bool
  | [], [] => true
  | p :: ps, q :: qs => p.same q && sameAll ps qs
  | _, _ => false

end

mutual

/-- Whether the expression matches the empty text and is known to match no other. -/
def isVoid : Expr → Bool
  | empty | anchor _ => true
  | literal _ | set _ => false
  | loop _ p | group _ p => p.isVoid
  | sequence ps | choice ps => allVoid ps

/-- Whether all expressions of a list match the empty text alone. -/
def allVoid : List Expr → Bool
  | [] => true
  | p :: ps => p.isVoid && allVoid ps

end

mutual

/-- The length of the shortest match; `none` if some part cannot match at all. -/
def shortest? : Expr → Option Nat
  | empty | anchor _ => some 0
  | literal text => some text.length
  | set s => if s.ranges.isEmpty then none else some 1
  | loop counts p => p.shortest?.map (counts.least * ·)
  | group _ p => p.shortest?
  | sequence ps => shortestSum? ps
  | choice ps => shortestOf? ps

/-- The length of the shortest match of a sequence. -/
def shortestSum? : List Expr → Option Nat
  | [] => some 0
  | p :: ps => do return (← p.shortest?) + (← shortestSum? ps)

/-- The length of the shortest match of a choice. -/
def shortestOf? : List Expr → Option Nat
  | [] => none
  | [p] => p.shortest?
  | p :: ps => do return min (← p.shortest?) (← shortestOf? ps)

end

mutual

/-- Whether every match starts at the anchor. -/
def opensAt (a : Anchor) : Expr → Bool
  | empty | literal _ | set _ => false
  | anchor b => a == b
  | loop counts p => counts.least != 0 && p.opensAt a
  | group _ p => p.opensAt a
  | sequence ps => someOpensAt a ps
  | choice ps => allOpenAt a ps

/-- Whether every match of a sequence starts at the anchor. -/
def someOpensAt (a : Anchor) : List Expr → Bool
  | [] => false
  | p :: ps => p.opensAt a || (p.isVoid && someOpensAt a ps)

/-- Whether every match of a choice starts at the anchor. -/
def allOpenAt (a : Anchor) : List Expr → Bool
  | [] => true
  | p :: ps => p.opensAt a && allOpenAt a ps

end

mutual

/-- Whether every match ends at the anchor. -/
def closesAt (a : Anchor) : Expr → Bool
  | empty | literal _ | set _ => false
  | anchor b => a == b
  | loop counts p => counts.least != 0 && p.closesAt a
  | group _ p => p.closesAt a
  | sequence ps => someClosesAt a ps
  | choice ps => allCloseAt a ps

/-- Whether every match of a sequence ends at the anchor. -/
def someClosesAt (a : Anchor) : List Expr → Bool
  | [] => false
  | p :: ps => someClosesAt a ps || (allVoid ps && p.closesAt a)

/-- Whether every match of a choice ends at the anchor. -/
def allCloseAt (a : Anchor) : List Expr → Bool
  | [] => true
  | p :: ps => p.closesAt a && allCloseAt a ps

end

mutual

/-- The number of parts within an expression, itself included. -/
def size : Expr → Nat
  | empty | literal _ | set _ | anchor _ => 1
  | loop _ p | group _ p => p.size + 1
  | sequence ps | choice ps => sizeAll ps + 1

/-- The number of parts within the expressions of a list. -/
def sizeAll : List Expr → Nat
  | [] => 0
  | p :: ps => p.size + sizeAll ps

end

/-! ## Building expressions -/

/-- One character of a set. -/
def ofSet (s : CodeSet) : Expr :=
  match s.single? with
  | some c => literal [c]
  | none => set s

/-- Puts a part in front of others; two texts that meet become one. -/
def consPart : Expr → List Expr → List Expr
  | literal s, literal t :: rest => literal (s ++ t) :: rest
  | p, rest => p :: rest

/-- The parts of an expression within a sequence. -/
def toParts : Expr → List Expr
  | empty => []
  | sequence ps => ps
  | p => [p]

/-- The expressions of a list, one after the other. -/
def concat (ps : List Expr) : Expr :=
  match (ps.flatMap toParts).foldr consPart [] with
  | [] => empty
  | [p] => p
  | parts => sequence parts

/-- The branches of an expression within a choice. -/
def toBranches : Expr → List Expr
  | choice ps => ps
  | p => [p]

/-- The only character of a text. -/
def char? : Expr → Option CodeSet
  | literal [c] => some (.single c)
  | _ => none

/-- The characters of a set. -/
def set? : Expr → Option CodeSet
  | set s => some s
  | _ => none

/-- The parts of a sequence. -/
def parts? : Expr → Option (List Expr)
  | sequence ps => some ps
  | _ => none

/-- What two lists of expressions start with in common. -/
def sharedStart : List Expr → List Expr → List Expr
  | p :: ps, q :: qs => if p.same q then p :: sharedStart ps qs else []
  | _, _ => []

/-- The parts that all branches start with, and the rest of each branch. -/
def split? (branches : List Expr) : Option (List Expr × List (List Expr)) :=
  match branches.mapM parts? with
  | none | some [] => none
  | some (first :: more) =>
    let start := more.foldl sharedStart first
    if start.isEmpty then none
    else some (start, (first :: more).map (·.drop start.length))

/-- One of the expressions of a list; `fuel` bounds how often the branches are split. -/
def alternationFrom : Nat → List Expr → Expr
  | 0, ps => choice ps
  | fuel + 1, ps =>
    match ps.flatMap toBranches with
    | [] => set .empty
    | [p] => p
    | branches =>
      match (branches.mapM char?).or (branches.mapM set?) with
      | some sets => ofSet (sets.foldl CodeSet.union .empty).normalize
      | none =>
        match split? branches with
        | none => choice branches
        | some (start, rests) => concat (start ++ [alternationFrom fuel (rests.map concat)])

/-- One of the expressions of a list. -/
def alternation (ps : List Expr) : Expr := alternationFrom (sizeAll ps + 1) ps

/-- An expression repeated. If it matches the empty text alone, one repetition is as good as
many. -/
def repeated (counts : Counts) (p : Expr) : Expr :=
  let counts :=
    if p.isVoid then
      { counts with least := min counts.least 1, most := some (min (counts.most.getD 1) 1) }
    else counts
  if counts.most = some 0 then empty
  else if counts.least = 1 ∧ counts.most = some 1 then p
  else loop counts p

/-! ## What an expression stands for -/

/-- A text, character by character. -/
def textRegex (text : List Char) : Pattern := .sequence (text.map fun c => .one (.single c))

mutual

/-- The regular expression that an expression stands for. -/
def regex : Expr → Pattern
  | empty => .empty
  | literal text => textRegex text
  | set s => .one (.of s)
  | anchor a => .anchor a
  | loop counts p => .counted p.regex counts.least counts.most
  | group _ p => p.regex
  | sequence ps => .sequence (regexes ps)
  | choice ps => .choice (regexes ps)

/-- The regular expressions that the expressions of a list stand for. -/
def regexes : List Expr → List Pattern
  | [] => []
  | p :: ps => p.regex :: regexes ps

end

end Expr

end HouseStyle.Pattern
