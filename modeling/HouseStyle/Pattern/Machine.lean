import HouseStyle.Text.Utf8
import Std.Data.HashMap

/-!
# The room of a machine

A pattern is searched for by two machines that read the bytes of a text, one from left to right and
one from right to left. A `Machine` is one that is being put together; of its states only the
number and the room they take are kept. `Machine.addSet` adds the states that read one character of
a set and `Machine.addTrie` those that read one of several words. A machine that outgrows
`maxRoom` is given up.
-/

namespace HouseStyle.Pattern

open Text

/-- The way in which a machine reads. -/
inductive Direction where
  | forward
  | backward
  deriving DecidableEq

/-- The most room a machine may take, in bytes. -/
def maxRoom : Nat := 10 * 1024 * 1024

/-- The room of a state by itself. -/
def stateRoom : Nat := 32

/-- The room of a way out of a fork, a state that is left without reading a byte. -/
def forkRoom : Nat := 4

/-- The room of a way out of a state that is left by reading a byte, if it has several. -/
def branchRoom : Nat := 8

/-- A machine that is being put together. -/
structure Machine where
  /-- How many states there are; the next one gets this number. -/
  states : Nat := 0
  room : Nat := 0

namespace Machine

/-- Adds states, with some room for their ways out. -/
def add (m : Machine) (states ways : Nat) : Option Machine :=
  let room := m.room + stateRoom * states + ways
  if room ≤ maxRoom then some ⟨m.states + states, room⟩ else none

/-- Adds a way out to a state, which takes room only if the state is a fork. -/
def join (m : Machine) (fork : Bool) : Option Machine := m.add 0 (if fork then forkRoom else 0)

/-! ## States that are used again -/

/-- States to be used again where one of the same kind is needed. Every kind has its slot, and a
state gives way to the next one of its slot. -/
abbrev Memo := Std.HashMap Nat (List Nat × Nat)

/-- The slot of a kind of states among `slots` slots. -/
def slotOf (slots : Nat) (kind : List Nat) : Nat :=
  (kind.foldl (fun (h : UInt64) n => (h ^^^ n.toUInt64) * 0x100000001B3) 0xCBF29CE484222325).toNat
    % slots

/-- The number of a state of the given kind, a new one unless there is one in its slot. -/
def state (m : Machine) (memo : Memo) (slots : Nat) (kind : List Nat) (ways : Nat) :
    Option (Nat × Memo × Machine) := do
  let slot := slotOf slots kind
  match memo[slot]? with
  | some (known, number) =>
    if known = kind then return (number, memo, m)
  | none => pure ()
  return (m.states, memo.insert slot (kind, m.states), ← m.add 1 ways)

/-! ## Sets of characters -/

/-- How many kinds of states are kept in mind from left to right. -/
def forwardSlots : Nat := 10000

/-- How many kinds of states are kept in mind from right to left. -/
def backwardSlots : Nat := 1000

/-- The state from which the rows of byte ranges lead to the state `goal`. Rows that start alike
are neighbours, and their rests start from a state of their own. -/
def forwardRows (goal : Nat) :
    (bytes : Nat) → List (List ByteRange) → Memo × Machine → Option (Nat × Memo × Machine)
  | 0, _, known => some (goal, known)
  | bytes + 1, rows, known =>
    if rows.head? = some [] then some (goal, known)
    else do
      let groups := rows.splitBy fun u v => u.head? == v.head?
      let (ways, memo, m) ← groups.foldlM (fun (ways, known) group => do
        let (next, known) ← forwardRows goal bytes (group.map List.tail) known
        let (lo, hi) := (group.head?.bind List.head?).getD (0, 0)
        return (next :: hi :: lo :: ways, known)) ([], known)
      m.state memo forwardSlots ways.reverse (branchRoom * groups.length)

/-- The state from which a row of byte ranges is read backwards, up to the state `goal`. -/
def backwardRow (goal : Nat) (row : List ByteRange) (known : Memo × Machine) :
    Option (Nat × Memo × Machine) :=
  row.foldlM (fun (number, memo, m) (lo, hi) => m.state memo backwardSlots [number, lo, hi] 0)
    (goal, known)

/-- Adds states that read one character of a set. -/
def addSet (d : Direction) (s : CodeSet) (m : Machine) : Option Machine :=
  if s.isAscii then m.add 2 (branchRoom * s.ranges.length)
  else
    match d with
    | .forward => do
      let (_, _, grown) ← forwardRows m.states 4 s.byteRanges (∅, ← m.add 1 0)
      return grown
    | .backward => do
      let goal := m.states + 1
      let (_, grown) ← s.byteRanges.foldlM (fun known row => do
        let (_, memo, m) ← backwardRow goal row known
        return (memo, ← m.join true)) ((∅ : Memo), ← m.add 2 0)
      return grown

/-! ## Words -/

/-- Cuts a list of words behind each empty one. -/
def stretches (words : List (List Nat)) : List (List (List Nat)) :=
  words.foldr (fun word cut =>
    match word, cut with
    | [], cut => [] :: cut
    | word, first :: more => (word :: first) :: more
    | word, [] => [[word]]) [[]]

/-- The words of a list by their first letters. -/
def byLetter (words : List (List Nat)) : List (List (List Nat)) :=
  (words.mergeSort fun u v => u.headD 0 ≤ v.headD 0).splitBy fun u v => u.headD 0 == v.headD 0

/-- Adds the states from which the rests of words are read; none if nothing is left of them. Words
in front of an empty one and words behind it do not share states, and an empty word at the start
counts once. -/
def addRests : (fuel : Nat) → List (List Nat) → Machine → Option Machine
  | 0, _, m => some m
  | fuel + 1, words, m => do
    let later := words.dropWhile List.isEmpty
    if later.isEmpty then some m
    else
      let letters := ((stretches later).filter (!·.isEmpty)).map byLetter
      let ends := later.countP List.isEmpty + if words.length = later.length then 0 else 1
      let m ← letters.foldlM (fun m groups => do
        let m ← groups.foldlM (fun m group => addRests fuel (group.map List.tail) m) m
        m.add 1 (if groups.length < 2 then 0 else branchRoom * groups.length)) m
      m.add 1 (forkRoom * (letters.length + ends))

/-- Adds states that read one of several words, given as their bytes. -/
def addTrie (words : List (List Nat)) (m : Machine) : Option Machine := do
  let longest := words.foldl (fun n word => max n word.length) 0
  addRests (longest + 1) words (← m.add 1 0)

end Machine

end HouseStyle.Pattern
