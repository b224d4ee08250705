import HouseStyle.Text.Lines

/-!
# Sets of characters

The character classes of the checker are sets of code points, and a set is kept as the list of
its ranges. `CodeSet.contains` is membership and `CodeSet.contains_eq_true_iff` says what it
means. `CodeSet.normalize` brings a set into its shortest form, ranges in order and apart from each
other, without changing its members (`contains_normalize`); the operations behind it take sets in
this form. The tables of a standard are written as text, in the notation of the standard's own
files (`41-5A 61-7A AA`), and `CodeSet.ofHex` reads it.
-/

namespace HouseStyle.Text

/-- A set of characters: ranges of code points, both ends included. -/
structure CodeSet where
  /-- The ranges, first and last code point of each. -/
  ranges : List (Nat × Nat)
  deriving DecidableEq

namespace CodeSet

/-- Whether a character lies in one of the ranges. -/
def contains (s : CodeSet) (c : Char) : Bool :=
  s.ranges.any fun r => r.1 ≤ c.toNat && c.toNat ≤ r.2

/-- Membership is membership in some range. -/
theorem contains_eq_true_iff {s : CodeSet} {c : Char} :
    s.contains c = true ↔ ∃ r ∈ s.ranges, r.1 ≤ c.toNat ∧ c.toNat ≤ r.2 := by
  simp [contains]

/-- The set of no characters. -/
def empty : CodeSet := ⟨[]⟩

/-- The set of the one character `c`. -/
def single (c : Char) : CodeSet := ⟨[(c.toNat, c.toNat)]⟩

/-- The set of the characters from `lo` to `hi`. -/
def range (lo hi : Char) : CodeSet := ⟨[(lo.toNat, hi.toNat)]⟩

/-- The characters of either set. -/
def union (s t : CodeSet) : CodeSet := ⟨s.ranges ++ t.ranges⟩

@[simp] theorem contains_empty (c : Char) : empty.contains c = false := rfl

@[simp] theorem contains_union (s t : CodeSet) (c : Char) :
    (s.union t).contains c = (s.contains c || t.contains c) := by
  simp [contains, union]

/-- A one-element set holds its element. -/
theorem contains_single_self (c : Char) : (single c).contains c = true := by
  simp [contains, single]

/-- Whether no range of one set meets a range of the other. -/
def disjoint (s t : CodeSet) : Bool :=
  s.ranges.all fun r => t.ranges.all fun q => r.2 < q.1 || q.2 < r.1

/-- A character of one of two disjoint sets is not in the other. -/
theorem contains_eq_false_of_disjoint {s t : CodeSet} {c : Char} (hst : s.disjoint t = true)
    (hs : s.contains c = true) : t.contains c = false := by
  rw [Bool.eq_false_iff]
  intro ht
  obtain ⟨r, hr, hr1, hr2⟩ := contains_eq_true_iff.1 hs
  obtain ⟨q, hq, hq1, hq2⟩ := contains_eq_true_iff.1 ht
  have := List.all_eq_true.1 (List.all_eq_true.1 hst r hr) q hq
  simp only [Bool.or_eq_true, decide_eq_true_eq] at this
  omega

/-! ## The shortest form -/

/-- Joins the range from `lo` to `hi` with the ranges that overlap or touch it, which follow in
order. -/
def joinFrom (lo hi : Nat) : List (Nat × Nat) → List (Nat × Nat)
  | [] => [(lo, hi)]
  | r :: rest =>
    if r.1 ≤ hi + 1 then joinFrom lo (max hi r.2) rest else (lo, hi) :: joinFrom r.1 r.2 rest

/-- The ranges in order, as few as possible. -/
def normalize (s : CodeSet) : CodeSet :=
  ⟨match s.ranges.mergeSort fun r q => r.1 ≤ q.1 with
    | [] => []
    | r :: rest => joinFrom r.1 r.2 rest⟩

theorem any_joinFrom (n lo hi : Nat) (rest : List (Nat × Nat)) (h : lo ≤ hi)
    (hrest : ∀ r ∈ rest, lo ≤ r.1 ∧ r.1 ≤ r.2) (hsorted : rest.Pairwise fun r q => r.1 ≤ q.1) :
    ((joinFrom lo hi rest).any fun r => r.1 ≤ n && n ≤ r.2)
      = ((lo ≤ n && n ≤ hi) || rest.any fun r => r.1 ≤ n && n ≤ r.2) := by
  induction rest generalizing lo hi with
  | nil => simp [joinFrom]
  | cons r rest ih =>
    obtain ⟨hr, hs⟩ := List.pairwise_cons.1 hsorted
    have hr1 := hrest r (by simp)
    rw [joinFrom]
    split
    · rw [ih lo (max hi r.2) (by omega) (fun q hq => hrest q (by simp [hq])) hs]
      simp only [List.any_cons, ← Bool.or_assoc]
      congr 1
      rw [Bool.eq_iff_iff]
      simp only [Bool.and_eq_true, Bool.or_eq_true, decide_eq_true_eq]
      omega
    · rw [List.any_cons, ih r.1 r.2 hr1.2 (fun q hq => ⟨hr q hq, (hrest q (by simp [hq])).2⟩) hs]
      simp

/-- Bringing a set into its shortest form keeps its members. -/
theorem contains_normalize {s : CodeSet} (hs : ∀ r ∈ s.ranges, r.1 ≤ r.2) (c : Char) :
    s.normalize.contains c = s.contains c := by
  have hperm := List.mergeSort_perm s.ranges fun r q => r.1 ≤ q.1
  have hsorted : (s.ranges.mergeSort fun r q => r.1 ≤ q.1).Pairwise fun r q => r.1 ≤ q.1 := by
    have := @List.pairwise_mergeSort (Nat × Nat) (fun r q => decide (r.1 ≤ q.1))
      (by simp only [decide_eq_true_eq]; omega)
      (by simp only [Bool.or_eq_true, decide_eq_true_eq]; omega) s.ranges
    simpa using this
  rw [contains, contains, ← hperm.any_eq, normalize]
  match hranges : s.ranges.mergeSort fun r q => r.1 ≤ q.1 with
  | [] => rfl
  | r :: rest =>
    rw [hranges] at hperm hsorted
    have hwf : ∀ q ∈ r :: rest, q.1 ≤ q.2 := fun q hq => hs q (hperm.mem_iff.1 hq)
    obtain ⟨hr, hsorted⟩ := List.pairwise_cons.1 hsorted
    have hrest : ∀ q ∈ rest, r.1 ≤ q.1 ∧ q.1 ≤ q.2 := fun q hq => ⟨hr q hq, hwf q (by simp [hq])⟩
    simpa using any_joinFrom c.toNat r.1 r.2 rest (hwf r (by simp)) hrest hsorted

/-! ## Sets in their shortest form -/

/-- The last code point. -/
def lastCode : Nat := 0x10FFFF

/-- The code of the next character; no character has a code from D800 to DFFF. -/
def codeAfter (n : Nat) : Nat := if n = 0xD7FF then 0xE000 else n + 1

/-- The code of the character before. -/
def codeBefore (n : Nat) : Nat := if n = 0xE000 then 0xD7FF else n - 1

/-- The ranges between those of a list and behind them, the first of which follows the code `hi`.
Where nothing lies between two ranges, one ending with the code D7FF and one starting with E000,
these two make up a range. -/
def gapsAfter (hi : Nat) : List (Nat × Nat) → List (Nat × Nat)
  | [] => if hi < lastCode then [(codeAfter hi, lastCode)] else []
  | r :: rest =>
    let lo := codeAfter hi
    let up := codeBefore r.1
    (min lo up, max lo up) :: gapsAfter r.2 rest

/-- The characters that are not in a set. -/
def complement (s : CodeSet) : CodeSet :=
  ⟨match s.ranges with
    | [] => [(0, lastCode)]
    | r :: rest => (if 0 < r.1 then [(0, codeBefore r.1)] else []) ++ gapsAfter r.2 rest⟩

/-- The overlaps of two lists of ranges. -/
def overlaps : List (Nat × Nat) → List (Nat × Nat) → List (Nat × Nat)
  | [], _ => []
  | _, [] => []
  | r :: rs, q :: qs =>
    let lo := max r.1 q.1
    let hi := min r.2 q.2
    let rest := if r.2 < q.2 then overlaps rs (q :: qs) else overlaps (r :: rs) qs
    if lo ≤ hi then (lo, hi) :: rest else rest
termination_by rs qs => rs.length + qs.length

/-- The common members of two sets. -/
def inter (s t : CodeSet) : CodeSet := ⟨overlaps s.ranges t.ranges⟩

/-- What is left of the range from `lo` to `hi` without some other ranges. -/
def cut (lo hi : Nat) : List (Nat × Nat) → List (Nat × Nat)
  | [] => [(lo, hi)]
  | q :: rest =>
    if q.2 < lo then cut lo hi rest
    else if hi < q.1 then [(lo, hi)]
    else
      (if lo < q.1 then [(lo, codeBefore q.1)] else [])
        ++ if q.2 < hi then cut (codeAfter q.2) hi rest else []

/-- The members of one set that are not in another. -/
def diff (s t : CodeSet) : CodeSet := ⟨s.ranges.flatMap fun r => cut r.1 r.2 t.ranges⟩

/-- The members of exactly one of two sets. -/
def symmDiff (s t : CodeSet) : CodeSet := (s.union t).normalize.diff (s.inter t)

/-- Whether all members are ASCII characters. -/
def isAscii (s : CodeSet) : Bool := s.ranges.all fun r => r.2 < 0x80

/-- The only member of a set, if there is exactly one. -/
def single? (s : CodeSet) : Option Char :=
  match s.ranges with
  | [(lo, hi)] => if lo = hi then some (Char.ofNat lo) else none
  | _ => none

/-! ## Tables in hexadecimal -/

/-- The value of a hexadecimal digit in capitals; other characters count as zero. -/
def hexValue (c : Char) : Nat :=
  if '0' ≤ c ∧ c ≤ '9' then c.toNat - '0'.toNat
  else if 'A' ≤ c ∧ c ≤ 'F' then c.toNat - 'A'.toNat + 10
  else 0

/-- The value of a hexadecimal number. -/
def hexNumber (digits : List Char) : Nat := digits.foldl (fun n c => 16 * n + hexValue c) 0

/-- The range that a word such as `41-5A` or `AA` stands for. -/
def hexRange (word : List Char) : Nat × Nat :=
  match split '-' word with
  | first :: last :: _ => (hexNumber first, hexNumber last)
  | _ => (hexNumber word, hexNumber word)

/-- Reads a table such as `41-5A 61-7A AA`, which may run over several lines. -/
def ofHex (table : String) : CodeSet :=
  ⟨((words table.toList).map hexRange)⟩

end CodeSet

end HouseStyle.Text
