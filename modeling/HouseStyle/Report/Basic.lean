import HouseStyle.Rule.Violation

/-!
# Reports

What a check found in each file, and how often each commandment was broken over all of them. The
tally lists the commandments in the order in which they were first broken.
-/

namespace HouseStyle

/-- What was found in a file. -/
structure FileReport where
  /-- The path of the file, as it was given. -/
  path : String
  lineCount : Nat
  /-- The violations, in the order in which they were found. -/
  violations : List Violation
  deriving DecidableEq, Repr

/-- Whether nothing was found. -/
def FileReport.isClean (r : FileReport) : Bool := r.violations.isEmpty

/-- The violations of all files. -/
def allViolations (reports : List FileReport) : List Violation :=
  reports.flatMap FileReport.violations

/-- Commandments, and how often each was broken. -/
abbrev Tally := List (Nat × Nat)

namespace Tally

/-- Counts one more violation of a commandment. -/
def add (commandment : Nat) : Tally → Tally
  | [] => [(commandment, 1)]
  | (c, n) :: rest => if c = commandment then (c, n + 1) :: rest else (c, n) :: add commandment rest

/-- The tally of some violations. -/
def ofViolations (vs : List Violation) : Tally :=
  vs.foldl (fun tally v => tally.add v.rule.commandment) []

/-- The number of all violations in a tally. -/
def total (tally : Tally) : Nat := tally.foldr (fun entry n => entry.2 + n) 0

/-- How often a commandment was broken. -/
def count (commandment : Nat) (tally : Tally) : Nat := (tally.lookup commandment).getD 0

@[simp] theorem total_add (c : Nat) (tally : Tally) : (tally.add c).total = tally.total + 1 := by
  induction tally with
  | nil => rfl
  | cons entry rest ih =>
    simp only [total] at ih
    simp only [add]
    split <;> simp [total, ih] <;> omega

/-- Every violation is counted once. -/
theorem total_ofViolations (vs : List Violation) : (ofViolations vs).total = vs.length := by
  have h : ∀ tally : Tally, (vs.foldl (fun tally v => tally.add v.rule.commandment) tally).total
      = tally.total + vs.length := by
    induction vs with
    | nil => simp
    | cons v vs ih => intro tally; simp [ih]; omega
  simpa [ofViolations, total] using h []

end Tally

/-- The tally of all files. -/
def tallyOf (reports : List FileReport) : Tally := .ofViolations (allViolations reports)

end HouseStyle
