import HouseStyle.Report.Basic
import HouseStyle.Report.Style

/-!
# The report for people

Every violation is a block of a few lines, and a line of equals signs stands between two blocks.
The files are named if there are several, clean files are listed if wanted, and a summary ends the
report.
-/

namespace HouseStyle.TextReport

/-- A line of a report. -/
def line (text : String) : String := text ++ "\n"

/-- The line between two violations. -/
def separator : String := String.ofList (List.replicate 72 '=')

/-- The block for a violation. -/
def block (colours : Bool) (v : Violation) : String :=
  let heading := Style.red.paint colours ("COMMANDMENT " ++ toString v.rule.commandment)
  let method := if v.rule = .methodLength then v.method else none
  let text := if v.rule.quotesLine then v.text else none
  line (heading ++ " : " ++ v.description)
    ++ (method.elim "" fun name => line ("In method '" ++ name ++ "'"))
    ++ (v.line.elim "" fun n => line ("At line " ++ toString n))
    ++ (text.elim "" fun t => line ("· " ++ t))
    ++ line (Style.yellow.paint colours "You will be punished.")

/-- The blocks of a file, with separators between them. -/
def blocks (colours : Bool) : List Violation → String
  | [] => ""
  | [v] => block colours v
  | v :: vs => block colours v ++ line separator ++ blocks colours vs

/-- A word with an `s` behind it unless there is exactly one thing. -/
def plural (n : Nat) (word : String) : String := if n = 1 then word else word ++ "s"

/-- The counts of a summary. -/
def breakdown (tally : Tally) : String :=
  ", ".intercalate <| tally.map fun (commandment, count) =>
    "commandment " ++ toString commandment ++ ": " ++ toString count

/-- The last line of a report. -/
def summary (colours : Bool) (reports : List FileReport) : String :=
  let files := reports.length
  let tally := tallyOf reports
  let checked := "Summary: " ++ toString files ++ " " ++ plural files "file" ++ " checked, "
  if tally.total = 0 then checked ++ "no violations"
  else
    checked ++ Style.red.paint colours (toString tally.total) ++ " "
      ++ plural tally.total "violation" ++ " (" ++ breakdown tally ++ ")"

/-- The part of a report on some files. The first flag tells whether the files are named, the last
one whether violations have been reported before. -/
def body (colours named : Bool) (verbosity : Nat) (later : Bool) : List FileReport → String
  | [] => if later then line "" else ""
  | r :: rest =>
    if r.isClean then
      (if 1 ≤ verbosity then line ("✓ " ++ r.path ++ ": no violations") else "")
        ++ body colours named verbosity later rest
    else
      (if later then line separator else "")
        ++ (if named then line ("==> " ++ r.path ++ " <==") else "")
        ++ blocks colours r.violations
        ++ body colours named verbosity true rest

/-- The whole report. -/
def render (colours : Bool) (verbosity : Nat) (reports : List FileReport) : String :=
  body colours (1 < reports.length) verbosity false reports ++ line (summary colours reports)

end HouseStyle.TextReport
