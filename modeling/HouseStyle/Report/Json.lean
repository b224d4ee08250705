import HouseStyle.Json.Basic
import HouseStyle.Report.Basic

/-!
# The report for programs

The same report as a JSON document: a summary, and for each file its path, its number of lines and
its violations. What a violation does not have is null.
-/

namespace HouseStyle.JsonReport

/-- A number, or null. -/
def number? (n : Option Nat) : Json := n.elim .null .number

/-- A string, or null. -/
def string? (s : Option String) : Json := s.elim .null .string

/-- The entry of a violation. -/
def ofViolation (v : Violation) : Json :=
  .object [
    ("code", .number v.rule.code),
    ("commandment", .number v.rule.commandment),
    ("rule", .string v.rule.name),
    ("description", .string v.description),
    ("line", number? v.line),
    ("line_text", string? v.text),
    ("method", string? v.method),
    ("measured", number? (v.measurement.map Measurement.actual)),
    ("limit", number? (v.measurement.map Measurement.limit))]

/-- The entry of a file. -/
def ofFile (r : FileReport) : Json :=
  .object [
    ("path", .string r.path),
    ("lines", .number r.lineCount),
    ("violations", .array (r.violations.map ofViolation))]

/-- The entry of a commandment. -/
def ofCount (entry : Nat × Nat) : Json :=
  .object [("commandment", .number entry.1), ("count", .number entry.2)]

/-- The document for all files. -/
def document (reports : List FileReport) : Json :=
  let tally := tallyOf reports
  .object [
    ("summary", .object [
      ("files", .number reports.length),
      ("violations", .number tally.total),
      ("by_commandment", .array (tally.map ofCount))]),
    ("files", .array (reports.map ofFile))]

/-- The whole report. -/
def render (reports : List FileReport) : String := (document reports).render

end HouseStyle.JsonReport
