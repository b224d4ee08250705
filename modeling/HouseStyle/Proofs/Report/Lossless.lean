import HouseStyle.Proofs.Json.Written
import HouseStyle.Proofs.Report.Tally
import HouseStyle.Report.Json

/-!
# The report for programs loses nothing

A reader of JSON finds in the report exactly what was found in the files: the summary, and for each
file its path, its number of lines and its violations with all their nine fields
(`render_lossless`). The fields of a violation tell which violation it is
(`valueOfViolation_injective`), so two different lists of reports are never written alike.
-/

namespace HouseStyle.JsonReport

open Json

/-! ## What a reader finds -/

/-- A number, or null. -/
def numberOrNull : Option Nat → Value
  | none => .null
  | some n => .number n

/-- A string, or null. -/
def stringOrNull : Option String → Value
  | none => .null
  | some s => .string s

/-- The nine fields of a violation. -/
def valueOfViolation (v : Violation) : Value :=
  .object [
    ("code", .number v.rule.code),
    ("commandment", .number v.rule.commandment),
    ("rule", .string v.rule.name),
    ("description", .string v.description),
    ("line", numberOrNull v.line),
    ("line_text", stringOrNull v.text),
    ("method", stringOrNull v.method),
    ("measured", numberOrNull (v.measurement.map fun m => m.actual)),
    ("limit", numberOrNull (v.measurement.map fun m => m.limit))]

/-- The entry of a file. -/
def valueOfFile (r : FileReport) : Value :=
  .object [
    ("path", .string r.path),
    ("lines", .number r.lineCount),
    ("violations", .array (r.violations.map valueOfViolation))]

/-- The entry of a commandment, with the number of its violations among all of them. -/
def valueOfCommandment (vs : List Violation) (c : Nat) : Value :=
  .object [("commandment", .number c), ("count", .number ((commandmentsOf vs).count c))]

/-- The whole report: the summary counts the files and the violations, and lists each commandment
that was broken once; then come the files, in order. -/
def valueOf (reports : List FileReport) : Value :=
  let vs := allViolations reports
  .object [
    ("summary", .object [
      ("files", .number reports.length),
      ("violations", .number vs.length),
      ("by_commandment",
        .array ((commandmentsOf vs).eraseDups.map (valueOfCommandment vs)))]),
    ("files", .array (reports.map valueOfFile))]

/-! ## The document stands for it -/

theorem toValue_number? (n : Option Nat) : (number? n).toValue = numberOrNull n := by
  cases n <;> rfl

theorem toValue_string? (s : Option String) : (string? s).toValue = stringOrNull s := by
  cases s <;> rfl

theorem toValues_map {α : Type} (f : α → Json) :
    ∀ l : List α, toValues (l.map f) = l.map fun a => (f a).toValue
  | [] => rfl
  | a :: l => by simp [toValues, toValues_map f l]

theorem toValue_ofViolation (v : Violation) : (ofViolation v).toValue = valueOfViolation v := by
  simp [ofViolation, valueOfViolation, toValue, toFields, toValue_number?, toValue_string?]

theorem toValue_ofFile (r : FileReport) : (ofFile r).toValue = valueOfFile r := by
  simp [ofFile, valueOfFile, toValue, toFields, toValues_map, toValue_ofViolation]

theorem toValue_document (reports : List FileReport) :
    (document reports).toValue = valueOf reports := by
  have hcounts : toValues ((tallyOf reports).map ofCount)
      = (commandmentsOf (allViolations reports)).eraseDups.map
        (valueOfCommandment (allViolations reports)) := by
    rw [tallyOf, Tally.ofViolations_eq, List.map_map, toValues_map]
    rfl
  have htotal : (tallyOf reports).total = (allViolations reports).length :=
    Tally.total_ofViolations _
  have hfiles : toValues (reports.map ofFile) = reports.map valueOfFile := by
    rw [toValues_map]
    exact List.map_congr_left fun r _ => toValue_ofFile r
  simp only [document, valueOf, toValue, toFields, hcounts, htotal, hfiles]

/-! ## It tells the reports apart -/

theorem numberOrNull_injective : Function.Injective numberOrNull
  | none, none, _ => rfl
  | some n, some m, h => by simpa [numberOrNull] using h

theorem stringOrNull_injective : Function.Injective stringOrNull
  | none, none, _ => rfl
  | some s, some t, h => by simpa [stringOrNull] using h

/-- A measurement is known by its two numbers. -/
theorem measurement_ext {m m' : Option Measurement}
    (ha : m.map (fun m => m.actual) = m'.map fun m => m.actual)
    (hl : m.map (fun m => m.limit) = m'.map fun m => m.limit) : m = m' := by
  cases m with
  | none => simpa [eq_comm] using ha
  | some m =>
    cases m' with
    | none => simp at ha
    | some m' =>
      obtain ⟨actual, limit⟩ := m
      obtain ⟨actual', limit'⟩ := m'
      obtain rfl : actual = actual' := by simpa using ha
      obtain rfl : limit = limit' := by simpa using hl
      rfl

theorem valueOfViolation_injective : Function.Injective valueOfViolation := by
  rintro ⟨rule, line, text, method, measurement⟩ ⟨rule', line', text', method', measurement'⟩ h
  simp only [valueOfViolation, Value.object.injEq, List.cons.injEq, Prod.mk.injEq, true_and,
    and_true, Value.number.injEq, Nat.cast_inj] at h
  obtain ⟨hcode, -, -, -, hline, htext, hmethod, hactual, hlimit⟩ := h
  obtain rfl := Rule.code_injective hcode
  obtain rfl := numberOrNull_injective hline
  obtain rfl := stringOrNull_injective htext
  obtain rfl := stringOrNull_injective hmethod
  obtain rfl := measurement_ext (numberOrNull_injective hactual) (numberOrNull_injective hlimit)
  rfl

theorem valueOfFile_injective : Function.Injective valueOfFile := by
  rintro ⟨path, lineCount, violations⟩ ⟨path', lineCount', violations'⟩ h
  simp only [valueOfFile, Value.object.injEq, List.cons.injEq, Prod.mk.injEq, true_and, and_true,
    Value.number.injEq, Value.string.injEq, Value.array.injEq, Nat.cast_inj] at h
  obtain ⟨rfl, rfl, hviolations⟩ := h
  obtain rfl := valueOfViolation_injective.list_map hviolations
  rfl

theorem valueOf_injective : Function.Injective valueOf := by
  intro reports reports' h
  simp only [valueOf, Value.object.injEq, List.cons.injEq, Prod.mk.injEq, true_and, and_true,
    Value.array.injEq] at h
  exact valueOfFile_injective.list_map h.2

/-- The report is one document. A reader finds in it the summary and the files with their
violations, and nothing else; and no two lists of reports are written alike. -/
theorem render_lossless :
    (∀ (reports : List FileReport) (v : Value),
      Document (render reports).toList v ↔ v = valueOf reports)
    ∧ Function.Injective render := by
  have hread (reports : List FileReport) (v : Value) :
      Document (render reports).toList v ↔ v = valueOf reports := by
    rw [render, document_render_iff, toValue_document]
  refine ⟨hread, fun reports reports' h => valueOf_injective ?_⟩
  have hmine := (hread reports (valueOf reports)).mpr rfl
  rw [h] at hmine
  exact (hread reports' (valueOf reports)).mp hmine

end HouseStyle.JsonReport
