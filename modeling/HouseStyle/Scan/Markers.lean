import HouseStyle.Rule.Violation
import HouseStyle.Settings.Basic

/-!
# Markers of a file

A file can be required to hold a marker on its first line and another one on some line. Only the
patterns of required markers are looked at.
-/

namespace HouseStyle

/-- The patterns of the required markers. -/
structure Markers where
  /-- The pattern for the first line. -/
  header : Option Pattern
  /-- The pattern for some line. -/
  log : Option Pattern

/-- A watch for the log marker. -/
structure LogWatch where
  pattern : Option Pattern
  seen : Bool := false

namespace Markers

/-- The pattern of a marker, if the marker is required. -/
def required? (s : Settings) (m : Marker) : Except Error (Option Pattern) :=
  if s.requires m then return some (← s.pattern? m) else return none

/-- The markers that the settings require. -/
def ofSettings (s : Settings) : Except Error Markers := do
  let header ← required? s .header
  let log ← required? s .log
  return { header, log }

/-- The verdict on the first line of a file. -/
def checkHeader (m : Markers) (firstLine : String) : Option Violation :=
  match m.header with
  | some p => if p.search firstLine.toList then none else some (.onLine .headerMarker 1 firstLine)
  | none => none

/-- A watch that has seen no line yet. -/
def watch (m : Markers) : LogWatch := { pattern := m.log }

end Markers

namespace LogWatch

/-- Lets the watch see a line. -/
def observe (w : LogWatch) (text : String) : LogWatch :=
  { w with seen := w.seen || w.pattern.any (·.search text.toList) }

/-- The verdict after the last line. -/
def verdict (w : LogWatch) : Option Violation :=
  if w.pattern.isSome && !w.seen then some (.wholeFile .logMarker) else none

end LogWatch

end HouseStyle
