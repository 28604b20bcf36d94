import Gasometer.Json.Basic
import Gasometer.Report.Row

/-!
# The report as JSON

Sections become an array of objects, each with its rows and its sums. A number that is not finite
becomes `null`.
-/
namespace Gasometer.Report

def orNull {α : Type} (f : α → Json) : Option α → Json
  | none => .null
  | some x => f x

def measureJson (x : Binary64) : Json := if x.isFinite then .number x else .null

def Row.json (r : Row) : Json :=
  .object [
    ("operation", .text r.operation),
    ("status", .text r.status),
    ("gas_used", orNull .int r.gasUsed?),
    ("elapsed_nanos", orNull .int r.elapsedNanos?),
    ("gas_per_second", orNull measureJson r.gasPerSecond?),
    ("total_loops", .int r.totalLoops),
    ("nanos_per_loop", orNull measureJson r.nanosPerLoop?),
    ("revert_reason_hex", .text r.revertReason)]

def tallyJson (t : Tally) : Except Fault Json :=
  return .object [
    ("gas", .int t.gas),
    ("nanos", .int t.nanos),
    ("executions", .int t.executions),
    ("gas_per_second", measureJson (← t.throughput))]

def sectionJson (s : Section) : Except Fault Json :=
  return .object [
    ("section", .text s.title),
    ("rows", .array ((← rowsOf s).map Row.json)),
    ("cumulative", ← tallyJson s.cumulative)]

def document (indent : Option Nat) (sections : List Section) : Except Fault String :=
  return (Json.array (← sections.mapM sectionJson)).render indent

end Gasometer.Report
