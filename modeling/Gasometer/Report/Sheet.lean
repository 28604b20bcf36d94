import Gasometer.Report.Grid
import Gasometer.Report.Row

/-!
# The report as a table

A section is shown as a grid with one row a step and, in the footer, the sums of the section.
Numbers have thousands separators; what is missing, infinite or no number is shown as a dash.
-/
namespace Gasometer.Report

def countText : Option Int → Except Fault String
  | none => .ok "-"
  | some n => Text.groupedInt? n

def measureText (places : Nat) : Option Binary64 → String
  | none => "-"
  | some x => if x.isFinite then x.grouped places else "-"

/-- The colour of a status: green for success, yellow for a revert or a skipped step, red for a
halt. -/
def statusColour (status : String) : String :=
  if status = "COMPLETED_SUCCESS" then "green"
  else if status = "COMPLETED_FAILED" ∨ status = skippedLabel then "yellow"
  else "red"

def columns : List Column :=
  [⟨"OP Name", "", .left⟩, ⟨"STATUS", "", .left⟩, ⟨"GAS", "", .right⟩, ⟨"TIME NS", "", .right⟩,
    ⟨"GAS per S", "", .right⟩, ⟨"OPs", "", .right⟩, ⟨"NS per OP", "", .right⟩,
    ⟨"REVERT Reason", "", .left⟩]

def footers (t : Tally) : Except Fault (List String) :=
  return ["CUMULATIVE", "", ← countText (some t.gas), ← countText (some t.nanos),
    measureText 0 (some (← t.throughput)), "", "", ""]

def cells (r : Row) : Except Fault (List String) :=
  return [r.operation, "[" ++ statusColour r.status ++ "]" ++ r.status ++ "[/]",
    ← countText r.gasUsed?, ← countText r.elapsedNanos?, measureText 0 r.gasPerSecond?,
    ← countText (some r.totalLoops), measureText 1 r.nanosPerLoop?, r.revertReason]

def grid (title : String) (rows : List Row) (sums? : Option Tally) : Except Fault Grid := do
  let feet ← match sums? with
    | some t => footers t
    | none => pure (columns.map (·.footer))
  let columns := columns.zipWith (fun c foot => { c with footer := foot }) feet
  return { title := title, columns := columns, rows := ← rows.mapM cells,
           showFooter := sums?.isSome }

/-- The lines of a section on a screen of this width, with its sums in the footer if they are
wanted. -/
def lines (width : Nat) (s : Section) (withSums : Bool) : Except Problem (List String) := do
  let rows ← rowsOf s
  let sheet ← grid s.title rows (if withSums then some s.cumulative else none)
  sheet.lines width

end Gasometer.Report
