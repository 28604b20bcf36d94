import Gasometer.Sweep

/-!
# Rows of a report

A row shows the outcome of one step: how it ended, what it used, and what that is for each second
and each execution. A skipped step shows that it was skipped, and nothing it used.
-/
namespace Gasometer.Report

structure Row where
  operation : String
  status : String
  gasUsed? : Option Int := none
  elapsedNanos? : Option Int := none
  gasPerSecond? : Option Binary64 := none
  totalLoops : Int
  nanosPerLoop? : Option Binary64 := none
  revertReason : String := ""
  deriving DecidableEq, Repr

def skippedLabel : String := "SKIPPED"

def Row.ofOutcome (o : Outcome) : Except Fault Row := do
  match o.result? with
  | none =>
    return { operation := o.step.displayName, status := skippedLabel, totalLoops := o.totalLoops }
  | some r =>
    return {
      operation := o.step.displayName
      status := r.statusLabel
      gasUsed? := some r.gasUsed
      elapsedNanos? := some r.elapsedNanos
      gasPerSecond? := ← o.gasPerSecond
      totalLoops := o.totalLoops
      nanosPerLoop? := ← o.nanosPerLoop
      revertReason := (r.givenReason?.map (·.toHex)).getD "" }

def rowsOf (s : Section) : Except Fault (List Row) := s.outcomes.mapM Row.ofOutcome

end Gasometer.Report
