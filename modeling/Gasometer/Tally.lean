import Gasometer.Binary64.Basic
import Gasometer.Execution.Result
import Gasometer.Host.Basic

/-!
# Tallies

A tally sums up the gas and the time of the executions of a section. Throughput is always the
quotient of the sums; without time it is infinite, and without gas and time it is no number.
-/
namespace Gasometer

def nanosPerSecond : Int := 1000000000

def gasPerSecond (gas nanos : Int) : Except Fault Binary64 :=
  if nanos = 0 then .ok (if gas = 0 then .nan else .infinite false)
  else Binary64.divide (gas * nanosPerSecond) nanos

structure Tally where
  gas : Int := 0
  nanos : Int := 0
  executions : Int := 0
  deriving DecidableEq, Repr, Inhabited

namespace Tally

def record (t : Tally) (r : ExecutionResult) : Tally :=
  ⟨t.gas + r.gasUsed, t.nanos + r.elapsedNanos, t.executions + 1⟩

def merge (t other : Tally) : Tally :=
  ⟨t.gas + other.gas, t.nanos + other.nanos, t.executions + other.executions⟩

def mergeRecord (other : Tally) : LogRecord :=
  ⟨.debug, .metrics, "Merged " ++ Text.decimal other.executions ++ " executions into aggregator"⟩

def throughput (t : Tally) : Except Fault Binary64 := gasPerSecond t.gas t.nanos

def describe (t : Tally) : String :=
  "MetricsAggregator(gas=" ++ Text.decimal t.gas ++ ", nanos=" ++ Text.decimal t.nanos ++
    ", executions=" ++ Text.decimal t.executions ++ ")"

end Tally
end Gasometer
