import Gasometer.Machine.Basic

/-!
# Results of executions

How a measured program ended, what it used, and what it left. A revert and a halt are results like
any other.
-/
namespace Gasometer

inductive ExecutionStatus
  | normal | reverted | exceptionalHalt
  deriving DecidableEq, Repr, Inhabited

def ExecutionStatus.name : ExecutionStatus → String
  | normal => "normal"
  | reverted => "reverted"
  | exceptionalHalt => "exceptional_halt"

structure ExecutionResult where
  status : ExecutionStatus
  gasUsed : Int := 0
  elapsedNanos : Int := 0
  haltReason? : Option HaltReason := none
  revertReason? : Option Bytes := none
  output : Bytes := #[]
  deriving DecidableEq, Inhabited

namespace ExecutionResult

def success (r : ExecutionResult) : Bool := r.status == .normal

/-- The name of the reason of a halt, else the name of the last status of the frame. -/
def statusLabel (r : ExecutionResult) : String :=
  match r.status, r.haltReason? with
  | .exceptionalHalt, some reason => reason.name
  | .exceptionalHalt, none => "EXCEPTIONAL_HALT"
  | .normal, _ => "COMPLETED_SUCCESS"
  | .reverted, _ => "COMPLETED_FAILED"

def givenReason? (r : ExecutionResult) : Option Bytes := r.revertReason?.filter (! ·.isEmpty)

def revertReasonHex (r : ExecutionResult) : String :=
  match r.givenReason? with
  | some reason => "0x" ++ reason.toHex
  | none => ""

end ExecutionResult

/-- What the last round of a machine says about the execution that began with this much gas. -/
def Round.result {σ : Type} (round : Round σ) (initialGas elapsed : Int) : ExecutionResult :=
  match round.fault with
  | some _ =>
    { status := .exceptionalHalt
      gasUsed := initialGas
      elapsedNanos := elapsed
      haltReason? := some .internalError }
  | none =>
    { status := match round.frame.haltReason?, round.frame.status with
        | some _, _ => .exceptionalHalt
        | none, .succeeded => .normal
        | none, _ => .reverted
      gasUsed := initialGas - round.frame.gas
      elapsedNanos := elapsed
      haltReason? := round.frame.haltReason?
      revertReason? := round.frame.revertReason?
      output := round.frame.output }

end Gasometer
