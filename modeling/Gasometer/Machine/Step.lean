import Gasometer.Machine.Call

/-!
# Running the code of a frame

One step fetches an operation, checks the number of stack items and the gas, pays the static price
and executes the operation. The code runs until it is left, until it opens another frame, or until
a fault. Past the last byte the code is left without output.

A run is observed: an observer folds the events of a run into a value of its own and has no
influence on it.
-/
namespace Gasometer

-- Powers are those of the core library, also where Mathlib offers its own.
attribute [local instance (high)] instPowNat

inductive Event
  /-- A frame is about to start. -/
  | enter (frame : Frame)
  /-- An operation was executed; the frame stands after it. -/
  | operation (frame : Frame) (byte : UInt8) (cost : Int)
  /-- A frame has come to its end; the frame beneath it does not know yet. -/
  | exit (frame : Frame)
  /-- The uppermost frame was processed, and `open_` frames are left. -/
  | processed (frame : Frame) (open_ : Nat)

abbrev Observer (σ : Type) := Event → σ → σ

def Observer.blind : Observer Unit := fun _ _ => ()

namespace Exec

def maxItems : Nat := 1024

/-- Executes an operation whose static price is paid; gives the frame that it opens. -/
def execute : Opcode → Exec (Option Frame)
  | .call kind => call kind
  | .create => create false
  | .create2 => create true
  | .stop => do leave .returned #[]; return none
  | .unary op => do push (unary op (← pop)); return none
  | .binary op => do
    let a ← pop
    let b ← pop
    push (← attempt (binary op a b))
    return none
  | .ternary op => do
    let a ← pop
    let b ← pop
    let n ← pop
    push (ternary op a b n)
    return none
  | .exp => do exp; return none
  | .keccak256 => do keccak256; return none
  | .query q => do push (← query q); return none
  | .calldataload => do calldataload; return none
  | .accountQuery q => do accountQuery q; return none
  | .copy source => do copy source; return none
  | .extcodecopy => do extcodecopy; return none
  | .blockhash => do blockhash; return none
  | .pop => do let _ ← pop; return none
  | .mload => do mload; return none
  | .mstore => do mstore; return none
  | .mstore8 => do mstore8; return none
  | .sload => do sload; return none
  | .sstore => do sstore; return none
  | .jump => do jump; return none
  | .jumpi => do jumpi; return none
  | .jumpdest => return none
  | .push n => do pushData (n.val + 1); return none
  | .dup n => do dup n.val; return none
  | .swap n => do swap (n.val + 1); return none
  | .log topics => do log topics.val; return none
  | .ret => do leaveWithMemory .returned; return none
  | .revert => do leaveWithMemory .reverted; return none
  | .invalid => halt .invalidOperation
  | .selfdestruct => do selfdestruct; return none

/-- Checks the number of stack items and pays the static price. -/
def begin_ (info : OpcodeInfo) : Exec Unit := do
  let size ← view (·.stack.size)
  haltIf (size < info.inputs) .insufficientStackItems
  haltIf (size + info.outputs > maxItems + info.inputs) .tooManyStackItems
  haltIf ((← view Frame.gas) < info.gas) .insufficientGas
  update fun f => { f with gas := f.gas - info.gas, pc := f.pc + 1 }

def step (byte : UInt8) : Exec (Option Frame) := do
  match Opcode.ofByte? byte with
  | none => halt .invalidOperation
  | some op =>
    match op.info? with
    | none => halt .invalidOperation
    | some info =>
      begin_ info
      execute op

end Exec

inductive Ending
  /-- The code was left. -/
  | left
  /-- The code opened this frame and waits. -/
  | opened (child : Frame)
  /-- A fault was met. -/
  | faulted (fault : Fault)

/-- The state after a run of the code, with what the observer has gathered. -/
structure Run (σ : Type) where
  activity : Activity
  seen : σ
  ending : Ending

namespace Activity

def mapFrame (a : Activity) (f : Frame → Frame) : Activity := { a with frame := f a.frame }

/-- Runs the code of the frame for at most `fuel` steps. -/
def runFor {σ : Type} (see : Observer σ) : Nat → Activity → σ → Run σ
  | 0, a, seen => ⟨a, seen, .faulted .cutOff⟩
  | fuel + 1, a, seen =>
    match a.frame.context.code.bytes[a.frame.pc]? with
    | none => ⟨a.mapFrame fun f => { f with output := #[], status := .returned }, seen, .left⟩
    | some byte =>
      let gas := a.frame.gas
      match Exec.step byte a with
      | .error (.halt reason) a => ⟨a.mapFrame (·.halt reason), seen, .left⟩
      | .error (.fault fault) a => ⟨a, seen, .faulted fault⟩
      | .ok child a =>
        let seen := see (.operation a.frame byte (gas - a.frame.gas)) seen
        match child with
        | some child => ⟨a.mapFrame fun f => { f with status := .suspended }, seen, .opened child⟩
        | none => if a.frame.status = .executing then runFor see fuel a seen else ⟨a, seen, .left⟩

/-- Steps that every run is granted besides those that it pays for. A step of a well-formed frame
is never free; a frame with numbers outside the range of words may gain gas. -/
def allowance : Nat := 2 ^ (60 : Nat)

def run {σ : Type} (see : Observer σ) (a : Activity) (seen : σ) : Run σ :=
  runFor see (a.frame.gas.toNat + allowance) a seen

end Activity
end Gasometer
