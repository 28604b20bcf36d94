import Gasometer.AccessList
import Gasometer.Gas
import Gasometer.Machine.Frame
import Gasometer.Word
import Gasometer.World.Basic

/-!
# A frame at work

An operation changes its frame, the uppermost layer of the world and the access list, and nothing
else. `Exec` is the type of such changes: they may stop the frame with a reason, or meet a value
that they cannot handle. Either way the changes made so far stay.

All operations are composed of the primitives of this module.
-/
namespace Gasometer

structure Activity where
  frame : Frame
  world : World
  access : AccessList
  deriving Inhabited

inductive Stop
  | halt (reason : HaltReason)
  | fault (fault : Fault)
  deriving DecidableEq, Repr, Inhabited

/-- A change of a frame at work. -/
abbrev Exec := EStateM Stop Activity

namespace Exec

def halt {α : Type} (reason : HaltReason) : Exec α := throw (.halt reason)

def haltIf (condition : Prop) [Decidable condition] (reason : HaltReason) : Exec Unit :=
  if condition then halt reason else pure ()

def attempt {α : Type} (result : Except Fault α) : Exec α :=
  match result with
  | .ok x => pure x
  | .error fault => throw (.fault fault)

def view {α : Type} (f : Frame → α) : Exec α := return f (← get).frame

def viewWorld {α : Type} (f : World → α) : Exec α := return f (← get).world

def update (f : Frame → Frame) : Exec Unit := modify fun a => { a with frame := f a.frame }

def updateWorld (f : World → World) : Exec Unit := modify fun a => { a with world := f a.world }

def pop : Exec Int := do
  match (← get).frame.stack.pop? with
  | none => throw (.fault .emptyStack)
  | some (x, stack) =>
    update fun f => { f with stack := stack }
    return x

def push (x : Int) : Exec Unit := update fun f => { f with stack := f.stack.push x }

def useGas (amount : Int) : Exec Unit := do
  haltIf ((← view Frame.gas) < amount) .insufficientGas
  update fun f => { f with gas := f.gas - amount }

/-- Makes the memory reach over `size` bytes from `offset`, and pays for the words added. -/
def expandMemory (offset size : Int) : Exec Unit := do
  if size ≠ 0 then
    let words : Int := (← view Frame.memoryWords)
    if offset + size > words * 32 then
      let newWords := Gas.wordsFor (offset + size)
      useGas (Gas.memoryCost newWords - Gas.memoryCost words)
      let zeros ← attempt (Bytes.zeros ((newWords - words) * 32))
      attempt (Bytes.checkSize ((← view (·.memory.size)) + zeros.size))
      update fun f => { f with memory := f.memory ++ zeros }

def readMemory (offset size : Int) : Exec Bytes :=
  if size = 0 then pure #[]
  else do
    expandMemory offset size
    view fun f => f.memory.slice offset (offset + size)

def writeMemory (start stop : Int) (bytes : Bytes) : Exec Unit :=
  update fun f => { f with memory := f.memory.splice start stop bytes }

/-- Pays for a copy and copies `size` bytes to the memory, zeros past the end of the source. -/
def copyToMemory (dest : Int) (source : Bytes) (offset size : Int) : Exec Unit := do
  useGas (Gas.copyWord * Gas.wordsFor size)
  if size ≠ 0 then
    expandMemory dest size
    let bytes ← attempt (source.padded offset size)
    writeMemory dest (dest + size) bytes

def warmAddress (a : Address) : Exec Bool :=
  modifyGet fun s =>
    let (warm, access) := s.access.warmAddress a
    (warm, { s with access := access })

def warmSlot (key : Int) : Exec Bool :=
  modifyGet fun s =>
    let (warm, access) := s.access.warmSlot s.frame.context.address key
    (warm, { s with access := access })

/-- The price of an access to an account, which is warm from now on. -/
def accessCost (a : Address) : Exec Int :=
  return if ← warmAddress a then Gas.warmAccess else Gas.coldAccount

def forbidStatic : Exec Unit := do
  haltIf (← view (·.context.isStatic)) .illegalStateChange

end Exec
end Gasometer
