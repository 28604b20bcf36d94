import Gasometer.Code
import Gasometer.Machine.Block
import Gasometer.Machine.Stack
import Gasometer.Text.Numeral

/-!
# Frames

A frame is one message call or one creation of a contract at work, with its own stack, memory and
gas. What stays the same from its beginning to its end is its `Context`. The frame that opened it
is told of its end as its `Completion` says.
-/
namespace Gasometer

inductive HaltReason
  | insufficientGas
  | insufficientStackItems
  | tooManyStackItems
  | invalidJumpDestination
  | invalidOperation
  | illegalStateChange
  | invalidReturnDataBufferAccess
  | codeTooLarge
  | invalidCode
  | contractAddressCollision
  | internalError
  deriving DecidableEq, Repr, Inhabited

namespace HaltReason

def all : List HaltReason :=
  [insufficientGas, insufficientStackItems, tooManyStackItems, invalidJumpDestination,
    invalidOperation, illegalStateChange, invalidReturnDataBufferAccess, codeTooLarge, invalidCode,
    contractAddressCollision, internalError]

def name : HaltReason → String
  | insufficientGas => "INSUFFICIENT_GAS"
  | insufficientStackItems => "INSUFFICIENT_STACK_ITEMS"
  | tooManyStackItems => "TOO_MANY_STACK_ITEMS"
  | invalidJumpDestination => "INVALID_JUMP_DESTINATION"
  | invalidOperation => "INVALID_OPERATION"
  | illegalStateChange => "ILLEGAL_STATE_CHANGE"
  | invalidReturnDataBufferAccess => "INVALID_RETURN_DATA_BUFFER_ACCESS"
  | codeTooLarge => "CODE_TOO_LARGE"
  | invalidCode => "INVALID_CODE"
  | contractAddressCollision => "CONTRACT_ADDRESS_COLLISION"
  | internalError => "INTERNAL_ERROR"

def ofName? (name : String) : Option HaltReason := all.find? (·.name == name)

end HaltReason

inductive FrameKind
  | messageCall
  | contractCreation
  deriving DecidableEq, Repr, Inhabited

namespace FrameKind

def name : FrameKind → String
  | messageCall => "MESSAGE_CALL"
  | contractCreation => "CONTRACT_CREATION"

def ofName? (name : String) : Option FrameKind :=
  [messageCall, contractCreation].find? (·.name == name)

end FrameKind

inductive Failure
  /-- It was stopped, and its gas is lost. -/
  | halt (reason : HaltReason)
  /-- It took its effects back itself, and keeps its remaining gas. -/
  | revert
  deriving DecidableEq, Repr, Inhabited

/-- Where a frame stands. A frame is first left by its code (`returned`, `halted`, `reverted`),
then brought to its end (`succeeded`, `failed`), where its effects are kept or taken back. -/
inductive FrameStatus
  | notStarted
  | executing
  | suspended
  | returned
  | halted (reason : HaltReason)
  | reverted
  | succeeded
  | failed (failure : Failure)
  deriving DecidableEq, Repr, Inhabited

def FrameStatus.name : FrameStatus → String
  | notStarted => "NOT_STARTED"
  | executing => "CODE_EXECUTING"
  | suspended => "CODE_SUSPENDED"
  | returned => "CODE_SUCCESS"
  | halted _ => "EXCEPTIONAL_HALT"
  | reverted => "REVERT"
  | succeeded => "COMPLETED_SUCCESS"
  | failed _ => "COMPLETED_FAILED"

structure Log where
  address : Address
  topics : List Int
  data : Bytes
  deriving DecidableEq, Inhabited

/-- What the opening frame does when a frame ends. -/
inductive Completion
  /-- Nobody waits for the end. -/
  | silent
  /-- A call: the output goes to the opener's memory, at most `outSize` bytes at `outOffset`. -/
  | call (outOffset outSize : Int)
  /-- A creation: the opener is told the number of the new address. -/
  | creation (number : Int)
  deriving DecidableEq, Repr, Inhabited

/-- What does not change while a frame is at work. The world in which its transaction began is made
up of the lowest `originLayers` layers. -/
structure Context where
  kind : FrameKind := .messageCall
  address : Address
  originator : Address
  sender : Address
  contract : Address := Address.zero
  code : Code
  block : Block := {}
  gasPrice : Int := 0
  input : Bytes := #[]
  value : Int := 0
  apparentValue : Int := 0
  depth : Int := 0
  isStatic : Bool := false
  completion : Completion := .silent
  originLayers : Nat := 1
  deriving Inhabited

structure Frame where
  context : Context
  gas : Int
  status : FrameStatus := .notStarted
  pc : Nat := 0
  stack : Stack := .empty
  memory : Bytes := #[]
  returnData : Bytes := #[]
  output : Bytes := #[]
  logs : List Log := []
  selfDestructs : List Address := []
  deriving Inhabited

namespace Frame

def haltReason? (f : Frame) : Option HaltReason :=
  match f.status with
  | .halted reason | .failed (.halt reason) => some reason
  | _ => none

def revertReason? (f : Frame) : Option Bytes :=
  match f.status with
  | .reverted | .failed .revert => some f.output
  | _ => none

def memoryWords (f : Frame) : Nat := f.memory.size / 32

/-- Adds the addresses that are not there yet. -/
def uniteAddresses (old new : List Address) : List Address :=
  new.foldl (fun l a => if a ∈ l then l else a :: l) old

def describe (f : Frame) : String :=
  s!"MessageFrame({f.context.kind.name}, address={f.context.address.text}, " ++
    s!"depth={Text.decimal f.context.depth}, state={f.status.name}, gas={Text.decimal f.gas})"

def halt (f : Frame) (reason : HaltReason) : Frame := { f with status := .halted reason }

/-- Hands the end of a child to the frame that opened it, which goes on. -/
def resume (f child : Frame) : Frame :=
  let succeeded : Bool := child.status == .succeeded
  let f := { f with gas := f.gas + child.gas, status := .executing }
  let f := if succeeded then
      { f with
        logs := f.logs ++ child.logs
        selfDestructs := uniteAddresses f.selfDestructs child.selfDestructs }
    else f
  match child.context.completion with
  | .silent => f
  | .call outOffset outSize =>
    let output := child.output
    let memory := if outSize ≠ 0 ∧ output.size ≠ 0 then
        let n := min outSize output.size
        f.memory.splice outOffset (outOffset + n) (output.slice 0 n)
      else f.memory
    { f with
      returnData := output
      memory := memory
      stack := f.stack.push (if succeeded then 1 else 0) }
  | .creation number =>
    let f := if succeeded || child.haltReason?.isSome then f
      else { f with returnData := child.output }
    { f with stack := f.stack.push (if succeeded then number else 0) }

end Frame
end Gasometer
