import Gasometer.Machine.Operation

/-!
# Calls and creations

These operations open another frame. The opener keeps a 64th part of its gas, and gets the rest
back from what the other frame leaves. Nothing is opened, and a zero is pushed, if the opener lies
too deep or cannot pay the value.
-/
namespace Gasometer.Exec
open Gasometer

def maxDepth : Int := 1024

/-- The greatest part of its gas that a frame can hand on. -/
def handedOn (available : Int) : Int := available - available / 64

def takesValue : CallKind → Bool
  | .call | .callcode => true
  | .delegatecall | .staticcall => false

/-- The account that the called code works on. -/
def recipientOf (kind : CallKind) (opener target : Address) : Address :=
  match kind with
  | .call | .staticcall => target
  | .callcode | .delegatecall => opener

def calledContext (kind : CallKind) (c : Context) (target : Address) (code input : Bytes)
    (value outOffset outSize : Int) : Context :=
  { kind := .messageCall
    address := recipientOf kind c.address target
    originator := c.originator
    sender := if kind = .delegatecall then c.sender else c.address
    contract := target
    code := Code.ofBytes code
    block := c.block
    gasPrice := c.gasPrice
    input := input
    value := if kind = .delegatecall then 0 else value
    apparentValue := match kind with
      | .call | .callcode => value
      | .delegatecall => c.apparentValue
      | .staticcall => 0
    depth := c.depth + 1
    isStatic := c.isStatic || kind == .staticcall
    completion := .call outOffset outSize
    originLayers := c.originLayers }

/-- What a call costs besides the gas that it hands on. -/
def callCost (kind : CallKind) (access value : Int) (targetIsDead : Bool) : Int :=
  if value = 0 then access
  else access + Gas.callValue + if kind = .call ∧ targetIsDead then Gas.newAccount else 0

def takeValue (kind : CallKind) : Exec Int := if takesValue kind then pop else pure 0

/-- The gas that a called frame starts with: what is handed on, and a stipend if it gets value. -/
def grant (handed value : Int) : Int := if value = 0 then handed else handed + Gas.callStipend

/-- Opens the called frame. If that is not possible, its gas is given back. -/
def enter (kind : CallKind) (target : Address) (value inOffset inSize outOffset outSize gas : Int) :
    Exec (Option Frame) := do
  update fun f => { f with returnData := #[] }
  let c ← view Frame.context
  let balance ← viewWorld fun w => (w.account c.address).balance
  if c.depth ≥ maxDepth ∨ balance < value then
    update fun f => { f with gas := f.gas + gas }
    push 0
    return none
  else
    let input ← view fun f =>
      if inSize = 0 then #[] else f.memory.slice inOffset (inOffset + inSize)
    let code ← viewWorld fun w => (w.account target).code
    return some
      { context := calledContext kind c target code input value outOffset outSize, gas := gas }

def call (kind : CallKind) : Exec (Option Frame) := do
  let requested ← pop
  let target := Address.ofInt (← pop)
  let value ← takeValue kind
  let inOffset ← pop
  let inSize ← pop
  let outOffset ← pop
  let outSize ← pop
  haltIf (kind = .call ∧ value ≠ 0 ∧ (← view (·.context.isStatic))) .illegalStateChange
  expandMemory inOffset inSize
  expandMemory outOffset outSize
  let access ← accessCost target
  useGas (callCost kind access value (← viewWorld (·.isDead target)))
  let handed := min requested (handedOn (← view Frame.gas))
  useGas handed
  enter kind target value inOffset inSize outOffset outSize (grant handed value)

def createdContext (c : Context) (place : Address) (number : Int) (code : Bytes) (value : Int) :
    Context :=
  { kind := .contractCreation
    address := place
    originator := c.originator
    sender := c.address
    contract := place
    code := Code.ofBytes code
    block := c.block
    gasPrice := c.gasPrice
    value := value
    apparentValue := value
    depth := c.depth + 1
    completion := .creation number
    originLayers := c.originLayers }

/-- The salt of a creation, where it has one. Hashing the code for the address is paid here. -/
def takeSalt (salted : Bool) (size : Int) : Exec (Option Int) := do
  if salted then
    let salt ← pop
    useGas (Gas.keccak256Word * Gas.wordsFor size)
    return some salt
  else return none

def placeOf (creator : Address) (nonce : Int) (salt : Option Int) (code : Bytes) :
    Except Fault Address :=
  match salt with
  | none => Address.created creator nonce
  | some salt => Address.createdSalted creator salt code

def create (salted : Bool) : Exec (Option Frame) := do
  forbidStatic
  let value ← pop
  let offset ← pop
  let size ← pop
  let salt ← takeSalt salted size
  let code ← readMemory offset size
  update fun f => { f with returnData := #[] }
  let c ← view Frame.context
  let creator ← viewWorld (·.account c.address)
  if c.depth ≥ maxDepth ∨ creator.balance < value then
    push 0
    return none
  else
    let childGas := handedOn (← view Frame.gas)
    useGas childGas
    updateWorld (·.modify c.address fun a => { a with nonce := a.nonce + 1 })
    let place ← attempt (placeOf c.address creator.nonce salt code)
    let number ← attempt place.toInt
    let _ ← warmAddress place
    return some { context := createdContext c place number code value, gas := childGas }

end Gasometer.Exec
