import Gasometer.Machine.Activity
import Gasometer.Opcode.Info

/-!
# Operations within a frame

What each operation does, apart from the calls and creations, which open another frame. The static
price has been paid and the number of stack items checked before; the program counter stands after
the byte of the operation.
-/
namespace Gasometer.Exec
open Gasometer

-- Powers are those of the core library, also where Mathlib offers its own.
attribute [local instance (high)] instPowNat

def unary : Unary → Int → Int
  | .iszero, a => Word.ofBool (a == 0)
  | .not, a => Word.not a

/-- The function of a binary operation; `a` is the uppermost word. -/
def binary : Binary → Int → Int → Except Fault Int
  | .add, a, b => .ok (Word.wrap (a + b))
  | .mul, a, b => .ok (Word.wrap (a * b))
  | .sub, a, b => .ok (Word.wrap (a - b))
  | .div, a, b => .ok (Word.div a b)
  | .sdiv, a, b => .ok (Word.sdiv a b)
  | .mod, a, b => .ok (Word.mod a b)
  | .smod, a, b => .ok (Word.smod a b)
  | .signextend, a, b => Word.signExtend a b
  | .lt, a, b => .ok (Word.ofBool (a < b))
  | .gt, a, b => .ok (Word.ofBool (b < a))
  | .slt, a, b => .ok (Word.ofBool (Word.toSigned a < Word.toSigned b))
  | .sgt, a, b => .ok (Word.ofBool (Word.toSigned b < Word.toSigned a))
  | .eq, a, b => .ok (Word.ofBool (a == b))
  | .and, a, b => .ok (Word.and a b)
  | .or, a, b => .ok (Word.or a b)
  | .xor, a, b => .ok (Word.xor a b)
  | .byte, a, b => .ok (Word.byte a b)
  | .shl, a, b => Word.shl a b
  | .shr, a, b => Word.shr a b
  | .sar, a, b => Word.sar a b

def ternary : Ternary → Int → Int → Int → Int
  | .addmod, a, b, n => Word.addmod a b n
  | .mulmod, a, b, n => Word.mulmod a b n

/-- Powers are paid by the bytes of the exponent. -/
def exp : Exec Unit := do
  let base ← pop
  let exponent ← pop
  useGas (Gas.expByte * Word.byteLength exponent)
  push (← attempt (Word.exp base exponent))

def keccak256 : Exec Unit := do
  let offset ← pop
  let size ← pop
  useGas (Gas.keccak256Word * Gas.wordsFor size)
  let data ← readMemory offset size
  push (Keccak.hash data).toNat

def query (q : Query) : Exec Int := do
  let a ← get
  let f := a.frame
  let c := f.context
  match q with
  | .address => attempt c.address.toInt
  | .origin => attempt c.originator.toInt
  | .caller => attempt c.sender.toInt
  | .callvalue => return c.apparentValue
  | .calldatasize => return c.input.size
  | .codesize => return c.code.size
  | .gasprice => return c.gasPrice
  | .returndatasize => return f.returnData.size
  | .coinbase => attempt c.block.coinbase.toInt
  | .timestamp => return c.block.timestamp
  | .number => return c.block.number
  | .difficulty => return c.block.difficulty
  | .gaslimit => return c.block.gasLimit
  | .chainid => return c.block.chainId
  | .selfbalance => return (a.world.account c.address).balance
  | .basefee => return c.block.baseFee
  | .pc => return (f.pc : Int) - 1
  | .msize => return f.memoryWords * 32
  | .gas => return f.gas

def accountValue : AccountQuery → Account → Int
  | .balance, account => account.balance
  | .extcodesize, account => account.code.size
  | .extcodehash, account => if account.isEmpty then 0 else account.codeHash.toNat

def accountQuery (q : AccountQuery) : Exec Unit := do
  let address := Address.ofInt (← pop)
  useGas (← accessCost address)
  push (accountValue q (← viewWorld (·.account address)))

def calldataload : Exec Unit := do
  let offset ← pop
  let bytes ← attempt ((← view (·.context.input)).padded offset 32)
  push bytes.toNat

/-- Copies input, code or returned data to the memory. Only the returned data may not be read past
its end. -/
def copy (source : CopySource) : Exec Unit := do
  let dest ← pop
  let offset ← pop
  let size ← pop
  match source with
  | .calldata => copyToMemory dest (← view (·.context.input)) offset size
  | .code => copyToMemory dest (← view (·.context.code.bytes)) offset size
  | .returndata =>
    let data ← view Frame.returnData
    haltIf (offset + size > data.size) .invalidReturnDataBufferAccess
    copyToMemory dest data offset size

def extcodecopy : Exec Unit := do
  let address := Address.ofInt (← pop)
  let dest ← pop
  let offset ← pop
  let size ← pop
  useGas (← accessCost address)
  let account ← viewWorld (·.account address)
  copyToMemory dest account.code offset size

def blockhash : Exec Unit := do
  let number ← pop
  push ((← view (·.context.block)).hashOf number)

def mload : Exec Unit := do
  let offset ← pop
  push (← readMemory offset 32).toNat

def mstore : Exec Unit := do
  let offset ← pop
  let value ← pop
  expandMemory offset 32
  writeMemory offset (offset + 32) (← attempt (Bytes.ofInt 32 value))

/-- The place of one byte; a place below zero counts from the end of the memory. -/
def bytePlace (size : Nat) (offset : Int) : Except Fault Int :=
  if offset < -(2 ^ (63 : Nat)) ∨ 2 ^ (63 : Nat) ≤ offset then .error .indexRange
  else
    let place := if offset < 0 then offset + size else offset
    if 0 ≤ place ∧ place < size then .ok place else .error .byteIndex

def mstore8 : Exec Unit := do
  let offset ← pop
  let value ← pop
  expandMemory offset 1
  let place ← attempt (bytePlace (← view (·.memory.size)) offset)
  writeMemory place (place + 1) #[UInt8.ofNat (value % 256).toNat]

def sload : Exec Unit := do
  let key ← pop
  let warm ← warmSlot key
  useGas (if warm then Gas.warmAccess else Gas.coldSload)
  let address ← view (·.context.address)
  push ((← viewWorld (·.account address)).load key)

/-- The price of writing a storage slot that is warm or not, held `initial` when the transaction
began, and holds `current` now. -/
def sstoreCost (warm : Bool) (initial current value : Int) : Int :=
  (if warm then 0 else Gas.coldSload) +
    if current = value then Gas.warmAccess
    else if initial = current then (if initial = 0 then Gas.sstoreSet else Gas.sstoreReset)
    else Gas.warmAccess

/-- What a storage slot of the frame's account held when the transaction began: what the layers of
the world show in which it began. -/
def initialValue (w : World) (c : Context) (key : Int) : Int :=
  ((World.see c.address (w.below.drop (w.below.length - c.originLayers))).getD {}).load key

def sstore : Exec Unit := do
  forbidStatic
  haltIf ((← view Frame.gas) ≤ Gas.callStipend) .insufficientGas
  let key ← pop
  let value ← pop
  let c ← view Frame.context
  let current ← viewWorld fun w => (w.account c.address).load key
  let initial ← viewWorld fun w => initialValue w c key
  let warm ← warmSlot key
  useGas (sstoreCost warm initial current value)
  updateWorld (·.modify c.address (·.store key value))

def jumpTo (place : Int) : Exec Unit := do
  let valid ← view (·.context.code.isJumpDest place.toNat)
  haltIf (place < 0 ∨ ! valid) .invalidJumpDestination
  update fun f => { f with pc := place.toNat }

def jump : Exec Unit := do jumpTo (← pop)

def jumpi : Exec Unit := do
  let place ← pop
  let condition ← pop
  if condition ≠ 0 then jumpTo place

/-- Pushes the data after the operation; what lies past the end of the code is zero. -/
def pushData (width : Nat) : Exec Unit :=
  update fun f =>
    let data : Bytes := f.context.code.bytes.extract f.pc (f.pc + width)
    { f with
      pc := f.pc + width
      stack := f.stack.push ((data.toNat * 256 ^ (width - data.size) : Nat) : Int) }

def dup (n : Nat) : Exec Unit := do
  match (← view Frame.stack).get? n with
  | none => throw (.fault .stackIndex)
  | some x => push x

def swap (n : Nat) : Exec Unit := do
  match (← view Frame.stack).exchange? n with
  | none => throw (.fault .stackIndex)
  | some stack => update fun f => { f with stack := stack }

def popMany : Nat → Exec (List Int)
  | 0 => return []
  | n + 1 => do
    let x ← pop
    return x :: (← popMany n)

def log (topics : Nat) : Exec Unit := do
  forbidStatic
  let offset ← pop
  let size ← pop
  let topicWords ← popMany topics
  useGas (Gas.logTopic * topics + Gas.logByte * size)
  let data ← readMemory offset size
  update fun f => { f with logs := f.logs ++ [⟨f.context.address, topicWords, data⟩] }

def leave (status : FrameStatus) (output : Bytes) : Exec Unit :=
  update fun f => { f with output := output, status := status }

def leaveWithMemory (status : FrameStatus) : Exec Unit := do
  let offset ← pop
  let size ← pop
  leave status (← readMemory offset size)

/-- Ends the contract: its balance goes to another account, and it is removed at the end of the
transaction. -/
def selfdestruct : Exec Unit := do
  forbidStatic
  let beneficiary := Address.ofInt (← pop)
  let accessPart := if ← warmAddress beneficiary then 0 else Gas.coldAccount
  let address ← view (·.context.address)
  let balance ← viewWorld fun w => (w.account address).balance
  let dead ← viewWorld (·.isDead beneficiary)
  useGas (accessPart + if balance ≠ 0 ∧ dead then Gas.newAccount else 0)
  updateWorld (·.modify beneficiary fun b => { b with balance := b.balance + balance })
  updateWorld (·.modify address fun b => { b with balance := 0 })
  update fun f => { f with selfDestructs := Frame.uniteAddresses f.selfDestructs [address] }
  leave .returned #[]

end Gasometer.Exec
