import Gasometer.Gas
import Gasometer.Opcode.Basic

/-!
# Static properties of operations

How many items an operation takes and leaves, what it costs before anything that depends on its
operands, and how many bytes of data follow it. The designated invalid operation has no properties.
-/
namespace Gasometer

structure OpcodeInfo where
  inputs : Nat
  outputs : Nat
  gas : Int
  immediate : Nat := 0
  deriving DecidableEq, Repr

namespace Opcode

def binaryGas : Binary → Int
  | .mul | .div | .sdiv | .mod | .smod | .signextend => Gas.low
  | _ => Gas.veryLow

def queryGas : Query → Int
  | .selfbalance => Gas.low
  | _ => Gas.base

def info? : Opcode → Option OpcodeInfo
  | stop => some ⟨0, 0, 0, 0⟩
  | unary _ => some ⟨1, 1, Gas.veryLow, 0⟩
  | binary op => some ⟨2, 1, binaryGas op, 0⟩
  | ternary _ => some ⟨3, 1, Gas.mid, 0⟩
  | exp => some ⟨2, 1, Gas.high, 0⟩
  | keccak256 => some ⟨2, 1, Gas.keccak256, 0⟩
  | query q => some ⟨0, 1, queryGas q, 0⟩
  | calldataload => some ⟨1, 1, Gas.veryLow, 0⟩
  | accountQuery _ => some ⟨1, 1, 0, 0⟩
  | copy _ => some ⟨3, 0, Gas.veryLow, 0⟩
  | extcodecopy => some ⟨4, 0, 0, 0⟩
  | blockhash => some ⟨1, 1, Gas.blockhash, 0⟩
  | pop => some ⟨1, 0, Gas.base, 0⟩
  | mload => some ⟨1, 1, Gas.veryLow, 0⟩
  | mstore => some ⟨2, 0, Gas.veryLow, 0⟩
  | mstore8 => some ⟨2, 0, Gas.veryLow, 0⟩
  | sload => some ⟨1, 1, 0, 0⟩
  | sstore => some ⟨2, 0, 0, 0⟩
  | jump => some ⟨1, 0, Gas.mid, 0⟩
  | jumpi => some ⟨2, 0, Gas.high, 0⟩
  | jumpdest => some ⟨0, 0, Gas.jumpdest, 0⟩
  | push n => some ⟨0, 1, Gas.veryLow, n.val + 1⟩
  | dup n => some ⟨n.val + 1, n.val + 2, Gas.veryLow, 0⟩
  | swap n => some ⟨n.val + 2, n.val + 2, Gas.veryLow, 0⟩
  | log topics => some ⟨topics.val + 2, 0, Gas.log, 0⟩
  | create => some ⟨3, 1, Gas.create, 0⟩
  | create2 => some ⟨4, 1, Gas.create, 0⟩
  | call .call | call .callcode => some ⟨7, 1, 0, 0⟩
  | call .delegatecall | call .staticcall => some ⟨6, 1, 0, 0⟩
  | ret => some ⟨2, 0, 0, 0⟩
  | revert => some ⟨2, 0, 0, 0⟩
  | invalid => none
  | selfdestruct => some ⟨1, 0, Gas.selfdestruct, 0⟩

@[simp] theorem info?_eq_none {op : Opcode} : op.info? = none ↔ op = invalid := by
  cases op <;> (try (rename_i x; cases x)) <;> simp [info?]

end Opcode
end Gasometer
