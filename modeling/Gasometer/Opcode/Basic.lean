/-!
# Operation codes

The operations of the London rules, grouped into families whose members take and leave the same
number of stack items. Each operation has a byte and a name; `ofByte?` and `ofName?` find it again.
-/
namespace Gasometer

inductive Unary
  | iszero | not
  deriving DecidableEq, Repr

inductive Binary
  | add | mul | sub | div | sdiv | mod | smod | signextend
  | lt | gt | slt | sgt | eq | and | or | xor | byte | shl | shr | sar
  deriving DecidableEq, Repr

inductive Ternary
  | addmod | mulmod
  deriving DecidableEq, Repr

inductive Query
  | address | origin | caller | callvalue | calldatasize | codesize | gasprice | returndatasize
  | coinbase | timestamp | number | difficulty | gaslimit | chainid | selfbalance | basefee
  | pc | msize | gas
  deriving DecidableEq, Repr

inductive AccountQuery
  | balance | extcodesize | extcodehash
  deriving DecidableEq, Repr

inductive CopySource
  | calldata | code | returndata
  deriving DecidableEq, Repr

inductive CallKind
  | call | callcode | delegatecall | staticcall
  deriving DecidableEq, Repr

/-- An operation. The number of `push n`, `dup n` and `swap n` is one more than `n`. -/
inductive Opcode
  | stop
  | unary (op : Unary)
  | binary (op : Binary)
  | ternary (op : Ternary)
  | exp
  | keccak256
  | query (q : Query)
  | calldataload
  | accountQuery (q : AccountQuery)
  | copy (source : CopySource)
  | extcodecopy
  | blockhash
  | pop
  | mload
  | mstore
  | mstore8
  | sload
  | sstore
  | jump
  | jumpi
  | jumpdest
  | push (n : Fin 32)
  | dup (n : Fin 16)
  | swap (n : Fin 16)
  | log (topics : Fin 5)
  | create
  | create2
  | call (kind : CallKind)
  | ret
  | revert
  | invalid
  | selfdestruct
  deriving DecidableEq, Repr

namespace Opcode

def name : Opcode → String
  | stop => "STOP"
  | unary .iszero => "ISZERO"
  | unary .not => "NOT"
  | binary .add => "ADD"
  | binary .mul => "MUL"
  | binary .sub => "SUB"
  | binary .div => "DIV"
  | binary .sdiv => "SDIV"
  | binary .mod => "MOD"
  | binary .smod => "SMOD"
  | binary .signextend => "SIGNEXTEND"
  | binary .lt => "LT"
  | binary .gt => "GT"
  | binary .slt => "SLT"
  | binary .sgt => "SGT"
  | binary .eq => "EQ"
  | binary .and => "AND"
  | binary .or => "OR"
  | binary .xor => "XOR"
  | binary .byte => "BYTE"
  | binary .shl => "SHL"
  | binary .shr => "SHR"
  | binary .sar => "SAR"
  | ternary .addmod => "ADDMOD"
  | ternary .mulmod => "MULMOD"
  | exp => "EXP"
  | keccak256 => "KECCAK256"
  | query .address => "ADDRESS"
  | query .origin => "ORIGIN"
  | query .caller => "CALLER"
  | query .callvalue => "CALLVALUE"
  | query .calldatasize => "CALLDATASIZE"
  | query .codesize => "CODESIZE"
  | query .gasprice => "GASPRICE"
  | query .returndatasize => "RETURNDATASIZE"
  | query .coinbase => "COINBASE"
  | query .timestamp => "TIMESTAMP"
  | query .number => "NUMBER"
  | query .difficulty => "DIFFICULTY"
  | query .gaslimit => "GASLIMIT"
  | query .chainid => "CHAINID"
  | query .selfbalance => "SELFBALANCE"
  | query .basefee => "BASEFEE"
  | query .pc => "PC"
  | query .msize => "MSIZE"
  | query .gas => "GAS"
  | calldataload => "CALLDATALOAD"
  | accountQuery .balance => "BALANCE"
  | accountQuery .extcodesize => "EXTCODESIZE"
  | accountQuery .extcodehash => "EXTCODEHASH"
  | copy .calldata => "CALLDATACOPY"
  | copy .code => "CODECOPY"
  | copy .returndata => "RETURNDATACOPY"
  | extcodecopy => "EXTCODECOPY"
  | blockhash => "BLOCKHASH"
  | pop => "POP"
  | mload => "MLOAD"
  | mstore => "MSTORE"
  | mstore8 => "MSTORE8"
  | sload => "SLOAD"
  | sstore => "SSTORE"
  | jump => "JUMP"
  | jumpi => "JUMPI"
  | jumpdest => "JUMPDEST"
  | push n => s!"PUSH{n.val + 1}"
  | dup n => s!"DUP{n.val + 1}"
  | swap n => s!"SWAP{n.val + 1}"
  | log topics => s!"LOG{topics.val}"
  | create => "CREATE"
  | create2 => "CREATE2"
  | call .call => "CALL"
  | call .callcode => "CALLCODE"
  | call .delegatecall => "DELEGATECALL"
  | call .staticcall => "STATICCALL"
  | ret => "RETURN"
  | revert => "REVERT"
  | invalid => "INVALID"
  | selfdestruct => "SELFDESTRUCT"

def code : Opcode → Nat
  | stop => 0x00
  | binary .add => 0x01
  | binary .mul => 0x02
  | binary .sub => 0x03
  | binary .div => 0x04
  | binary .sdiv => 0x05
  | binary .mod => 0x06
  | binary .smod => 0x07
  | ternary .addmod => 0x08
  | ternary .mulmod => 0x09
  | exp => 0x0a
  | binary .signextend => 0x0b
  | binary .lt => 0x10
  | binary .gt => 0x11
  | binary .slt => 0x12
  | binary .sgt => 0x13
  | binary .eq => 0x14
  | unary .iszero => 0x15
  | binary .and => 0x16
  | binary .or => 0x17
  | binary .xor => 0x18
  | unary .not => 0x19
  | binary .byte => 0x1a
  | binary .shl => 0x1b
  | binary .shr => 0x1c
  | binary .sar => 0x1d
  | keccak256 => 0x20
  | query .address => 0x30
  | accountQuery .balance => 0x31
  | query .origin => 0x32
  | query .caller => 0x33
  | query .callvalue => 0x34
  | calldataload => 0x35
  | query .calldatasize => 0x36
  | copy .calldata => 0x37
  | query .codesize => 0x38
  | copy .code => 0x39
  | query .gasprice => 0x3a
  | accountQuery .extcodesize => 0x3b
  | extcodecopy => 0x3c
  | query .returndatasize => 0x3d
  | copy .returndata => 0x3e
  | accountQuery .extcodehash => 0x3f
  | blockhash => 0x40
  | query .coinbase => 0x41
  | query .timestamp => 0x42
  | query .number => 0x43
  | query .difficulty => 0x44
  | query .gaslimit => 0x45
  | query .chainid => 0x46
  | query .selfbalance => 0x47
  | query .basefee => 0x48
  | pop => 0x50
  | mload => 0x51
  | mstore => 0x52
  | mstore8 => 0x53
  | sload => 0x54
  | sstore => 0x55
  | jump => 0x56
  | jumpi => 0x57
  | query .pc => 0x58
  | query .msize => 0x59
  | query .gas => 0x5a
  | jumpdest => 0x5b
  | push n => 0x60 + n.val
  | dup n => 0x80 + n.val
  | swap n => 0x90 + n.val
  | log topics => 0xa0 + topics.val
  | create => 0xf0
  | call .call => 0xf1
  | call .callcode => 0xf2
  | ret => 0xf3
  | call .delegatecall => 0xf4
  | create2 => 0xf5
  | call .staticcall => 0xfa
  | revert => 0xfd
  | invalid => 0xfe
  | selfdestruct => 0xff

def byte (op : Opcode) : UInt8 := UInt8.ofNat op.code

def all : List Opcode :=
  [stop, binary .add, binary .mul, binary .sub, binary .div, binary .sdiv, binary .mod,
    binary .smod, ternary .addmod, ternary .mulmod, exp, binary .signextend,
    binary .lt, binary .gt, binary .slt, binary .sgt, binary .eq, unary .iszero, binary .and,
    binary .or, binary .xor, unary .not, binary .byte, binary .shl, binary .shr, binary .sar,
    keccak256,
    query .address, accountQuery .balance, query .origin, query .caller, query .callvalue,
    calldataload, query .calldatasize, copy .calldata, query .codesize, copy .code,
    query .gasprice, accountQuery .extcodesize, extcodecopy, query .returndatasize,
    copy .returndata, accountQuery .extcodehash,
    blockhash, query .coinbase, query .timestamp, query .number, query .difficulty,
    query .gaslimit, query .chainid, query .selfbalance, query .basefee,
    pop, mload, mstore, mstore8, sload, sstore, jump, jumpi, query .pc, query .msize,
    query .gas, jumpdest] ++
  (List.finRange 32).map push ++ (List.finRange 16).map dup ++ (List.finRange 16).map swap ++
  (List.finRange 5).map log ++
  [create, call .call, call .callcode, ret, call .delegatecall, create2, call .staticcall,
    revert, invalid, selfdestruct]

def ofLowCode? : Nat → Option Opcode
  | 0x00 => stop
  | 0x01 => binary .add
  | 0x02 => binary .mul
  | 0x03 => binary .sub
  | 0x04 => binary .div
  | 0x05 => binary .sdiv
  | 0x06 => binary .mod
  | 0x07 => binary .smod
  | 0x08 => ternary .addmod
  | 0x09 => ternary .mulmod
  | 0x0a => exp
  | 0x0b => binary .signextend
  | 0x10 => binary .lt
  | 0x11 => binary .gt
  | 0x12 => binary .slt
  | 0x13 => binary .sgt
  | 0x14 => binary .eq
  | 0x15 => unary .iszero
  | 0x16 => binary .and
  | 0x17 => binary .or
  | 0x18 => binary .xor
  | 0x19 => unary .not
  | 0x1a => binary .byte
  | 0x1b => binary .shl
  | 0x1c => binary .shr
  | 0x1d => binary .sar
  | 0x20 => keccak256
  | 0x30 => query .address
  | 0x31 => accountQuery .balance
  | 0x32 => query .origin
  | 0x33 => query .caller
  | 0x34 => query .callvalue
  | 0x35 => calldataload
  | 0x36 => query .calldatasize
  | 0x37 => copy .calldata
  | 0x38 => query .codesize
  | 0x39 => copy .code
  | 0x3a => query .gasprice
  | 0x3b => accountQuery .extcodesize
  | 0x3c => extcodecopy
  | 0x3d => query .returndatasize
  | 0x3e => copy .returndata
  | 0x3f => accountQuery .extcodehash
  | 0x40 => blockhash
  | 0x41 => query .coinbase
  | 0x42 => query .timestamp
  | 0x43 => query .number
  | 0x44 => query .difficulty
  | 0x45 => query .gaslimit
  | 0x46 => query .chainid
  | 0x47 => query .selfbalance
  | 0x48 => query .basefee
  | 0x50 => pop
  | 0x51 => mload
  | 0x52 => mstore
  | 0x53 => mstore8
  | 0x54 => sload
  | 0x55 => sstore
  | 0x56 => jump
  | 0x57 => jumpi
  | 0x58 => query .pc
  | 0x59 => query .msize
  | 0x5a => query .gas
  | 0x5b => jumpdest
  | _ => none

def ofHighCode? : Nat → Option Opcode
  | 0xf0 => create
  | 0xf1 => call .call
  | 0xf2 => call .callcode
  | 0xf3 => ret
  | 0xf4 => call .delegatecall
  | 0xf5 => create2
  | 0xfa => call .staticcall
  | 0xfd => revert
  | 0xfe => invalid
  | 0xff => selfdestruct
  | _ => none

def ofCode? (n : Nat) : Option Opcode :=
  if n < 0x60 then ofLowCode? n
  else if n < 0x80 then push (Fin.ofNat 32 (n - 0x60))
  else if n < 0x90 then dup (Fin.ofNat 16 (n - 0x80))
  else if n < 0xa0 then swap (Fin.ofNat 16 (n - 0x90))
  else if n < 0xa5 then log (Fin.ofNat 5 (n - 0xa0))
  else ofHighCode? n

def ofByte? (b : UInt8) : Option Opcode := ofCode? b.toNat

def ofName? (name : String) : Option Opcode := all.find? (·.name == name)

/-- The bytes of data after a push, none after any other operation. -/
def width : Opcode → Nat
  | push n => n.val + 1
  | _ => 0

def isTerminating : Opcode → Bool
  | stop | ret | revert | invalid | selfdestruct => true
  | _ => false

theorem code_lt (op : Opcode) : op.code < 256 := by
  cases op <;> (try (rename_i x; cases x)) <;> simp [code] <;> omega

theorem ofCode?_code (op : Opcode) : ofCode? op.code = some op := by
  cases op with
  | push n => revert n; decide
  | dup n => revert n; decide
  | swap n => revert n; decide
  | log n => revert n; decide
  | unary u => cases u <;> rfl
  | binary u => cases u <;> rfl
  | ternary u => cases u <;> rfl
  | query u => cases u <;> rfl
  | accountQuery u => cases u <;> rfl
  | copy u => cases u <;> rfl
  | call u => cases u <;> rfl
  | _ => rfl

theorem ofByte?_byte (op : Opcode) : ofByte? op.byte = some op := by
  rw [ofByte?, byte, UInt8.toNat_ofNat', Nat.mod_eq_of_lt (code_lt op)]
  exact ofCode?_code op

theorem byte_of_ofByte? {b : UInt8} {op : Opcode} (h : ofByte? b = some op) : op.byte = b := by
  have hall : ∀ n < 256, ∀ op ∈ ofCode? n, op.code = n := by decide +kernel
  rw [byte, hall b.toNat b.toNat_lt op h, UInt8.ofNat_toNat]

end Opcode
end Gasometer
