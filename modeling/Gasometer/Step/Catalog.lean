import Gasometer.Execution.Fixture
import Gasometer.Step.Basic
import Gasometer.Text.Case

/-!
# The catalog of steps

The built-in steps in their order. Steps of one category form a section of the report; sections
come in the order in which their categories are met first.
-/
namespace Gasometer.Catalog

-- Powers are those of the core library, also where Mathlib offers its own.
attribute [local instance (high)] instPowNat

def step (name category : String) (operands : List Int) (gasHint : Int := 0) : Step :=
  { name := name, category := category, operands := operands.map .number, gasHint := gasHint }

def x : Int := 0x1234567890abcdef

def y : Int := 0xfedcba0987654321

def returnDataPreamble : List String :=
  ["PUSH 32", "PUSH 0", "PUSH 0", "PUSH 0", "PUSH " ++ Text.decimal Fixture.returningNumber,
    "GAS", "STATICCALL", "POP"]

def arithmetic : List Step :=
  [step "ADD" "arithmetic" [x, y],
    step "MUL" "arithmetic" [x, y],
    step "SUB" "arithmetic" [y, x],
    step "DIV" "arithmetic" [y, x],
    step "SDIV" "arithmetic" [y, x],
    step "MOD" "arithmetic" [y, x],
    step "SMOD" "arithmetic" [y, x],
    step "ADDMOD" "arithmetic" [x, y, 0x7fff],
    step "MULMOD" "arithmetic" [x, y, 0x7fff],
    step "EXP" "arithmetic" [3, 0xffff] 100,
    step "SIGNEXTEND" "arithmetic" [0, 0xff]]

def comparison : List Step :=
  [step "LT" "comparison" [x, y],
    step "GT" "comparison" [x, y],
    step "SLT" "comparison" [x, y],
    step "SGT" "comparison" [x, y],
    step "EQ" "comparison" [x, y],
    step "ISZERO" "comparison" [x]]

def bitwise : List Step :=
  [step "AND" "bitwise" [x, y],
    step "OR" "bitwise" [x, y],
    step "XOR" "bitwise" [x, y],
    step "NOT" "bitwise" [x],
    step "BYTE" "bitwise" [31, x],
    step "SHL" "bitwise" [4, x],
    step "SHR" "bitwise" [4, x],
    step "SAR" "bitwise" [4, y],
    step "KECCAK256" "bitwise" [0, 32] 9]

def environment : List Step :=
  let r := Fixture.returningNumber
  [step "ADDRESS" "environment" [],
    step "BALANCE" "environment" [r] 100,
    step "ORIGIN" "environment" [],
    step "CALLER" "environment" [],
    step "CALLVALUE" "environment" [],
    step "CALLDATALOAD" "environment" [4],
    step "CALLDATASIZE" "environment" [],
    step "CALLDATACOPY" "environment" [0, 4, 32] 3,
    step "CODESIZE" "environment" [],
    step "CODECOPY" "environment" [0, 0, 32] 3,
    step "GASPRICE" "environment" [],
    step "EXTCODESIZE" "environment" [r] 100,
    step "EXTCODECOPY" "environment" [r, 0, 0, 9] 103,
    step "EXTCODEHASH" "environment" [r] 100,
    { step "RETURNDATASIZE" "environment" [] with preamble := returnDataPreamble },
    { step "RETURNDATACOPY" "environment" [0, 0, 32] 3 with preamble := returnDataPreamble }]

def block : List Step :=
  [step "BLOCKHASH" "block" [0],
    step "COINBASE" "block" [],
    step "TIMESTAMP" "block" [],
    step "NUMBER" "block" [],
    step "DIFFICULTY" "block" [],
    step "GASLIMIT" "block" [],
    step "CHAINID" "block" [],
    step "SELFBALANCE" "block" [],
    step "BASEFEE" "block" []]

def stack : List Step :=
  [{ step "POP" "stack" [x] with outputs? := some 0 },
    { step "PUSH1" "stack" [] with immediate? := some 0x99 },
    { step "PUSH16" "stack" [] with immediate? := some x },
    { step "PUSH32" "stack" [] with immediate? := some (2 ^ (256 : Nat) - 1) },
    { step "DUP1" "stack" [x] with outputs? := some 2 },
    { step "DUP16" "stack" (List.replicate 16 x) with outputs? := some 17 },
    { step "SWAP1" "stack" [x, y] with outputs? := some 2 },
    { step "SWAP16" "stack" (List.replicate 17 x) with outputs? := some 17 },
    step "PC" "stack" [],
    step "GAS" "stack" [],
    step "JUMPDEST" "stack" []]

def memory : List Step :=
  [step "MLOAD" "memory" [0],
    step "MSTORE" "memory" [0, 0x99],
    step "MSTORE8" "memory" [0, 0x99],
    step "MSIZE" "memory" []]

def storage : List Step :=
  [step "SLOAD" "storage" [0x54] 100,
    step "SSTORE" "storage" [0x54, 0x99] 100]

def log : List Step :=
  [step "LOG0" "log" [0, 32] 256,
    step "LOG1" "log" [0, 32, x] 256,
    step "LOG2" "log" [0, 32, x, y] 256,
    step "LOG3" "log" [0, 32, x, y, x] 256,
    step "LOG4" "log" [0, 32, x, y, x, y] 256]

def system : List Step :=
  let r := Fixture.returningNumber
  let create2 := step "CREATE2" "system" [0, 0, 0] 2600
  [step "CALL" "system" [0xffff, r, 0, 0, 0, 0, 32] 130,
    { step "CALL__REVERT" "system" [0xffff, Fixture.revertingNumber, 0, 0, 0, 0, 32] 22250 with
      mnemonic? := some "CALL" },
    step "CALLCODE" "system" [0xffff, r, 0, 0, 0, 0, 32] 130,
    step "DELEGATECALL" "system" [0xffff, r, 0, 0, 0, 32] 130,
    step "STATICCALL" "system" [0xffff, r, 0, 0, 0, 32] 130,
    step "CREATE" "system" [0, 0, 0] 2600,
    { create2 with operands := create2.operands ++ [.mnemonic "GAS"] },
    step "STOP" "system" [],
    step "RETURN" "system" [0, 32],
    step "REVERT" "system" [0, 32],
    step "INVALID" "system" [],
    step "SELFDESTRUCT" "system" [r]]

def steps : List Step :=
  arithmetic ++ comparison ++ bitwise ++ environment ++ block ++ stack ++ memory ++ storage ++
    log ++ system

def find (name : String) : Except Problem Step :=
  let key := String.ofList (Text.upper name.toList)
  match steps.find? (·.name == key) with
  | some s => .ok s
  | none => .error (.unknownStep name)

/-- Steps by their categories, which come in the order in which they are met first. -/
def group (l : List Step) : List (String × List Step) :=
  (l.map (·.category)).eraseDups.map fun c => (c, l.filter (·.category == c))

def categories : List String := (steps.map (·.category)).eraseDups

theorem map_fst_group (l : List Step) :
    (group l).map Prod.fst = (l.map (·.category)).eraseDups := by
  simp [group, Function.comp_def]

theorem mem_snd_group {l : List Step} {c : String} {s : List Step} (h : (c, s) ∈ group l) :
    s = l.filter (·.category == c) := by
  simp only [group, List.mem_map, Prod.mk.injEq] at h
  obtain ⟨d, -, rfl, rfl⟩ := h
  rfl

end Gasometer.Catalog
