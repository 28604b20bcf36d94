import Gasometer.Assembly.Program
import Gasometer.Step.Basic

/-!
# The body of a loop

One execution of a step in assembly: the operands are pushed, the operation runs, and its results
are dropped, so that the stack is as it was. The size and the price of a body are computed without
assembling it.
-/
namespace Gasometer.LoopProgram

-- The empty sum is the zero of the core library, also where Mathlib offers its own.
attribute [local instance (high)] Zero.ofOfNat0

def operandLine : StepOperand → Except Problem String
  | .number n => return "PUSH " ++ (← (Text.decimal? n : Except Fault String))
  | .mnemonic text => return text

def operationLine (s : Step) : String :=
  match s.immediate? with
  | some n => s.mnemonic ++ " 0x" ++ Text.hex n
  | none => s.mnemonic

/-- The lines of one execution. A step that ends the frame drops nothing. -/
def bodyLines (s : Step) : Except Problem (List String) := do
  let operands ← s.operands.reverse.mapM operandLine
  let terminal ← s.isTerminal
  let drops ← if terminal then pure 0 else s.pops
  return operands ++ [operationLine s] ++ List.replicate drops.toNat "POP"

def pushSize (n : Int) : Int := 1 + (max 1 (Bytes.widthOf n.natAbs) : Nat)

def operandSize : StepOperand → Int
  | .number n => pushSize n
  | .mnemonic _ => 1

/-- The bytes of the operation itself; the width of a push stands in its mnemonic. -/
def operationSize (s : Step) : Except Problem Int := do
  match s.immediate? with
  | none => return 1
  | some _ =>
    let width := String.ofList (s.mnemonic.toList.drop 4)
    return 1 + (← (Text.parseInt .ten width : Except Fault Int))

def bodySize (s : Step) : Except Problem Int := do
  let operands := (s.operands.map operandSize).sum
  let operation ← operationSize s
  return operands + operation + (← s.pops)

def operandGas : StepOperand → Except Problem Int
  | .number _ => return 3
  | .mnemonic text => (Step.lookUp text).map Step.priceOf

def bodyGas (s : Step) : Except Problem Int := do
  let operands ← s.operands.mapM operandGas
  let operation ← s.staticGas
  return operands.sum + operation + s.gasHint + 2 * (← s.pops)

def hasFunction (op : Opcode) : Bool :=
  match op with
  | .push _ | .dup _ | .swap _ | .jump | .jumpi | .jumpdest | .query .pc => false
  | _ => true

def hasYulFunction (s : Step) : Except Problem Bool :=
  if s.immediate?.isSome then .ok false else s.opcode.map hasFunction

def verbatim (lines : List String) : Except Problem String := do
  let code ← (Assembly.compile ("\n".intercalate lines) : Except CompilationError String)
  return "verbatim_0i_0o(hex\"" ++ code ++ "\")"

def small (s : String) : String := String.ofList (Text.lower s.toList)

def yulOperand : StepOperand → String
  | .number n => "0x" ++ Text.hex n
  | .mnemonic text => small text ++ "()"

/-- The Yul statement of one execution. -/
def yulStatement (s : Step) : Except Problem String := do
  if ← hasYulFunction s then
    let arguments := ", ".intercalate (s.operands.map yulOperand)
    let call := small s.mnemonic ++ "(" ++ arguments ++ ")"
    let drops ← s.pops
    if drops ≠ 0 then
      if ← s.isTerminal then return call
      return "pop(" ++ call ++ ")"
    else return call
  else verbatim (← bodyLines s)

end Gasometer.LoopProgram
