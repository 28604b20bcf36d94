import Gasometer.Compiler.Basic
import Gasometer.LoopProgram.Body

/-!
# The shape of a loop

How often the body of a loop is repeated within one pass, and how many passes are made. As many
bodies go into a pass as fit into the greatest size of a program and the gas limit, and as many
passes are made as the gas limit pays for; neither number is ever below one.
-/
namespace Gasometer.LoopProgram

-- The empty sum is the zero of the core library, also where Mathlib offers its own.
attribute [local instance (high)] Zero.ofOfNat0

structure Limits where
  gasLimit : Int := 100000
  sizeLimit : Int := 24576
  maxUnroll : Int := 64
  dialect : Dialect := .asm
  deriving DecidableEq, Repr, Inhabited

/-- The bytes of a program besides its bodies: the counter, the jump back, and the end. -/
def loopBytes : Nat := 5 + 1 + 2 + 1 + 1 + 1 + 3 + 1 + 1 + 1

def loopGas : Int := 1 + 3 + 3 + 3 + 3 + 3 + 10

/-- The greatest number of passes: the counter has four bytes. -/
def maxPasses : Int := 0xffffffff

def Limits.create (gasLimit sizeLimit maxUnroll : Int) (dialect : String) :
    Except SettingError Limits :=
  if gasLimit < 1 then .error .gasLimit
  else if sizeLimit < loopBytes + 1 then .error (.sizeLimit (loopBytes + 1))
  else match Dialect.ofName? dialect with
    | none => .error (.dialect dialect)
    | some d => .ok ⟨gasLimit, sizeLimit, max 1 maxUnroll, d⟩

/-- How often the body stands in a pass, and how many passes there are. -/
structure Shape where
  outer : Int
  unroll : Int
  one_le_outer : 1 ≤ outer
  one_le_unroll : 1 ≤ unroll
  deriving DecidableEq, Repr

def Shape.total (s : Shape) : Int := s.outer * s.unroll

theorem Shape.one_le_total (s : Shape) : 1 ≤ s.total :=
  Int.mul_pos s.one_le_outer s.one_le_unroll

def preambleLineSize (line : String) : Except Problem Int := do
  let cs := line.toList
  if Text.startsWith cs ['P', 'U', 'S', 'H'] then
    match (Text.words cs)[1]? with
    | none => throw (.fault .listIndex)
    | some word =>
      return pushSize (← (Text.parseInt .marked (String.ofList word) : Except Fault Int))
  else return 1

def preambleSize (s : Step) : Except Problem Int := return (← s.preamble.mapM preambleLineSize).sum

/-- The shape for a body of this size and price, in a program with this much room. -/
def shapeOf (limits : Limits) (room size gas : Int) : Shape :=
  let gas := max 1 gas
  let fitting := min limits.maxUnroll (min (room / max 1 size) (limits.gasLimit / gas))
  let unroll := max 1 fitting
  let outer := min (max 1 (limits.gasLimit / (unroll * gas + loopGas))) maxPasses
  ⟨outer, unroll, by simp only [outer, maxPasses]; omega, by simp only [unroll]; omega⟩

def loopShape (limits : Limits) (s : Step) : Except Problem Shape := do
  let preamble ← preambleSize s
  let gas ← bodyGas s
  let size ← bodySize s
  return shapeOf limits (limits.sizeLimit - loopBytes - preamble) size gas

end Gasometer.LoopProgram
