import Gasometer.Opcode.Info
import Gasometer.Opcode.Mnemonic
import Gasometer.Problem

/-!
# Steps

A step is an operation to be measured, with the operands to push before it, the uppermost first,
and the number of results to drop after it. The name of a step need not be the mnemonic of its
operation.
-/
namespace Gasometer

inductive StepOperand
  | number (n : Int)
  | mnemonic (text : String)
  deriving DecidableEq, Repr, Inhabited

/-- An operation to be measured. `gasHint` estimates what it costs besides its static price, and
`preamble` holds assembly lines to run once beforehand. -/
structure Step where
  name : String
  category : String
  operands : List StepOperand := []
  mnemonic? : Option String := none
  outputs? : Option Int := none
  immediate? : Option Int := none
  preamble : List String := []
  gasHint : Int := 0
  deriving DecidableEq, Repr, Inhabited

namespace Step

def mnemonic (s : Step) : String :=
  match s.mnemonic? with
  | none | some "" => s.name
  | some text => text

def lookUp (mnemonic : String) : Except Problem Opcode :=
  (Opcode.ofMnemonic mnemonic).mapError .unknownMnemonic

def opcode (s : Step) : Except Problem Opcode := lookUp s.mnemonic

def resultsOf (op : Opcode) : Int := (op.info?.map fun i => Int.ofNat i.outputs).getD 0

/-- The number of items to drop after the operation. -/
def pops (s : Step) : Except Problem Int :=
  match s.outputs? with
  | some n => .ok n
  | none => s.opcode.map resultsOf

def priceOf (op : Opcode) : Int := (op.info?.map (·.gas)).getD 0

def staticGas (s : Step) : Except Problem Int := s.opcode.map priceOf

/-- Whether the operation ends the frame, so that it cannot be repeated. -/
def isTerminal (s : Step) : Except Problem Bool := s.opcode.map Opcode.isTerminating

def displayName (s : Step) : String :=
  String.ofList (Text.replace ['_', '_'] [' '] s.name.toList)

end Step
end Gasometer
