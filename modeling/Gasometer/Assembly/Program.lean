import Gasometer.Assembly.Layout

/-!
# Assembled programs

A text is read, its labels are placed, and its instructions are written one after the other. A text
with more than one fault is refused for the first one met in this order.
-/
namespace Gasometer.Assembly

def operandValue (labels : Labels) (line : Nat) : Operand → Except AssemblyError Int
  | .literal text => literalValue text
  | .label name =>
    match labels.lookup name with
    | some place => .ok place
    | none => .error (.undefinedLabel line name)

def pushByte (width : Int) : Except AssemblyError UInt8 :=
  let n := 0x5f + width
  if 0 ≤ n ∧ n < 256 then .ok (UInt8.ofNat n.toNat) else .error (.fault .byteRange)

def emitLine (labels : Labels) (line : Line) : Except AssemblyError Bytes :=
  match line.instruction with
  | .label _ => .ok #[Opcode.jumpdest.byte]
  | .plain op => .ok #[op.byte]
  | .push width operand => do
    let w ← pushWidth width operand
    let value ← operandValue labels line.number operand
    let op ← pushByte w
    let data ← (Bytes.ofInt w.toNat value).mapError .fault
    return #[op] ++ data

def emit (labels : Labels) (lines : List Line) : Except AssemblyError Bytes :=
  lines.foldlM (fun done line => (emitLine labels line).map (done ++ ·)) #[]

def assemble (source : String) : Except AssemblyError Bytes := do
  let lines ← read source
  let labels ← layout lines
  emit labels lines

def compile (source : String) : Except CompilationError String :=
  match assemble source with
  | .ok code => .ok code.toHex
  | .error e => .error { source := source, cause := some e.message }

end Gasometer.Assembly
