import Gasometer.Assembly.Instruction
import Gasometer.Bytes
import Gasometer.Text.Numeral

/-!
# Widths and places

The layout of a program gives every label the place of its jump destination. A push of a label has
two bytes unless it says otherwise; a push of a number has the stated width, or the least that
holds the number.
-/
namespace Gasometer.Assembly

-- Powers are those of the core library, also where Mathlib offers its own.
attribute [local instance (high)] instPowNat

def isHexLiteral (text : String) : Bool :=
  match text.toList with
  | '0' :: x :: _ => x == 'x' || x == 'X'
  | _ => false

def number (base : Text.Base) (text : String) : Except AssemblyError Int :=
  (Text.parseInt base text).mapError .fault

/-- The value of a literal, which must be a word. -/
def literalValue (text : String) : Except AssemblyError Int := do
  let value ← number (if isHexLiteral text then .sixteen else .ten) text
  if value < 0 ∨ 2 ^ (256 : Nat) ≤ value then throw (.operandRange text)
  return value

/-- The width of a label push that states none. -/
def labelWidth : Int := 2

/-- The number of bytes that a push puts after its operation. -/
def pushWidth (width : String) (operand : Operand) : Except AssemblyError Int :=
  match operand with
  | .label _ => if width = "" then .ok labelWidth else number .ten width
  | .literal text =>
    if width = "" then do
      let value ← literalValue text
      return (max 1 (Bytes.widthOf value.toNat) : Nat)
    else do
      let n ← number .ten width
      if 1 ≤ n ∧ n ≤ 32 then return n
      throw (.pushWidth width)

def Instruction.size : Instruction → Except AssemblyError Int
  | .push width operand => (pushWidth width operand).map (1 + ·)
  | .label _ | .plain _ => .ok 1

abbrev Labels := List (String × Int)

/-- Lays out lines from a place on, after the labels found so far. -/
def layOut (labels : Labels) (place : Int) : List Line → Except AssemblyError Labels
  | [] => .ok labels
  | ⟨line, instruction⟩ :: rest =>
    match instruction with
    | .label name =>
      if (labels.lookup name).isSome then .error (.duplicateLabel line name)
      else layOut ((name, place) :: labels) (place + 1) rest
    | i => do
      let size ← i.size
      layOut labels (place + size) rest

def layout (lines : List Line) : Except AssemblyError Labels := layOut [] 0 lines

end Gasometer.Assembly
