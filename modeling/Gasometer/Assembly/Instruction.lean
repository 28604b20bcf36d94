import Gasometer.Assembly.Error
import Gasometer.Opcode.Mnemonic

/-!
# Assembly lines

A line holds a label, a push with its operand, or another operation; a comment begins with `;` or
`//`. A push may state its width in bytes, and its operand is a number or the name of a label.
-/
namespace Gasometer.Assembly

inductive Operand
  | label (name : String)
  | literal (text : String)
  deriving DecidableEq, Repr, Inhabited

/-- What a line says. The width of a push is kept as it is written; it may be missing. -/
inductive Instruction
  | label (name : String)
  | push (width : String) (operand : Operand)
  | plain (op : Opcode)
  deriving DecidableEq, Repr

structure Line where
  number : Nat
  instruction : Instruction
  deriving DecidableEq, Repr

def isNameStart (c : Char) : Bool := c.isAlpha || c == '_'

def isNamePart (c : Char) : Bool := c.isAlphanum || c == '_'

def labelOf? (line : List Char) : Option (List Char) :=
  match line.reverse with
  | ':' :: r =>
    match r.reverse with
    | c :: cs => if isNameStart c && cs.all isNamePart then some (c :: cs) else none
    | [] => none
  | _ => none

/-- The width after the letters `PUSH`, in any case. The long s is a form of the letter too. -/
def pushWidth? (mnemonic : List Char) : Option (List Char) :=
  match mnemonic with
  | p :: u :: s :: h :: width =>
    if (p == 'P' || p == 'p') && (u == 'U' || u == 'u') && (s == 'S' || s == 's' || s == 'ſ') &&
        (h == 'H' || h == 'h') && width.all Char.isDigit then some width
    else none
  | _ => none

def stripComment (line : List Char) : List Char :=
  Text.trim (Text.before ['/', '/'] (Text.before [';'] line))

/-- The operand of a push: a name after an at sign, or else a number. -/
def Operand.ofChars : List Char → Operand
  | '@' :: name => .label (String.ofList name)
  | text => .literal (String.ofList text)

def instructionOf (number : Nat) (mnemonic : List Char) (operands : List (List Char)) :
    Except AssemblyError Instruction :=
  match pushWidth? mnemonic, operands with
  | some width, [operand] => .ok (.push (String.ofList width) (Operand.ofChars operand))
  | some _, _ => .error (.pushOperands number)
  | none, _ :: _ => .error (.strayOperand number (String.ofList mnemonic))
  | none, [] =>
    match Opcode.ofMnemonic (String.ofList mnemonic) with
    | .ok op => .ok (.plain op)
    | .error _ => .error (.unknownMnemonic number (String.ofList mnemonic))

/-- Reads a line; a line without an instruction gives nothing. -/
def readLine (number : Nat) (raw : List Char) : Except AssemblyError (Option Line) :=
  let line := stripComment raw
  match labelOf? line, Text.words line with
  | some name, _ => .ok (some ⟨number, .label (String.ofList name)⟩)
  | none, [] => .ok none
  | none, mnemonic :: operands =>
    (instructionOf number mnemonic operands).map fun i => some ⟨number, i⟩

def readLines (number : Nat) : List (List Char) → Except AssemblyError (List Line)
  | [] => .ok []
  | raw :: rest =>
    match readLine number raw with
    | .error e => .error e
    | .ok none => readLines (number + 1) rest
    | .ok (some line) => (readLines (number + 1) rest).map (line :: ·)

def read (source : String) : Except AssemblyError (List Line) :=
  readLines 1 (Text.lines source.toList)

end Gasometer.Assembly
