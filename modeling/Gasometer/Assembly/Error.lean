import Gasometer.Fault
import Gasometer.Text.Blank

/-!
# Why a program is not compiled

`AssemblyError` lists what can be wrong with an assembly text. A `CompilationError` is the report
of any failed compilation: it carries the source, and shows its first line.
-/
namespace Gasometer

inductive AssemblyError
  /-- A push has no operand, or more than one. -/
  | pushOperands (line : Nat)
  /-- An operation other than a push has an operand. -/
  | strayOperand (line : Nat) (mnemonic : String)
  /-- No operation has this name. -/
  | unknownMnemonic (line : Nat) (mnemonic : String)
  /-- A label is defined twice. -/
  | duplicateLabel (line : Nat) (name : String)
  /-- A label is pushed and nowhere defined. -/
  | undefinedLabel (line : Nat) (name : String)
  /-- A literal is no word. -/
  | operandRange (literal : String)
  /-- A push of a literal has a width outside `1` to `32`. -/
  | pushWidth (width : String)
  /-- A number cannot be read, or does not fit its width. -/
  | fault (fault : Fault)
  deriving DecidableEq, Repr, Inhabited

/-- The wording of an error. Errors about names are quoted. -/
def AssemblyError.message : AssemblyError → String
  | pushOperands line => s!"line {line}: PUSH needs exactly one operand"
  | strayOperand line mnemonic => s!"line {line}: {mnemonic} takes no operand"
  | unknownMnemonic line mnemonic => Text.quote s!"line {line}: unknown mnemonic '{mnemonic}'"
  | duplicateLabel line name => s!"line {line}: duplicate label '{name}'"
  | undefinedLabel line name => Text.quote s!"line {line}: undefined label '{name}'"
  | operandRange literal => "push operand out of range: " ++ literal
  | pushWidth width => "invalid push width PUSH" ++ width
  | fault f => f.message

structure CompilationError where
  source : String
  cause : Option String := none
  message : String := ""
  deriving DecidableEq, Repr, Inhabited

namespace CompilationError

def detail (e : CompilationError) : String :=
  if e.message ≠ "" then e.message else e.cause.getD "compilation failed"

def preview (e : CompilationError) : String :=
  match Text.lines (Text.trim e.source.toList) with
  | [] => "<empty source>"
  | line :: _ => String.ofList line

def text (e : CompilationError) : String :=
  "Compilation failed: " ++ e.detail ++ " (source starts with " ++ Text.quote e.preview ++ ")"

end CompilationError
end Gasometer
