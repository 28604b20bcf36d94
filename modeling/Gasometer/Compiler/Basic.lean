import Gasometer.Assembly.Program
import Gasometer.Host.Basic

/-!
# Compilers

A compiler turns a source text of its dialect into hexadecimal code, or rejects it. Most rejections
are reports about the source; any other failure is known by its text only.
-/
namespace Gasometer

inductive Dialect
  | asm | yul
  deriving DecidableEq, Repr, Inhabited

namespace Dialect

def name : Dialect → String
  | asm => "asm"
  | yul => "yul"

def ofName? (name : String) : Option Dialect := [asm, yul].find? (·.name == name)

end Dialect

inductive Rejection
  | report (error : CompilationError)
  | other (text : String)
  deriving DecidableEq, Repr, Inhabited

def Rejection.toError (source : String) : Rejection → CompilationError
  | report e => e
  | other text => { source := source, cause := some text }

/-- A compiler that works in the monad `m`. -/
structure Compiler (m : Type → Type) where
  name : String
  dialect : Dialect
  compile : String → m (Except Rejection String)

def Compiler.assembler {m : Type → Type} [Monad m] : Compiler m :=
  { name := "asm"
    dialect := .asm
    compile := fun source => pure ((Assembly.compile source).mapError .report) }

end Gasometer
