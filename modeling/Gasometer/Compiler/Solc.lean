import Gasometer.Compiler.Basic
import Gasometer.Setting
import Gasometer.Text.Case
import Gasometer.Text.Numeral

/-!
# The external compiler

Yul sources go through the program `solc`, which reads the source from its input. Of what it writes
the first line after the heading of the binary representation counts, blank lines apart.
-/
namespace Gasometer

/-- The settings of the external compiler. The time limit in seconds is kept as it is written. -/
structure Solc where
  path : String := "solc"
  evmVersion : String := "london"
  optimize : Bool := false
  timeout : String := "60.0"
  deriving DecidableEq, Repr, Inhabited

namespace Solc

def command (s : Solc) : List String :=
  [s.path, "--strict-assembly", "--evm-version", s.evmVersion, "--bin"] ++
    (if s.optimize then ["--optimize"] else []) ++ ["-"]

def firstLine? : List (List Char) → Option String
  | [] => none
  | line :: rest =>
    match Text.trim line with
    | [] => firstLine? rest
    | text => some (String.ofList (Text.lower text))

def heading : List Char := "Binary representation".toList

/-- The code in the lines of an output. -/
def codeAfterHeading? : List (List Char) → Option String
  | [] => none
  | line :: rest =>
    if Text.startsWith (Text.trim line) heading then
      match firstLine? rest with
      | some code => some code
      | none => codeAfterHeading? rest
    else codeAfterHeading? rest

def parseOutput? (output : String) : Option String :=
  codeAfterHeading? (Text.lines output.toList)

def listText (words : List String) : String :=
  "[" ++ ", ".intercalate (words.map Text.quote) ++ "]"

/-- What the result of the external program says about the source. -/
def judge (s : Solc) (source : String) : ToolResult → Except CompilationError String
  | .missing reason => .error { source := source, cause := some reason }
  | .timeout =>
    let text := "Command '" ++ listText s.command ++ "' timed out after " ++ s.timeout ++ " seconds"
    .error { source := source, cause := some text }
  | .ended code output errors =>
    if code ≠ 0 then
      let said := String.ofList (Text.trim errors.toList)
      let message := if said = "" then "solc exited with " ++ Text.decimal code else said
      .error { source := source, message := message }
    else match parseOutput? output with
      | none => .error { source := source, message := "no binary representation in solc output" }
      | some bytecode => .ok bytecode

def compiler {m : Type → Type} [Monad m] (host : Host m) (s : Solc) : Compiler m :=
  { name := "solc"
    dialect := .yul
    compile := fun source => do
      let result ← host.call ⟨s.command, source, s.timeout⟩
      match s.judge source result with
      | .error e => return .error (.report e)
      | .ok bytecode =>
        let count := bytecode.length / 2
        host.log ⟨.debug, .compiler, s!"solc produced {count} bytes"⟩
        return .ok bytecode }

end Solc

inductive CompilerChoice
  | assembler | solc
  deriving DecidableEq, Repr, Inhabited

namespace CompilerChoice

def name : CompilerChoice → String
  | assembler => "asm"
  | solc => "solc"

def ofName (name : String) : Except SettingError CompilerChoice :=
  match [assembler, solc].find? (·.name == name) with
  | some choice => .ok choice
  | none => .error (.compiler name)

def compiler {m : Type → Type} [Monad m] (host : Host m) : CompilerChoice → Compiler m
  | assembler => Compiler.assembler
  | solc => Solc.compiler host {}

end CompilerChoice
end Gasometer
