import Gasometer.Cli.Request
import Gasometer.Cli.Session
import Gasometer.Report.Document
import Gasometer.Report.Sheet

/-!
# What the commands do

One command runs a sweep and reports it, one lists the catalog, and one shows the program of a
step.
-/
namespace Gasometer.Cli

open Session

variable {m : Type → Type} [Monad m]

def showSection (o : Outside m) (s : Section) : m (Except Problem Unit) :=
  match Report.lines o.terminal.width s true with
  | .ok lines => do
    lines.forM o.terminal.print
    return .ok ()
  | .error p => return .error p

/-- Runs the sweep that was asked for, and shows each section unless the report goes to the
terminal. Nothing comes back if no step is selected. -/
def sweep (o : Outside m) (r : RunRequest) : ExceptT Problem m (Option (List Section)) := do
  let profile ← profile o r.overrides
  let (runner, desk) ← part ((Sweep.prepare o.host profile none none).mapError .setting)
  let steps ← part (Sweep.selected profile)
  if steps.isEmpty then return none
  let show_ (s : Section) : m (Except Problem Unit) :=
    if r.file? = some "-" then return .ok () else showSection o s
  let (result, _) ← ExceptT.lift (StateT.run (ExceptT.run (Sweep.run o.host runner show_)) desk)
  let sections ← part result
  return some sections

/-- Delivers the report of a sweep to the terminal or to a file. A report that cannot be written
down leaves an empty file behind. -/
def deliver (o : Outside m) (path : String) (sections : List Section) : Session m Unit := do
  let text := (Report.document (some 2) sections).mapError Problem.fault
  if path = "-" then
    print o (← attempt text)
  else if path ≠ "" then
    match ← ExceptT.lift (o.terminal.write path (text.toOption.getD "")) with
    | .error e => throw (.file e)
    | .ok () =>
      let _ ← attempt text
      say o ("JSON report written to " ++ path)

def run (o : Outside m) (r : RunRequest) : Session m Unit := do
  match ← ExceptT.lift (sweep o r).run with
  | .error p => giveUp o p
  | .ok none => say o "[yellow]No steps match the given filters[/yellow]"
  | .ok (some sections) => deliver o (r.file?.getD "") sections

def operandText : StepOperand → String
  | .number n => Text.markedHex n
  | .mnemonic text => text

def listRow (s : Step) : Except Problem (List String) :=
  return [s.displayName, s.category,
    "0x" ++ String.ofList (Text.hexDigits 2 (← s.opcode).code),
    ", ".intercalate (s.operands.map operandText)]

def listGrid (category : String) : Except Problem Grid := do
  let steps := Catalog.steps.filter fun s => category = "" || s.category = category
  return { title := "Steps", columns := [⟨"Name", "", .left⟩, ⟨"Category", "", .left⟩,
             ⟨"Opcode", "", .left⟩, ⟨"Operands", "", .left⟩], rows := ← steps.mapM listRow }

def list (o : Outside m) (category? : Option String) : Session m Unit := do
  let category := category?.getD ""
  if category ≠ "" ∧ category ∉ Catalog.categories then
    say o ("[bold red]Unknown category:[/bold red] " ++ category)
    say o ("Known categories: " ++ ", ".intercalate Catalog.categories)
    throw (.code 1)
  let grid ← attempt (listGrid category)
  let lines ← attempt ((grid.lines o.terminal.width).mapError .markup)
  lines.forM (print o)

structure Compiled where
  step : Step
  code : GeneratedCode
  bytecode : String

def compiled (o : Outside m) (r : CompileRequest) (name : String) : ExceptT Problem m Compiled := do
  let profile ← profile o r.overrides
  let step ← part (Catalog.find name)
  let compiler := r.compiler.compiler o.host
  let limits := LoopProgram.Limits.create profile.gasLimit profile.sizeLimit
    ({} : LoopProgram.Limits).maxUnroll compiler.dialect.name
  let limits ← part (limits.mapError .setting)
  let code ← ExceptT.mk (LoopProgram.generate o.host limits step)
  match ← ExceptT.lift (compiler.compile code.source) with
  | .error rejection => throw (.compilation (rejection.toError code.source))
  | .ok bytecode => return ⟨step, code, bytecode⟩

def numbered (source : String) : List String :=
  let lines := source.splitOn "\n"
  let width := (Nat.toDigits 10 lines.length).length
  lines.mapIdx fun k line =>
    let number := String.ofList (Nat.toDigits 10 (k + 1))
    Grid.pad .right width number ++ " " ++ line

def compile (o : Outside m) (r : CompileRequest) (name : String) : Session m Unit := do
  match ← ExceptT.lift (compiled o r name).run with
  | .error (.compilation e) => complain o "Compilation failed" e.text
  | .error p => giveUp o p
  | .ok c =>
    say o ("[bold blue]" ++ c.step.displayName ++ "[/bold blue] (" ++
      Text.decimal c.code.totalLoops ++ " loops)")
    (numbered c.code.source).forM (print o)
    print o c.bytecode

end Gasometer.Cli
