import Gasometer.Cli.Words
import Gasometer.Host.Terminal
import Gasometer.Profile
import Gasometer.Compiler.Solc

/-!
# What a command is asked for

Each command has options of its own, and they fill in a request. Options are taken in the order in
which they are given first; of several values for one option the last one counts, unless the option
collects them.
-/
namespace Gasometer.Cli

variable {m : Type → Type} [Monad m] {α : Type}

/-- An option of a command: how it is written, and how its values are put into a request. -/
structure OptionRule (m : Type → Type) (α : Type) extends OptionShape where
  put : List String → α → ExceptT UsageError m α

/-- What a command takes: its options, the name of its plain word if it has one, and the request
without any option. -/
structure Command (m : Type → Type) (α : Type) where
  name : String
  options : List (OptionRule m α)
  argument? : Option String := none
  start : α

def helpShape : OptionShape := { long := "--help", takesValue := false }

def lastOf (values : List String) : String := values.getLast?.getD ""

def integerOption (long : String) (put : Int → α → α) : OptionRule m α :=
  { long := long
    put := fun values request =>
      let text := lastOf values
      match Text.parseInt .ten text with
      | .ok n => pure (put n request)
      | .error _ => throw (.badValue long (.notInteger text)) }

def textOption (long : String) (put : String → α → α) : OptionRule m α :=
  { long := long, put := fun values request => pure (put (lastOf values) request) }

def collectingOption (long : String) (put : List String → α → α) : OptionRule m α :=
  { long := long, put := fun values request => pure (put values request) }

def compilerOption (put : CompilerChoice → α → α) : OptionRule m α :=
  { long := "--compiler"
    put := fun values request =>
      let text := lastOf values
      match CompilerChoice.ofName text with
      | .ok choice => pure (put choice request)
      | .error _ =>
        let names := [CompilerChoice.assembler, .solc].map CompilerChoice.name
        throw (.badValue "--compiler" (.noChoice text names)) }

def fileOption (terminal : Terminal m) (long : String) (put : String → α → α) : OptionRule m α :=
  { long := long
    put := fun values request => do
      let path := lastOf values
      if path != "-" then
        if path.toList.contains '\x00' then throw (.badValue long (.unfit .zeroByte))
        if ← terminal.isFolder path then throw (.badValue long (.folder path))
      return put path request }

def switch (long : String) (short : Char) (put : α → α) : OptionRule m α :=
  { long := long, short? := some short, takesValue := false
    put := fun _ request => pure (put request) }

def Command.fill (c : Command m α) (given : Given) : ExceptT UsageError m α :=
  (given.map (·.1)).eraseDups.foldlM (fun request name =>
    match c.options.find? (·.long == name) with
    | some option => option.put ((given.filter (·.1 == name)).map (·.2)) request
    | none => pure request) c.start

def Command.plainWord (c : Command m α) (words : List String) : Except UsageError String :=
  match c.argument?, words with
  | none, [] => .ok ""
  | none, words => .error (.extraArguments words)
  | some name, [] => .error (.missingArgument name)
  | some _, [word] => .ok word
  | some _, _ :: words => .error (.extraArguments words)

/-- Reads the words of a command: the request and the plain word, or nothing if help is wanted. -/
def Command.read (c : Command m α) (words : List String) :
    ExceptT UsageError m (Option (α × String)) := do
  let shapes := c.options.map (·.toOptionShape) ++ [helpShape]
  let (given, plain) ← ExceptT.mk (pure (readWords shapes true words))
  if given.any (·.1 == helpShape.long) then return none
  let request ← c.fill given
  let word ← ExceptT.mk (pure (c.plainWord plain))
  return some (request, word)

def Command.usage (c : Command m α) : String :=
  "cli " ++ c.name ++ " [OPTIONS]" ++
    match c.argument? with
    | some name => " " ++ name
    | none => ""

structure RunRequest where
  overrides : Overrides := { compiler? := some "asm", verbose? := some false }
  file? : Option String := none
  deriving DecidableEq, Repr, Inhabited

def runCommand (terminal : Terminal m) : Command m RunRequest :=
  let set (f : Overrides → Overrides) (r : RunRequest) : RunRequest :=
    { r with overrides := f r.overrides }
  { name := "run"
    start := {}
    options := [
      integerOption "--gas-limit" fun n => set ({ · with gasLimit? := some n }),
      integerOption "--gas-multiplier" fun n => set ({ · with gasMultiplier? := some n }),
      integerOption "--size-limit" fun n => set ({ · with sizeLimit? := some n }),
      collectingOption "--category" fun l => set ({ · with categories? := some l }),
      collectingOption "--step" fun l => set ({ · with steps? := some l }),
      compilerOption fun c => set ({ · with compiler? := some c.name }),
      fileOption terminal "--json" fun path r => { r with file? := some path },
      switch "--verbose" 'v' (set ({ · with verbose? := some true }))] }

def listCommand : Command m (Option String) :=
  { name := "list"
    start := none
    options := [textOption "--category" fun category _ => some category] }

structure CompileRequest where
  overrides : Overrides := {}
  compiler : CompilerChoice := .assembler
  deriving DecidableEq, Repr, Inhabited

def compileCommand : Command m CompileRequest :=
  let set (f : Overrides → Overrides) (r : CompileRequest) : CompileRequest :=
    { r with overrides := f r.overrides }
  { name := "compile"
    argument? := some "STEP_NAME"
    start := {}
    options := [
      integerOption "--gas-limit" fun n => set ({ · with gasLimit? := some n }),
      integerOption "--size-limit" fun n => set ({ · with sizeLimit? := some n }),
      compilerOption fun c r => { r with compiler := c }] }

end Gasometer.Cli
