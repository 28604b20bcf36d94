import Gasometer.Cli.Action

/-!
# The command line

A command line names a command and gives it options. Wrong use of it is answered with the reason and
mostly a hint, and ends the session with code two.
-/
namespace Gasometer.Cli

open Session

variable {m : Type → Type} [Monad m]

/-- Prints why the words of a command line are refused, and ends the session. A value that is unfit
for its option breaks it off. -/
def refuse (o : Outside m) (path usage : String) (e : UsageError) : Session m Unit := do
  if let .badValue _ (.unfit fault) := e then throw (.problem (.fault fault))
  if e.hasHint then
    print o ("Usage: " ++ usage)
    print o ("Try '" ++ path ++ " --help' for help.")
    print o ""
  print o ("Error: " ++ e.message)
  throw (.code 2)

def help (o : Outside m) (usage : String) (options : List String) : Session m Unit := do
  print o ("Usage: " ++ usage)
  print o ""
  print o "Options:"
  options.forM fun option => print o ("  " ++ option)

def perform {α : Type} (o : Outside m) (c : Command m α) (words : List String)
    (act : α → String → Session m Unit) : Session m Unit := do
  match ← ExceptT.lift (c.read words).run with
  | .error e => refuse o ("cli " ++ c.name) c.usage e
  | .ok none => help o c.usage (c.options.map (·.long) ++ [helpShape.long])
  | .ok (some (request, word)) => act request word

def usage : String := "cli [OPTIONS] COMMAND [ARGS]..."

def versionShape : OptionShape := { long := "--version", takesValue := false }

def programShapes : List OptionShape := [versionShape, helpShape]

def commandNames : List String := ["run", "list", "compile"]

def inform (o : Outside m) (name : String) : Session m Unit :=
  if name = versionShape.long then print o "CartEVM, version 0.1.0"
  else help o usage (programShapes.map (·.long))

/-- Answers words of which the first names no command. They may stand after `--`, so they are read
once more as options before they are refused. -/
def mistaken (o : Outside m) (word : String) (rest : List String) : Session m Unit :=
  match readWords programShapes false (word :: rest) with
  | .error e => refuse o "cli" usage e
  | .ok ((name, _) :: _, _) => inform o name
  | .ok ([], _) => refuse o "cli" usage (.noSuchCommand word (Text.similar word commandNames))

def follow (o : Outside m) (words : List String) : Session m Unit := do
  match readWords programShapes false words with
  | .error e => refuse o "cli" usage e
  | .ok ((name, _) :: _, _) => inform o name
  | .ok ([], "run" :: rest) => perform o (runCommand o.terminal) rest fun r _ => run o r
  | .ok ([], "list" :: rest) => perform o listCommand rest fun category _ => list o category
  | .ok ([], "compile" :: rest) => perform o compileCommand rest (compile o)
  | .ok ([], word :: rest) => mistaken o word rest
  | .ok ([], []) =>
    if words.isEmpty then
      help o usage (programShapes.map (·.long))
      throw (.code 2)
    else refuse o "cli" usage .missingCommand

def session (o : Outside m) (words : List String) : m Ending := do
  match ← (follow o words).run with
  | .ok () => return .code 0
  | .error ending => return ending

end Gasometer.Cli
