import Gasometer.Host.Terminal
import Gasometer.Profile
import Gasometer.Problem
import Gasometer.Text.Wrap

/-!
# Sessions at the command line

A session ends with a code or is broken off. Problems with what was asked for are printed and end it
with code one; any other problem breaks it off.
-/
namespace Gasometer.Cli

inductive Ending
  | code (n : Nat)
  | problem (problem : Problem)
  | file (error : FileError)
  deriving DecidableEq, Repr, Inhabited

/-- What a session finds around it. -/
structure Outside (m : Type → Type) where
  host : Host m
  terminal : Terminal m
  environment : Profile.Environment

abbrev Session (m : Type → Type) := ExceptT Ending m

def isPrinted : Problem → Bool
  | .fault f => f.isBadValue
  | .setting _ | .unknownStep _ | .compilation _ => true
  | .markup (.colour fault) => fault.isBadValue
  | .unknownMnemonic _ | .markup _ => false

variable {m : Type → Type} [Monad m]

namespace Session

def print (o : Outside m) (text : String) : Session m Unit := ExceptT.lift (o.terminal.print text)

def say (o : Outside m) (text : String) : Session m Unit :=
  match Markup.plainText text with
  | .ok plain => print o ("\n".intercalate (Text.wrap o.terminal.width .fold plain))
  | .error e => throw (.problem (.markup e))

def complain (o : Outside m) (heading message : String) : Session m Unit := do
  say o ("[bold red]" ++ heading ++ ":[/bold red] " ++ message)
  throw (.code 1)

def giveUp (o : Outside m) (p : Problem) : Session m Unit :=
  if isPrinted p then complain o "Error" p.message else throw (.problem p)

def attempt {α : Type} (result : Except Problem α) : Session m α :=
  match result with
  | .ok x => pure x
  | .error p => throw (.problem p)

end Session

def part {α : Type} (result : Except Problem α) : ExceptT Problem m α := ExceptT.mk (pure result)

def profile (o : Outside m) (overrides : Overrides) : ExceptT Problem m Profile := do
  let result ← ExceptT.lift (Profile.fromEnvironment o.host o.environment overrides)
  part (result.mapError .setting)

end Gasometer.Cli
