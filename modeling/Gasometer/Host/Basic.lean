import Gasometer.Assembly.Error

/-!
# The host

What a benchmark needs from outside: a clock, a log, and the external compiler. A `Host m` offers
these in a monad `m`; everything that uses them is written for every host.
-/
namespace Gasometer

inductive LogLevel
  | debug | info | warning | error
  deriving DecidableEq, Repr, Inhabited

def LogLevel.name : LogLevel → String
  | debug => "DEBUG"
  | info => "INFO"
  | warning => "WARNING"
  | error => "ERROR"

inductive Logger
  | config | generator | cache | runner | driver | metrics | compiler
  deriving DecidableEq, Repr, Inhabited

def Logger.name : Logger → String
  | config => "cartevm.config"
  | generator => "cartevm.generator"
  | cache => "cartevm.cache"
  | runner => "cartevm.runner"
  | driver => "cartevm.driver"
  | metrics => "cartevm.metrics"
  | compiler => "cartevm.compiler"

structure LogRecord where
  level : LogLevel
  logger : Logger
  message : String
  deriving DecidableEq, Repr, Inhabited

structure ToolCall where
  words : List String
  input : String
  timeout : String
  deriving DecidableEq, Repr, Inhabited

inductive ToolResult
  /-- It ended with a code, and wrote two texts. -/
  | ended (code : Int) (output errors : String)
  /-- It did not start, for this reason. -/
  | missing (reason : String)
  /-- It took too long. -/
  | timeout
  deriving DecidableEq, Repr, Inhabited

/-- What is needed from outside. -/
structure Host (m : Type → Type) where
  /-- Does something and tells how many nanoseconds it took. -/
  timed : {α : Type} → (Unit → m α) → m (α × Int)
  /-- Writes to the log. -/
  log : LogRecord → m Unit
  /-- Calls an external program. -/
  call : ToolCall → m ToolResult

end Gasometer
