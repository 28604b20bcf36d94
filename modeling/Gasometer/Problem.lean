import Gasometer.Assembly.Error
import Gasometer.Report.Markup
import Gasometer.Setting

/-!
# Problems

Everything that can keep a measurement from happening or from being reported. What a measured
program does is never a problem.
-/
namespace Gasometer

inductive Problem
  /-- A value does not fit. -/
  | fault (fault : Fault)
  /-- A setting is refused. -/
  | setting (error : SettingError)
  /-- No operation has this name. -/
  | unknownMnemonic (name : String)
  /-- No step of the catalog has this name. -/
  | unknownStep (name : String)
  /-- A source is not compiled. -/
  | compilation (error : CompilationError)
  /-- A text that is shown is not marked up well. -/
  | markup (error : MarkupError)
  deriving DecidableEq, Repr, Inhabited

def Problem.message : Problem → String
  | fault f => f.message
  | setting e => e.message
  | unknownMnemonic name => Text.quote name
  | unknownStep name => "Unknown step: '" ++ name ++ "'"
  | compilation e => e.text
  | markup e => e.message

instance : MonadLift (Except Fault) (Except Problem) := ⟨Except.mapError .fault⟩

instance : MonadLift (Except SettingError) (Except Problem) := ⟨Except.mapError .setting⟩

instance : MonadLift (Except CompilationError) (Except Problem) := ⟨Except.mapError .compilation⟩

instance : MonadLift (Except MarkupError) (Except Problem) := ⟨Except.mapError .markup⟩

end Gasometer
