import Gasometer.Text.Numeral

/-!
# Settings

Why a setting is refused. A setting error is worded by `SettingError.message`.
-/
namespace Gasometer

inductive SettingError
  /-- The factor between gas limit and initial gas is below one. -/
  | gasMultiplier
  /-- The gas limit of generated programs is below one. -/
  | gasLimit
  /-- Generated programs may not even be as long as this. -/
  | sizeLimit (least : Nat)
  /-- The cache may not hold a single program. -/
  | cacheBound
  /-- A field of a profile is below one. -/
  | notPositive (field : String) (value : Int)
  /-- A variable of the environment holds no integer. -/
  | notInteger (variable_ : String) (text : String)
  /-- No dialect has this name. -/
  | dialect (name : String)
  /-- No compiler has this name. -/
  | compiler (name : String)
  /-- A program is said to loop less than once. -/
  | totalLoops (count : Int)
  deriving DecidableEq, Repr, Inhabited

/-- A message that ends with a number. If the number is too long to be written, the fault of that is
the message instead. -/
def SettingError.withNumber (text : String) (n : Int) : String :=
  match Text.decimal? n with
  | .ok number => text ++ number
  | .error fault => fault.message

def SettingError.message : SettingError → String
  | gasMultiplier => "gas_multiplier must be positive"
  | gasLimit => "gas_limit must be positive"
  | sizeLimit least => s!"size_limit must be at least {least} bytes"
  | cacheBound => "max_size must be positive or None"
  | notPositive field value => withNumber (field ++ " must be positive, got ") value
  | notInteger variable_ text => variable_ ++ " must be an integer, got " ++ Text.quote text
  | dialect name => "Unknown dialect: " ++ name
  | compiler name => "Unknown compiler: " ++ name
  | totalLoops count => withNumber "total_loops must be >= 1, got " count

end Gasometer
