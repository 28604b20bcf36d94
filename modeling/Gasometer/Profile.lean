import Gasometer.Host.Basic
import Gasometer.Setting

/-!
# Profiles

A profile holds the settings of a sweep. Settings come from the environment and are overridden one
by one; the numbers among them must be positive.
-/
namespace Gasometer

/-- The settings of a sweep. Without categories or names of steps there is no such filter. -/
structure Profile where
  gasLimit : Int := 100000
  gasMultiplier : Int := 300
  sizeLimit : Int := 24576
  cacheCapacity : Int := 30000
  cacheMaxSize? : Option Int := none
  categories? : Option (List String) := none
  steps? : Option (List String) := none
  compiler : String := "asm"
  verbose : Bool := false
  deriving DecidableEq, Repr, Inhabited

structure Overrides where
  gasLimit? : Option Int := none
  gasMultiplier? : Option Int := none
  sizeLimit? : Option Int := none
  cacheCapacity? : Option Int := none
  cacheMaxSize? : Option Int := none
  categories? : Option (List String) := none
  steps? : Option (List String) := none
  compiler? : Option String := none
  verbose? : Option Bool := none
  deriving DecidableEq, Repr, Inhabited

namespace Profile

def initialGas (p : Profile) : Int := p.gasLimit * p.gasMultiplier

def positives (p : Profile) : List (String × Int) :=
  [("gas_limit", p.gasLimit), ("gas_multiplier", p.gasMultiplier), ("size_limit", p.sizeLimit),
    ("cache_capacity", p.cacheCapacity)]

def check (p : Profile) : Except SettingError Profile :=
  match p.positives.find? (·.2 < 1) with
  | some (field, value) => .error (.notPositive field value)
  | none => .ok p

def apply (p : Profile) (o : Overrides) : Profile :=
  { gasLimit := o.gasLimit?.getD p.gasLimit
    gasMultiplier := o.gasMultiplier?.getD p.gasMultiplier
    sizeLimit := o.sizeLimit?.getD p.sizeLimit
    cacheCapacity := o.cacheCapacity?.getD p.cacheCapacity
    cacheMaxSize? := o.cacheMaxSize?.or p.cacheMaxSize?
    categories? := o.categories?.or p.categories?
    steps? := o.steps?.or p.steps?
    compiler := o.compiler?.getD p.compiler
    verbose := o.verbose?.getD p.verbose }

def override (p : Profile) (o : Overrides) : Except SettingError Profile := (p.apply o).check

abbrev Environment := String → Option String

/-- The value of a variable; an empty one counts as missing. -/
def readVariable (env : Environment) (variable_ : String) : Except SettingError (Option Int) :=
  match env variable_ with
  | none | some "" => .ok none
  | some text =>
    match Text.parseInt .marked text with
    | .ok n => .ok (some n)
    | .error _ => .error (.notInteger variable_ text)

def readRecord (field : String) (value : Int) : LogRecord :=
  ⟨.debug, .config, field ++ "=" ++ Text.decimal value ++ " from environment"⟩

/-- The variables of the environment: their names, the names of the settings, and how a value is
put in. -/
def settings : List (String × String × (Overrides → Int → Overrides)) :=
  [("CARTEVM_GAS_LIMIT", "gas_limit", fun o n => { o with gasLimit? := some n }),
    ("CARTEVM_GAS_MULTIPLIER", "gas_multiplier", fun o n => { o with gasMultiplier? := some n }),
    ("CARTEVM_SIZE_LIMIT", "size_limit", fun o n => { o with sizeLimit? := some n })]

/-- Reads variables one after the other, up to the first that is refused, with what is logged. -/
def readVariables (env : Environment) :
    List (String × String × (Overrides → Int → Overrides)) → Overrides →
      List LogRecord × Except SettingError Overrides
  | [], o => ([], .ok o)
  | (variable_, field, put) :: rest, o =>
    match readVariable env variable_ with
    | .error e => ([], .error e)
    | .ok none => readVariables env rest o
    | .ok (some n) =>
      let (records, result) := readVariables env rest (put o n)
      (readRecord field n :: records, result)

/-- A profile from the environment and from new values, which come last. -/
def fromEnvironment {m : Type → Type} [Monad m] (host : Host m) (env : Environment)
    (o : Overrides) : m (Except SettingError Profile) := do
  let (records, values) := readVariables env settings {}
  records.forM host.log
  return do (apply {} (← values)).override o

end Profile
end Gasometer
