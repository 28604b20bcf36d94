import Gasometer.ArtifactCache
import Gasometer.Compiler.Solc
import Gasometer.Execution.Meter
import Gasometer.LoopProgram.Source
import Gasometer.Profile
import Gasometer.Step.Catalog
import Gasometer.Tally

/-!
# Sweeps

A sweep measures steps: each is turned into a program, compiled through the cache, and run in a
fresh fixture. A step whose program does not compile is skipped, and the sweep goes on. The steps
of a category form a section with a tally of its own.
-/
namespace Gasometer

/-- What came of measuring a step. Without a result the step was skipped. -/
structure Outcome where
  step : Step
  code? : Option GeneratedCode := none
  result? : Option ExecutionResult := none
  error : String := ""

namespace Outcome

def skipped (o : Outcome) : Bool := o.result?.isNone

def totalLoops (o : Outcome) : Int := (o.code?.map (·.totalLoops)).getD 0

def nanosPerLoop (o : Outcome) : Except Fault (Option Binary64) :=
  match o.result?, o.code? with
  | some r, some code => (Binary64.divide r.elapsedNanos code.totalLoops).map some
  | _, _ => .ok none

def gasPerSecond (o : Outcome) : Except Fault (Option Binary64) :=
  match o.result? with
  | some r => (Gasometer.gasPerSecond r.gasUsed r.elapsedNanos).map some
  | none => .ok none

end Outcome

structure Section where
  title : String
  outcomes : List Outcome := []
  cumulative : Tally := {}

def Section.skipped (s : Section) : Nat := (s.outcomes.filter (·.skipped)).length

/-- The settings of a sweep, checked. -/
structure Runner where
  profile : Profile
  meter : Meter
  limits : LoopProgram.Limits

/-- What changes in a sweep. -/
structure Desk (m : Type → Type) where
  cache : ArtifactCache m
  tally : Tally := {}

abbrev Sweep (m : Type → Type) := ExceptT Problem (StateT (Desk m) m)

namespace Sweep

variable {m : Type → Type} [Monad m]

/-- Prepares a sweep. Without a compiler the profile chooses one; a given cache is used unless it
is empty. -/
def prepare (host : Host m) (profile : Profile) (compiler? : Option (Compiler m))
    (cache? : Option (ArtifactCache m)) : Except SettingError (Runner × Desk m) := do
  let compiler ← match compiler? with
    | some c => pure c
    | none => (CompilerChoice.ofName profile.compiler).map (·.compiler host)
  let cache ← match cache?.filter (·.size != 0) with
    | some c => pure c
    | none => ArtifactCache.create compiler profile.cacheCapacity profile.cacheMaxSize?
  let meter ← Meter.create profile.gasMultiplier {}
  let limits ← LoopProgram.Limits.create profile.gasLimit profile.sizeLimit 64 compiler.dialect.name
  return (⟨profile, meter, limits⟩, { cache := cache })

def selected (p : Profile) : Except Problem (List Step) := do
  let steps ← match p.steps? with
    | none | some [] => pure Catalog.steps
    | some names => names.mapM Catalog.find
  match p.categories? with
  | none | some [] => return steps
  | some categories =>
    let wanted := categories.map fun c => String.ofList (Text.lower c.toList)
    return steps.filter fun s => wanted.contains s.category

def lift {α : Type} (action : m α) : Sweep m α :=
  ExceptT.lift (StateT.lift action)

def log (host : Host m) (level : LogLevel) (message : String) : Sweep m Unit :=
  lift (host.log ⟨level, .runner, message⟩)

def attempt {α : Type} (result : Except Problem α) : Sweep m α := ExceptT.mk (pure result)

def compile (host : Host m) (source : String) : Sweep m (Except CompilationError String) := do
  let desk ← get
  let (result, cache) ← lift (desk.cache.get host source)
  set { desk with cache := cache }
  return result

def resultText (s : Step) (code : GeneratedCode) (r : ExecutionResult) : String :=
  s.displayName ++ ": " ++ r.statusLabel ++ ", " ++ Text.decimal r.gasUsed ++ " gas in " ++
    Text.decimal r.elapsedNanos ++ " ns over " ++ Text.decimal code.totalLoops ++ " loops"

def runStep (host : Host m) (r : Runner) (s : Step) : Sweep m Outcome := do
  let code ← attempt (← lift (LoopProgram.generate host r.limits s))
  match ← compile host code.source with
  | .error e =>
    log host .warning ("Skipping " ++ s.name ++ ": " ++ e.text)
    return { step := s, code? := some code, error := e.text }
  | .ok bytecode =>
    let bytes ← attempt (Except.mapError .fault (Bytes.ofHex bytecode))
    let reading ← lift (Meter.run host r.meter Observer.blind bytes (Fixture.world bytes)
      r.profile.gasLimit ())
    let result := reading.result
    modify fun desk => { desk with tally := desk.tally.record result }
    if result.givenReason?.isSome then
      log host .debug (s.name ++ " reverted with " ++ result.revertReasonHex)
    log host (if r.profile.verbose then .info else .debug) (resultText s code result)
    return { step := s, code? := some code, result? := some result }

def sectionText (s : Section) : String :=
  let steps := s.outcomes.length
  let skipped := s.skipped
  "Section " ++ s.title ++ s!": {steps} steps ({skipped} skipped), " ++
    Text.decimal s.cumulative.gas ++ " gas in " ++ Text.decimal s.cumulative.nanos ++ " ns"

def runSection (host : Host m) (r : Runner) (title : String) (steps : List Step) :
    Sweep m Section := do
  modify fun desk => { desk with tally := {} }
  let outcomes ← steps.mapM (runStep host r)
  let report : Section := { title := title, outcomes := outcomes, cumulative := (← get).tally }
  log host .info (sectionText report)
  return report

/-- Measures all selected steps, section by section. `show_` is done after each section. -/
def run (host : Host m) (r : Runner) (show_ : Section → m (Except Problem Unit)) :
    Sweep m (List Section) := do
  log host .info ("Sweep with " ++ (← get).cache.compiler.name ++ ": gas limit " ++
    Text.decimal r.profile.gasLimit ++ ", initial frame gas " ++ Text.decimal r.profile.initialGas)
  let steps ← attempt (selected r.profile)
  let sections ← (Catalog.group steps).mapM fun (category, members) => do
    let report ← runSection host r category members
    attempt (← lift (show_ report))
    return report
  log host .debug ("Artifact cache after sweep: " ++ (← get).cache.describe)
  return sections

end Sweep
end Gasometer
