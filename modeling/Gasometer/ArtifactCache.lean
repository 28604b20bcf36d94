import Gasometer.Binary64.Text
import Gasometer.Compiler.Basic
import Gasometer.Setting

/-!
# The cache of compiled programs

The cache keeps the code of every source that was compiled, under the exact source text. A failed
compilation keeps nothing. If the number of entries is bounded, the one that was not asked for the
longest gives way.
-/
namespace Gasometer

structure CacheStats where
  hits : Int := 0
  misses : Int := 0
  compilations : Int := 0
  failures : Int := 0
  evictions : Int := 0
  compileNanos : Int := 0
  deriving DecidableEq, Repr, Inhabited

def CacheStats.hitRate (s : CacheStats) : Except Fault Binary64 :=
  if 0 < s.hits + s.misses then (Binary64.divide s.hits (s.hits + s.misses)).map (·.scaleBy 100)
  else .ok (Binary64.ofInt 0)

/-- A cache in front of a compiler. The entries pair sources with code, the one that was asked for
last at the end. -/
structure ArtifactCache (m : Type → Type) where
  compiler : Compiler m
  capacity : Int := 30000
  maxSize? : Option Int := none
  entries : List (String × String) := []
  stats : CacheStats := {}

namespace ArtifactCache

variable {m : Type → Type}

def create (compiler : Compiler m) (capacity : Int) (maxSize? : Option Int) :
    Except SettingError (ArtifactCache m) :=
  if maxSize?.any (· < 1) then .error .cacheBound
  else .ok { compiler := compiler, capacity := capacity, maxSize? := maxSize? }

def size (c : ArtifactCache m) : Nat := c.entries.length

def contains (c : ArtifactCache m) (source : String) : Bool := (c.entries.lookup source).isSome

def clear (c : ArtifactCache m) : ArtifactCache m := { c with entries := [] }

def lookUp? (c : ArtifactCache m) (source : String) : Option (String × ArtifactCache m) :=
  (c.entries.lookup source).map fun code =>
    (code,
      { c with
        entries := c.entries.filter (·.1 != source) ++ [(source, code)]
        stats := { c.stats with hits := c.stats.hits + 1 } })

def miss (c : ArtifactCache m) : ArtifactCache m :=
  { c with stats := { c.stats with misses := c.stats.misses + 1 } }

def fail (c : ArtifactCache m) : ArtifactCache m :=
  { c with stats := { c.stats with failures := c.stats.failures + 1 } }

def excess (c : ArtifactCache m) : Nat :=
  match c.maxSize? with
  | none => 0
  | some bound => c.size - bound.toNat

/-- Adds an entry, counts the compilation, and lets old entries give way. -/
def store (c : ArtifactCache m) (source code : String) (elapsed : Int) : ArtifactCache m :=
  let c := { c with entries := c.entries ++ [(source, code)] }
  { c with
    entries := c.entries.drop c.excess
    stats := { c.stats with
      compilations := c.stats.compilations + 1
      compileNanos := c.stats.compileNanos + elapsed
      evictions := c.stats.evictions + c.excess } }

def logRecord (level : LogLevel) (message : String) : LogRecord := ⟨level, .cache, message⟩

/-- What is logged when an entry is added: the entries that give way, or that a cache without
bound has outgrown its expected number. -/
def storeRecords (c : ArtifactCache m) (source code : String) : List LogRecord :=
  let c := { c with entries := c.entries ++ [(source, code)] }
  match c.maxSize? with
  | some _ => (c.entries.take c.excess).map fun e =>
    let count := e.1.length
    logRecord .debug s!"Evicted LRU entry ({count} source chars)"
  | none =>
    if (c.size : Int) = c.capacity + 1 then
      [logRecord .info ("Artifact cache grew past its expected capacity of " ++
        Text.decimal c.capacity ++ " entries")]
    else []

def compiledRecord (c : ArtifactCache m) (source : String) (elapsed : Int) : LogRecord :=
  let count := source.length
  logRecord .debug (s!"Compiled {count} source chars with " ++ c.compiler.name ++ " in " ++
    Text.decimal elapsed ++ " ns")

def failedRecord (c : ArtifactCache m) : LogRecord :=
  logRecord .warning ("Compilation with " ++ c.compiler.name ++ " failed; nothing cached")

/-- The code of a source, compiled unless there is an entry. -/
def get [Monad m] (host : Host m) (c : ArtifactCache m) (source : String) :
    m (Except CompilationError String × ArtifactCache m) := do
  match c.lookUp? source with
  | some (code, c) => return (.ok code, c)
  | none =>
    let c := c.miss
    let (result, elapsed) ← host.timed fun _ => c.compiler.compile source
    match result with
    | .error rejection =>
      host.log c.failedRecord
      return (.error (rejection.toError source), c.fail)
    | .ok code =>
      host.log (c.compiledRecord source elapsed)
      (c.storeRecords source code).forM host.log
      return (.ok code, c.store source code elapsed)

def rateText (c : ArtifactCache m) : String :=
  match c.stats.hitRate with
  | .ok rate => rate.fixed 1
  | .error _ => "inf"

def describe (c : ArtifactCache m) : String :=
  let count := c.size
  "CompiledArtifactCache(compiler=" ++ c.compiler.name ++ s!", entries={count}, hit_rate=" ++
    c.rateText ++ "%)"

end ArtifactCache
end Gasometer
