import Gasometer.Execution.Fixture
import Gasometer.Execution.Result
import Gasometer.Host.Basic
import Gasometer.Setting

/-!
# The meter

A meter runs a program as the receiver's code in a given world and measures the run. The frame
starts with a multiple of the gas limit; the sender calls the receiver without value. Only a run
that succeeds changes the world.
-/
namespace Gasometer

structure Meter where
  gasMultiplier : Int := 300
  block : Block := {}
  deriving Inhabited

namespace Meter

def create (gasMultiplier : Int) (block : Block) : Except SettingError Meter :=
  if gasMultiplier < 1 then .error .gasMultiplier else .ok ⟨gasMultiplier, block⟩

def initialGas (m : Meter) (gasLimit : Int) : Int := gasLimit * m.gasMultiplier

def initialFrame (m : Meter) (code : Bytes) (world : World) (gasLimit : Int) : Frame :=
  { context :=
      { kind := .messageCall
        address := Fixture.receiver
        originator := Fixture.sender
        sender := Fixture.sender
        code := Code.ofBytes code
        block := m.block
        input := Fixture.input
        originLayers := world.layers.length }
    gas := m.initialGas gasLimit }

/-- Runs a program on top of a world. -/
def launch {σ : Type} (m : Meter) (see : Observer σ) (code : Bytes) (world : World)
    (gasLimit : Int) (seen : σ) : Round σ :=
  Machine.run {} see (m.initialFrame code world gasLimit) world.open_
    (AccessList.ofLists Fixture.warm []) seen

structure Reading (σ : Type) where
  result : ExecutionResult
  world : World
  seen : σ

/-- Runs a program, measures the run, and logs a fault of the machine. -/
def run {m : Type → Type} [Monad m] {σ : Type} (host : Host m) (meter : Meter)
    (see : Observer σ) (code : Bytes) (world : World) (gasLimit : Int) (seen : σ) :
    m (Reading σ) := do
  let (round, elapsed) ← host.timed fun _ => pure (meter.launch see code world gasLimit seen)
  if round.fault.isSome then
    let time := Text.decimal elapsed
    let depth := round.machine.frames.length
    host.log ⟨.error, .driver, s!"Interpreter failure after {time} ns at depth {depth}"⟩
  let after := round.machine.world.lowest world.layers.length
  return ⟨round.result (meter.initialGas gasLimit) elapsed, after, round.seen⟩

end Meter
end Gasometer
