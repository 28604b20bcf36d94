import Gasometer.Machine.Lifecycle

/-!
# The machine

The machine holds the open frames of one transaction, the uppermost first, with the world and the
access list that they share. The uppermost layer of the world belongs to the uppermost frame. One
round of processing brings the uppermost frame to its end, or to the opening of another frame on
top of it; the machine runs until no frame is left.
-/
namespace Gasometer

/-- The open frames of a transaction with their world. -/
structure Machine where
  frames : List Frame := []
  world : World := {}
  access : AccessList := {}
  deriving Inhabited

/-- The state after one round, or after a whole run. `frame` is the frame that was processed last,
as it was left. -/
structure Round (σ : Type) where
  frame : Frame
  machine : Machine
  seen : σ
  fault : Option Fault

namespace Machine

def runStarted {σ : Type} (see : Observer σ) (a : Activity) (seen : σ) : Run σ :=
  match a.frame.status with
  | .executing => a.run see seen
  | _ => ⟨a, seen, .left⟩

def advance {σ : Type} (rules : CreationRules) (see : Observer σ) (a : Activity) (seen : σ) :
    Run σ :=
  match a.frame.status with
  | .notStarted => runStarted see (a.start rules) (see (.enter a.frame) seen)
  | _ => runStarted see a seen

/-- The frames beneath one that has come to its end; the first of them goes on. -/
def woken (f : Frame) : List Frame → List Frame
  | [] => []
  | opener :: rest => opener.resume f :: rest

/-- What follows a run of the code: another frame is put on top, or the frame is brought to its end
and taken away. -/
def conclude {σ : Type} (rules : CreationRules) (see : Observer σ) (run : Run σ)
    (below : List Frame) : Round σ :=
  match run.ending with
  | .faulted fault =>
    let a := run.activity
    ⟨a.frame, ⟨a.frame :: below, a.world, a.access⟩, run.seen, some fault⟩
  | .opened child =>
    let a := run.activity
    let frames := child :: a.frame :: below
    ⟨a.frame, ⟨frames, a.world.open_, a.access⟩,
      see (.processed a.frame frames.length) run.seen, none⟩
  | .left =>
    let a := run.activity.finish rules
    let seen := see (.exit a.frame) run.seen
    let frames := woken a.frame below
    ⟨a.frame, ⟨frames, a.world.close, a.access⟩,
      see (.processed a.frame frames.length) seen, none⟩

def process {σ : Type} (rules : CreationRules) (see : Observer σ) (a : Activity)
    (below : List Frame) (seen : σ) : Round σ :=
  conclude rules see (advance rules see a seen) below

/-- Processes frames for at most `fuel` rounds. -/
def runFor {σ : Type} (rules : CreationRules) (see : Observer σ) (fuel : Nat) (last : Frame)
    (m : Machine) (seen : σ) : Round σ :=
  match m.frames, fuel with
  | [], _ => ⟨last, m, seen, none⟩
  | _ :: _, 0 => ⟨last, m, seen, some .cutOff⟩
  | top :: below, fuel + 1 =>
    let round := process rules see ⟨top, m.world, m.access⟩ below seen
    match round.fault with
    | some _ => round
    | none => runFor rules see fuel round.frame round.machine round.seen

/-- Runs a frame and all that it opens to the end, in a world whose uppermost layer is its own. -/
def run {σ : Type} (rules : CreationRules) (see : Observer σ) (frame : Frame) (world : World)
    (access : AccessList) (seen : σ) : Round σ :=
  runFor rules see (2 * frame.gas.toNat + Activity.allowance) frame ⟨[frame], world, access⟩ seen

end Machine
end Gasometer
