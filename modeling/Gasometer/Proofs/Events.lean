import Gasometer.Proofs.Rounds

/-!
# Events of a run

An observer is told what the machine does and has no influence on it. Every event that a run records
belongs to a state that moves lead to, so what holds of all such states holds of all that an
observer is told.
-/
namespace Gasometer

def Observer.record : Observer (List Event) := fun e seen => e :: seen

def Event.frame : Event → Frame
  | .enter f | .operation f _ _ | .exit f | .processed f _ => f

/-- The events of a machine that moves from `s`. -/
inductive Event.Arises (rules : CreationRules) (s : Machine) : Event → Prop
  | enter {t : Machine} {f : Frame} (h : Reaches rules s t) (hf : f ∈ t.frames) :
    Arises rules s (.enter f)
  | operation {a a' : Activity} {below : List Frame} {byte : UInt8} {child? : Option Frame}
    (h : Reaches rules s (a.atop below)) (hstatus : a.frame.status = .executing)
    (hbyte : a.nextByte? = some byte) (hstep : Exec.step byte a = .ok child? a') :
    Arises rules s (.operation a'.frame byte (a.frame.gas - a'.frame.gas))
  | exit {a : Activity} {below : List Frame} (h : Reaches rules s (a.atop below))
    (hleft : a.frame.status.IsLeft) : Arises rules s (.exit (a.finish rules).frame)
  | waits {t : Machine} {f : Frame} (open_ : Nat) (h : Reaches rules s t) (hf : f ∈ t.frames) :
    Arises rules s (.processed f open_)
  | closed {a : Activity} {below : List Frame} (open_ : Nat) (h : Reaches rules s (a.atop below))
    (hleft : a.frame.status.IsLeft) : Arises rules s (.processed (a.finish rules).frame open_)

/-- Whether all these events are events of a machine that moves from `s`. -/
def Recorded (rules : CreationRules) (s : Machine) (seen : List Event) : Prop :=
  ∀ e ∈ seen, Event.Arises rules s e

variable {rules : CreationRules} {k : Scale} {s : Machine} {a : Activity} {below : List Frame}
  {seen : List Event}

theorem Recorded.cons {e : Event} (he : e.Arises rules s) (h : Recorded rules s seen) :
    Recorded rules s (e :: seen) := List.forall_mem_cons.2 ⟨he, h⟩

namespace Activity

theorem RunsTo.recorded {r : Run (List Event)} {fuel : Nat} (hrun : RunsTo .record fuel a seen r)
    (hreach : Reaches rules s (a.atop below)) (hstatus : a.frame.status = .executing)
    (h : Recorded rules s seen) : Recorded rules s r.seen := by
  induction hrun with
  | cutOff | runOff | halt | fault => exact h
  | open_ hbyte hstep | leave hbyte hstep =>
    exact h.cons (.operation hreach hstatus hbyte hstep)
  | next hbyte hstep hgoes _ ih =>
    exact ih (hreach.tail (.step below hstatus hbyte hstep)) hgoes
      (h.cons (.operation hreach hstatus hbyte hstep))

end Activity

namespace Machine
open Activity

theorem runStarted_recorded (hreach : Reaches rules s (a.atop below)) (h : Recorded rules s seen) :
    Recorded rules s (runStarted .record a seen).seen := by
  unfold runStarted
  split
  · rename_i hstatus
    exact (runsTo_run .record a seen).recorded hreach hstatus h
  · exact h

theorem advance_recorded (hreach : Reaches rules s (a.atop below)) (h : Recorded rules s seen) :
    Recorded rules s (advance rules .record a seen).seen := by
  unfold advance
  split
  · rename_i hstatus
    have hentered : Event.Arises rules s (.enter a.frame) := .enter hreach (List.mem_cons_self ..)
    exact runStarted_recorded (hreach.tail (.start below hstatus)) (h.cons hentered)
  · exact runStarted_recorded hreach h

theorem process_recorded (hreach : Reaches rules s (a.atop below))
    (hready : a.frame.status.IsReady) (h : Recorded rules s seen) :
    Recorded rules s (process rules .record a below seen).seen := by
  have hrun := advance_recorded hreach h
  have hfollows := advance_follows rules .record below hready seen
  unfold process
  generalize advance rules .record a seen = run at hrun hfollows ⊢
  unfold Run.Follows at hfollows
  unfold conclude
  cases hending : run.ending with
  | faulted fault => exact hrun
  | opened child =>
    rw [hending] at hfollows
    obtain ⟨⟨t, ht, hturn⟩, -⟩ := hfollows
    have hwaits := hreach.trans (ht.tail hturn.1)
    exact hrun.cons (.waits _ hwaits (by simp))
  | left =>
    rw [hending] at hfollows
    have hleft := hreach.trans hfollows.1
    exact (hrun.cons (.exit hleft hfollows.2)).cons (.closed _ hleft hfollows.2)

end Machine

namespace Round
open Machine

/-- All events that a run records arise from its moves. -/
theorem iterate_recorded (hs : s.Starts rules k) (hready : s.IsReady) (last : Frame) (n : Nat) :
    Recorded rules s ((Round.next rules .record)^[n] ⟨last, s, [], none⟩).seen := by
  induction n with
  | zero => rintro e ⟨⟩
  | succ n ih =>
    have hstands := stands_iterate .record hs hready last [] n
    rw [Function.iterate_succ_apply']
    generalize (Round.next rules .record)^[n] ⟨last, s, [], none⟩ = r at ih hstands ⊢
    by_cases hover : r.IsOver
    · rwa [next_of_isOver hover]
    · rw [IsOver, not_or, not_not] at hover
      obtain ⟨hreach, hready⟩ := hstands.goes hover.1
      obtain ⟨a, below, hmachine⟩ := exists_atop hover.2
      rw [next_atop hover.1 hmachine]
      rw [hmachine] at hreach hready
      exact process_recorded hreach (hready _ rfl) ih

end Round
end Gasometer
