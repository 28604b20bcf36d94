import Gasometer.Proofs.Conservation
import Gasometer.Proofs.Solvency
import Gasometer.Proofs.Warmth

/-!
# Allowances

Who opens a frame keeps a part of the gas, whatever becomes of the frame. Where no numbers are
negative it also gets back no more than it has handed on, and what the frame was given on top.
-/
namespace Gasometer

variable {a a' b : Activity} {child : Frame} {below rest : List Frame}

instance FrameStatus.decidableIsLeft : DecidablePred FrameStatus.IsLeft
  | .returned | .reverted | .halted _ => .isTrue trivial
  | .notStarted | .executing | .suspended | .succeeded | .failed _ => .isFalse id

namespace Machine

/-- A machine with negative gas opens no second frame. -/
theorem gas_nonneg_of_opening {m : Meter} {code : Bytes} {world : World} {gasLimit : Int}
    (h : Reaches {} (m.opening code world gasLimit) (a.opening child below)) :
    0 ≤ m.initialGas gasLimit := by
  by_contra hgas
  have hspent : (m.opening code world gasLimit).IsSpent := by
    rintro _ _ ⟨⟩
    exact ⟨rfl, not_le.1 hgas, le_rfl⟩
  cases ((hspent.of_reaches h) _ _ rfl).1

end Machine

namespace Exec.Terms

/-- What a frame is opened with. -/
theorem gas_le_of_hands {t : Terms} {available left : Int}
    (h : t.Hands available (some child) left) :
    child.gas ≤ available - available / 64 + t.stipend ∧
      left + child.gas = available + t.stipend := by
  obtain ⟨hchild, hleft⟩ := h
  have hhanded := t.handed_le available
  unfold handedOn at hhanded
  omega

end Exec.Terms

namespace Activity
open Exec (Terms)

/-- The terms of an operation that may open a frame, with the gas that is left when its own costs
are paid. -/
def terms? (op : Opcode) (a : Activity) : Option (Terms × Int) :=
  match op.info? with
  | none => none
  | some info =>
    match Exec.openingTerms op (Exec.paid info a) with
    | .ok t b => some (t, b.frame.gas)
    | .error _ _ => none

/-- An operation that opens a frame has come to terms, with no less than nothing left. -/
theorem exists_terms_of_step {op : Opcode} (h : Exec.step op.byte a = .ok (some child) a') :
    ∃ t available, a.terms? op = some (t, available) ∧ 0 ≤ available ∧
      t.Hands available (some child) a'.frame.gas := by
  obtain ⟨info, hinfo, hpaid, hexecute⟩ := Exec.step_affords h
  have hop : op.Opens := by
    by_contra hlone
    have := Exec.lone_execute hlone
    cases Exec.Lone.of_ok hexecute
  obtain ⟨t, b, hterms, hhands⟩ := Exec.hands_of_execute hop hexecute
  refine ⟨t, b.frame.gas, ?_, (Exec.solventOpeningTerms op).of_ok hpaid hterms, hhands⟩
  simp only [terms?, hinfo, hterms]

/-- Nothing that a frame does makes gas, in a run without negative numbers. -/
theorem resume_gas_le {m : Meter} {code : Bytes} {world : World} {gasLimit : Int}
    (hblock : m.block.Sound .natural) (hworld : world.IsNatural)
    (hopen : Reaches {} (m.opening code world gasLimit) (a.opening child below))
    (hlife : ReachesAbove {} (below.length + 1) (a.opening child below)
      (b.atop (a.waiting :: below)))
    (hleft : b.frame.status.IsLeft) :
    (a.waiting.resume (b.finish {}).frame).gas ≤ a.frame.gas + child.gas := by
  obtain ⟨k, -, hstarts⟩ :=
    Meter.starts_natural code hblock hworld (Machine.gas_nonneg_of_opening hopen)
  obtain ⟨n, hstarts⟩ := hstarts.of_reaches hopen
  have hclosed : Reaches {} (a.opening child below) ((b.finish {}).leave (a.waiting :: below)) :=
    hlife.reaches.tail (.close (a.waiting :: below) hleft)
  have hgas := (hstarts.runs hclosed).gas
  rw [Machine.gas_opening, Machine.gas_atop] at hgas
  simp only [Machine.gas, Machine.frames_leave, Machine.woken, List.map_cons,
    List.sum_cons] at hgas
  omega

/-- All but one 64th. A frame that opens another one, with so much gas left when the own costs of
the operation are paid, hands on no more than all but a 64th of it, and what a call with value
brings on top. When it goes on, it has that 64th at least, whatever was done by the opened frame and
by all that this one opened, and however they ended. In a run of natural numbers it has no more than
it had then and what the call has brought. -/
theorem opener_keeps_share (a a' : Activity) (op : Opcode) (child : Frame) (below : List Frame)
    (hstep : Exec.step op.byte a = .ok (some child) a') :
    ∃ t available, a.terms? op = some (t, available) ∧
      child.gas ≤ available - available / 64 + t.stipend ∧
      ∀ b rest, ReachesAbove {} (below.length + 1) (a'.opening child below) (atop b rest) →
        rest.length = below.length + 1 → b.frame.status.IsLeft →
        ∃ resumed, ((b.finish {}).leave rest).frames = resumed :: below ∧
          available / 64 ≤ resumed.gas ∧
          ∀ (m : Meter) (code : Bytes) (world : World) (gasLimit : Int),
            m.block.Sound .natural → world.IsNatural →
            Reaches {} (m.opening code world gasLimit) (a'.opening child below) →
            resumed.gas ≤ available + t.stipend := by
  obtain ⟨t, available, hterms, havailable, hhands⟩ := exists_terms_of_step hstep
  obtain ⟨hchild, hsum⟩ := Exec.Terms.gas_le_of_hands hhands
  refine ⟨t, available, hterms, hchild, fun b rest hlife hlength hleft => ?_⟩
  obtain ⟨rfl, -⟩ := hlife.beneath_of_opening hlength
  refine ⟨a'.waiting.resume (b.finish {}).frame, rfl, ?_, ?_⟩
  · have hback := hlife.least_le_finish hlength hleft
    calc available / 64 ≤ a'.frame.gas + min 0 child.gas := Exec.least_of_hands hhands havailable
      _ ≤ a'.frame.gas + (b.finish {}).frame.gas := Int.add_le_add_left hback _
      _ = _ := (Frame.resume_gas ..).symm
  · intro m code world gasLimit hblock hworld hopen
    exact (resume_gas_le hblock hworld hopen hlife hleft).trans hsum.le

/-- Whether a frame is about to make a call that opens a frame, whose code is left after so many
moves, and this holds of the terms, of the gas that was left, and of the frame that goes on. -/
def callsAndResumes (p : Terms → Int → Frame → Bool) (moves : Nat) (a : Activity)
    (below : List Frame) : Bool :=
  decide (below = []) && a.opensWith (Opcode.call .call).byte fun a' child =>
    ((a'.opening child []).movedAbove? {} 1 moves).any <| Machine.sees fun b rest =>
      decide (rest.length = 1) && decide b.frame.status.IsLeft &&
        match a.terms? (.call .call), ((b.finish {}).leave rest).frames with
        | some (t, available), [resumed] => p t available resumed
        | _, _ => false

theorem exists_of_callsAndResumes {p : Terms → Int → Frame → Bool} {moves : Nat}
    (h : a.callsAndResumes p moves below = true) :
    below = [] ∧ a.frame.status = .executing ∧ a.nextByte? = some (Opcode.call .call).byte ∧
      ∃ a' child b rest t available resumed,
        Exec.step (Opcode.call .call).byte a = .ok (some child) a' ∧
        ReachesAbove {} 1 (a'.opening child []) (atop b rest) ∧ rest.length = 1 ∧
        b.frame.status.IsLeft ∧ a.terms? (.call .call) = some (t, available) ∧
        ((b.finish {}).leave rest).frames = [resumed] ∧ p t available resumed = true := by
  rw [callsAndResumes, Bool.and_eq_true, decide_eq_true_eq] at h
  obtain ⟨hbelow, hopens⟩ := h
  obtain ⟨hstatus, hbyte, a', child, hstep, hlife⟩ := exists_of_opensWith hopens
  obtain ⟨b, rest, hlife, hresumes⟩ := Machine.exists_of_sees hlife
  rw [Bool.and_eq_true, Bool.and_eq_true, decide_eq_true_eq, decide_eq_true_eq] at hresumes
  obtain ⟨⟨hlength, hleft⟩, hresumes⟩ := hresumes
  split at hresumes
  · rename_i t available resumed hterms hframes
    exact ⟨hbelow, hstatus, hbyte, a', child, b, rest, t, available, resumed, hstep, hlife, hlength,
      hleft, hterms, hframes, hresumes⟩
  · cases hresumes

theorem opener_keeps_share_payingCall :
    ∃ a a' child b rest t available resumed,
      (Block.Sound .natural ({} : Meter).block ∧ Meter.payingWorld.IsNatural ∧
        Reaches {} (({} : Meter).opening Meter.payingCall Meter.payingWorld 1000)
          (a'.opening child []) ∧
        Exec.step (Opcode.call .call).byte a = .ok (some child) a' ∧
        ReachesAbove {} 1 (a'.opening child []) (atop b rest) ∧ rest.length = 1 ∧
        b.frame.status.IsLeft) ∧
      a.terms? (.call .call) = some (t, available) ∧ t.stipend = 2300 ∧
      child.gas ≤ available - available / 64 + 2300 ∧
      ((b.finish {}).leave rest).frames = [resumed] ∧
      available / 64 ≤ resumed.gas ∧ resumed.gas ≤ available + 2300 := by
  have hrun : ((({} : Meter).opening Meter.payingCall Meter.payingWorld 1000).movedAbove? {}
      0 8).any (Machine.sees (callsAndResumes (fun t _ _ => t.stipend = 2300) 7)) = true := by
    decide +kernel
  obtain ⟨a, below, hreach, hcalls⟩ := Machine.exists_of_sees hrun
  obtain ⟨rfl, hstatus, hbyte, a', child, b, rest, t, available, resumed, hstep, hlife, hlength,
    hleft, hterms, hframes, hstipend⟩ := exists_of_callsAndResumes hcalls
  have hopen := hreach.reaches.tail (.open_ [] hstatus hbyte hstep)
  have hblock := Block.sound_default .natural
  have hworld := Meter.payingWorld_isNatural
  rw [decide_eq_true_eq] at hstipend
  obtain ⟨t', available', hterms', hchild, hlater⟩ :=
    opener_keeps_share a a' (.call .call) child [] hstep
  obtain ⟨rfl, rfl⟩ := Prod.mk.inj (Option.some.inj (hterms.symm.trans hterms'))
  obtain ⟨resumed', hframes', hlower, hupper⟩ := hlater b rest hlife hlength hleft
  obtain rfl := (List.cons.inj (hframes.symm.trans hframes')).1
  have hupper := hupper {} Meter.payingCall Meter.payingWorld 1000 hblock hworld hopen
  rw [hstipend] at hchild hupper
  exact ⟨a, a', child, b, rest, t, available, resumed,
    ⟨hblock, hworld, hopen, hstep, hlife, hlength, hleft⟩, hterms, hstipend, hchild, hframes,
    hlower, hupper⟩

/-- Calls the returning contract with as much gas as the number of the block. -/
def callingWithNumber : Bytes :=
  #[0x3d, 0x3d, 0x3d, 0x3d, 0x3d, 0x62, 0x0c, 0xa1, 0x1e, 0x43, 0xf1]

/-- In a block with a negative number a call may hand on negative gas, and its frame gives none of
it back. -/
theorem opener_gains_callingWithNumber :
    ∃ a a' child b rest t available resumed,
      Reaches {} (({ block := { number := -1000000 } } : Meter).opening callingWithNumber
        (Fixture.world callingWithNumber) 1000) (a.atop []) ∧
      a.frame.status = .executing ∧ a.nextByte? = some (Opcode.call .call).byte ∧
      Exec.step (Opcode.call .call).byte a = .ok (some child) a' ∧
      ReachesAbove {} 1 (a'.opening child []) (atop b rest) ∧ rest.length = 1 ∧
      b.frame.status.IsLeft ∧ a.terms? (.call .call) = some (t, available) ∧ t.stipend = 0 ∧
      ((b.finish {}).leave rest).frames = [resumed] ∧
      available = 297385 ∧ resumed.gas = 1297385 := by
  have hrun : ((({ block := { number := -1000000 } } : Meter).opening callingWithNumber
      (Fixture.world callingWithNumber) 1000).movedAbove? {} 0 8).any
      (Machine.sees (callsAndResumes (fun t available resumed =>
        t.stipend = 0 ∧ available = 297385 ∧ resumed.gas = 1297385) 2)) = true := by
    decide +kernel
  obtain ⟨a, below, hreach, hcalls⟩ := Machine.exists_of_sees hrun
  obtain ⟨rfl, hstatus, hbyte, a', child, b, rest, t, available, resumed, hstep, hlife, hlength,
    hleft, hterms, hframes, hgas⟩ := exists_of_callsAndResumes hcalls
  rw [decide_eq_true_eq] at hgas
  obtain ⟨hstipend, havailable, hresumed⟩ := hgas
  exact ⟨a, a', child, b, rest, t, available, resumed, hreach.reaches, hstatus, hbyte, hstep, hlife,
    hlength, hleft, hterms, hstipend, hframes, havailable, hresumed⟩

end Activity
end Gasometer
