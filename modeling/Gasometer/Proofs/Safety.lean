import Gasometer.Proofs.Launches

/-!
# Safety

In a launch of words no operation meets a value that it cannot handle: stacks hold the items that
are taken, memories reach over what is written, words fit their encodings, and addresses have
numbers and bytes. What is left are shortages, where more bytes are asked for than can be held; they
take more gas than `2 ^ 61`.
-/
namespace Gasometer

variable {σ : Type}

namespace Round

variable {rules : CreationRules} {k : Scale} {s : Machine} {r : Round σ}

/-- The faults of a run are those that its scale excuses. -/
theorem Stands.excuses {fault : Fault} (hs : s.Starts rules k) (h : r.Stands rules s)
    (hfault : r.fault = some fault) : k.Excuses fault := by
  obtain ⟨-, t, hreach, hf⟩ := h.breaks fault hfault
  obtain ⟨n, hnext⟩ := hs.of_reaches hreach
  exact (hnext.sound_of_faults hf).2.2

/-- A run that ends without a fault does not end with an internal error. -/
theorem Concludes.haltReason_ne (hs : s.Starts rules k) (h : r.Concludes rules s)
    (hfault : r.fault = none) : r.frame.haltReason? ≠ some .internalError := by
  rw [Concludes, hfault] at h
  obtain ⟨a, hreach, hleft, hframe, -⟩ := h
  obtain ⟨n, hsound, -⟩ := (hs.runs hreach).sound
  intro hreason
  rw [hframe] at hreason
  rcases (Activity.finish_haltReason hsound.activity.frame.gas hleft hreason).2 with h | h
  · exact hsound.reasons _ (List.mem_cons_self ..) h
  · exact h rfl

/-- An internal error that is no fault is one of the last frame. -/
theorem fault_of_internalError {gas elapsed : Int}
    (hreason : (r.result gas elapsed).haltReason? = some .internalError)
    (hquiet : r.fault = none → r.frame.haltReason? ≠ some .internalError) :
    ∃ fault, r.fault = some fault := by
  unfold result at hreason
  cases hfault : r.fault with
  | some fault => exact ⟨fault, rfl⟩
  | none =>
    rw [hfault] at hreason
    exact absurd hreason (hquiet hfault)

end Round

/-! A launch with negative gas comes no further than the first operation. -/

namespace Exec
variable {a : Activity}

/-- Whether an operation stops the frame before it has changed anything. -/
def Refuses {α : Type} (x : Exec α) (a : Activity) : Prop :=
  x.Yields a (fun _ _ => False)
    fun e a' => a' = a ∧ ∃ reason, reason ≠ .internalError ∧ e = .halt reason

theorem begin_refuses {info : OpcodeInfo} (hgas : a.frame.gas < info.gas) :
    (begin_ info).Refuses a := by
  refine Yields.view ?_
  refine (Yields.haltIf fun _ => ⟨rfl, _, by decide, rfl⟩).bind ?_
  rintro _ _ ⟨-, rfl⟩
  refine (Yields.haltIf fun _ => ⟨rfl, _, by decide, rfl⟩).bind ?_
  rintro _ _ ⟨-, rfl⟩
  refine Yields.view ?_
  refine (Yields.haltIf fun _ => ⟨rfl, _, by decide, rfl⟩).bind ?_
  rintro _ _ ⟨hpaid, rfl⟩
  exact absurd hgas hpaid

theorem step_refuses (hgas : a.frame.gas < 0) (byte : UInt8) : (step byte).Refuses a := by
  unfold step
  cases Opcode.ofByte? byte with
  | none => exact ⟨rfl, .invalidOperation, by decide, rfl⟩
  | some op =>
    cases hinfo : op.info? with
    | none =>
      simp only [hinfo]
      exact ⟨rfl, .invalidOperation, by decide, rfl⟩
    | some info =>
      simp only [hinfo]
      have hprice := Opcode.gas_nonneg hinfo
      refine (begin_refuses (hgas.trans_le hprice)).bind ?_
      rintro _ _ ⟨⟩

end Exec

/-- Whether the code of a call was left by its end, or by a halt that is no internal error. -/
structure Run.LeavesQuietly (r : Run σ) : Prop where
  ending : r.ending = .left
  status : r.activity.frame.status = .returned ∨
    ∃ reason, reason ≠ .internalError ∧ r.activity.frame.status = .halted reason
  kind : r.activity.frame.context.kind = .messageCall

/-- Whether a run is over, without a fault and without an internal error. -/
structure Round.EndsQuietly (r : Round σ) : Prop where
  fault : r.fault = none
  frames : r.machine.frames = []
  reason : r.frame.haltReason? ≠ some .internalError

namespace Activity
variable {a : Activity}

theorem run_of_gas_neg (see : Observer σ) (seen : σ) (hgas : a.frame.gas < 0)
    (hkind : a.frame.context.kind = .messageCall) : (a.run see seen).LeavesQuietly := by
  obtain ⟨fuel, hfuel⟩ : ∃ fuel, a.frame.gas.toNat + allowance = fuel + 1 :=
    ⟨_, (Nat.succ_pred_eq_of_pos (Nat.add_pos_right _ (Nat.two_pow_pos 60))).symm⟩
  rw [run, hfuel]
  cases hbyte : a.nextByte? with
  | none =>
    rw [runFor_runOff hbyte]
    exact ⟨rfl, .inl rfl, hkind⟩
  | some byte =>
    have hrefuses := Exec.step_refuses hgas byte
    cases hstep : Exec.step byte a with
    | ok child? a' => cases hrefuses.of_ok hstep
    | error e a' =>
      obtain ⟨rfl, reason, hreason, rfl⟩ := hrefuses.of_error hstep
      rw [runFor_halt hbyte hstep]
      exact ⟨rfl, .inr ⟨reason, hreason, rfl⟩, hkind⟩

/-- A call that pays nothing runs as soon as it is started. -/
theorem start_of_value_zero (rules : CreationRules) (hkind : a.frame.context.kind = .messageCall)
    (hvalue : a.frame.context.value = 0) :
    a.start rules = a.begin_ (a.world.touch a.frame.context.address) := by
  simp [start, transfer?, hkind, hvalue]

/-- A call that was left quietly does not end with an internal error. -/
theorem finish_of_leavesQuietly {r : Run σ} (rules : CreationRules) (h : r.LeavesQuietly) :
    (r.activity.finish rules).frame.haltReason? ≠ some .internalError := by
  have hkind := h.kind
  unfold finish
  rcases h.status with h | ⟨reason, hreason, h⟩
  · simp [h, accept, hkind, settle, mapFrame, Frame.haltReason?]
  · simpa [h, settle, Frame.haltReason?] using hreason

end Activity

namespace Machine
variable {rules : CreationRules} {see : Observer σ}

theorem conclude_endsQuietly {r : Run σ} (h : r.LeavesQuietly) :
    (conclude rules see r []).EndsQuietly := by
  rw [conclude, h.ending]
  exact ⟨rfl, rfl, Activity.finish_of_leavesQuietly rules h⟩

theorem advance_leavesQuietly {a : Activity} (seen : σ) (hstatus : a.frame.status = .notStarted)
    (hgas : a.frame.gas < 0) (hkind : a.frame.context.kind = .messageCall)
    (hvalue : a.frame.context.value = 0) : (advance rules see a seen).LeavesQuietly := by
  rw [advance, hstatus, Activity.start_of_value_zero rules hkind hvalue]
  exact Activity.run_of_gas_neg see _ (a := a.begin_ _) hgas hkind

/-- A run that begins with such a call is over after one round. -/
theorem runFor_endsQuietly {a : Activity} {fuel : Nat} (hfuel : 1 ≤ fuel) (last : Frame) (seen : σ)
    (hstatus : a.frame.status = .notStarted) (hgas : a.frame.gas < 0)
    (hkind : a.frame.context.kind = .messageCall) (hvalue : a.frame.context.value = 0) :
    (runFor rules see fuel last (a.atop []) seen).EndsQuietly := by
  have hround : ((Round.next rules see)^[1] ⟨last, a.atop [], seen, none⟩).EndsQuietly := by
    rw [Function.iterate_one, Round.next_atop rfl rfl]
    exact conclude_endsQuietly (advance_leavesQuietly seen hstatus hgas hkind hvalue)
  rw [runFor_eq_iterate (.inr hround.frames) hfuel]
  exact hround

end Machine

namespace Meter

variable {m : Meter} {code : Bytes} {world : World} {gasLimit : Int}

theorem launch_endsQuietly (hgas : m.initialGas gasLimit < 0) (see : Observer σ) (seen : σ) :
    (m.launch see code world gasLimit seen).EndsQuietly := by
  have hallowance : 1 < Activity.allowance := Nat.one_lt_two_pow (by decide)
  let a : Activity :=
    ⟨m.initialFrame code world gasLimit, world.open_, AccessList.ofLists Fixture.warm []⟩
  have hquiet : ∀ fuel, 1 ≤ fuel →
      (Machine.runFor {} see fuel a.frame (a.atop []) seen).EndsQuietly :=
    fun fuel hfuel => Machine.runFor_endsQuietly hfuel a.frame seen rfl hgas rfl rfl
  rw [launch_eq]
  exact hquiet (2 * (m.initialGas gasLimit).toNat + Activity.allowance) (by omega)

/-- No launch of words ends with an internal error unless more bytes are asked for than can be held,
which takes more gas than `2 ^ 61`. -/
theorem launch_safe (m : Meter) (see : Observer σ) (code : Bytes) (world : World) (gasLimit : Int)
    (seen : σ) (elapsed : Int) (hblock : m.block.Sound .word)
    (hcode : (code.size : Int) < Word.ceiling) (hworld : world.IsWordSized)
    (hgas : m.initialGas gasLimit < Word.ceiling) :
    let round := m.launch see code world gasLimit seen
    (round.result (m.initialGas gasLimit) elapsed).haltReason? = some .internalError →
      ∃ fault, round.fault = some fault ∧ fault.IsShortage ∧
        Gas.shortagePrice < m.initialGas gasLimit := by
  intro round hreason
  by_cases hpositive : 0 ≤ m.initialGas gasLimit
  · obtain ⟨k, hwords, hlimit, hstarts⟩ := starts_words hblock hcode hworld hpositive hgas
    have hconcludes := launch_concludes m see code world gasLimit seen
    obtain ⟨fault, hfault⟩ :=
      Round.fault_of_internalError hreason (hconcludes.haltReason_ne hstarts)
    have hexcused := (launch_stands hstarts see seen).excuses hstarts hfault
    rw [Scale.Excuses, hwords, hlimit] at hexcused
    exact ⟨fault, hfault, hexcused⟩
  · have hquiet : round.EndsQuietly := launch_endsQuietly (not_le.1 hpositive) see seen
    obtain ⟨fault, hfault⟩ := Round.fault_of_internalError hreason fun _ => hquiet.reason
    rw [hquiet.fault] at hfault
    cases hfault

/-- With 300 times as much gas as its limit, no program of the fixture can ask for so many bytes. -/
theorem launch_safe_reverting :
    let round := ({} : Meter).launch .blind Fixture.revertingCode
      (Fixture.world Fixture.revertingCode) 100000 ()
    (Block.Sound .word ({} : Meter).block ∧ (Fixture.world Fixture.revertingCode).IsWordSized ∧
      ({} : Meter).initialGas 100000 < Word.ceiling) ∧
    (round.result (({} : Meter).initialGas 100000) 0).haltReason? ≠ some .internalError := by
  have hcode : (Fixture.revertingCode.size : Int) < Word.ceiling := by decide
  have hblock := Block.sound_default .word
  have hworld := Fixture.world_isWordSized hcode
  have hgas : ({} : Meter).initialGas 100000 < Word.ceiling := by decide
  refine ⟨⟨hblock, hworld, hgas⟩, fun hreason => ?_⟩
  obtain ⟨fault, -, -, hshort⟩ := launch_safe {} .blind Fixture.revertingCode
    (Fixture.world Fixture.revertingCode) 100000 () 0 hblock hcode hworld hgas hreason
  exact absurd hshort (by decide)

end Meter
end Gasometer
