import Gasometer.Proofs.Chronicles

/-!
# Forms of results

The result of a launch has one of three forms, and the end of the first frame decides which. An
observer can tell it: the first frame has succeeded, or the last operation that it has executed is
its revert; in all other cases the result is a halt, also where the machine has met a fault. What
becomes of the frames above shows nowhere. This needs no numbers to be sound.
-/
namespace Gasometer

/-- Whether a result is of the form that goes with this status. -/
def ExecutionResult.HasForm (r : ExecutionResult) (status : ExecutionStatus) : Prop :=
  r.status = status ∧ match status with
    | .normal => r.haltReason? = none ∧ r.revertReason? = none
    | .reverted => r.haltReason? = none ∧ r.revertReason? = some r.output
    | .exceptionalHalt => r.haltReason? ≠ none ∧ r.revertReason? = none ∧ r.output = #[]

/-- A result is of no other form. -/
theorem ExecutionResult.HasForm.iff_eq {r : ExecutionResult} {status status' : ExecutionStatus}
    (h : r.HasForm status) : r.HasForm status' ↔ status' = status :=
  ⟨fun h' => h'.1.symm.trans h.1, fun heq => heq ▸ h⟩

/-- What became of the first frame: the last of the operations that it has executed, one at which it
was stopped not among them, and the frame itself when it has come to its end. -/
structure Fate where
  last? : Option UInt8 := none
  ended? : Option Frame := none

def Observer.fate : Observer Fate
  | .operation f byte _, fate =>
    if f.context.depth = 0 then { fate with last? := some byte } else fate
  | .exit f, fate => if f.context.depth = 0 then { fate with ended? := some f } else fate
  | _, fate => fate

namespace Fate

/-- The first frame has succeeded. -/
def Succeeds (fate : Fate) : Prop := ∃ f, fate.ended? = some f ∧ f.status = .succeeded

/-- The last operation of the first frame was a revert. -/
def Reverts (fate : Fate) : Prop := fate.last? = some Opcode.revert.byte

theorem succeeds_iff {fate : Fate} {f : Frame} (hended : fate.ended? = some f) :
    fate.Succeeds ↔ f.status = .succeeded := by
  simp [Succeeds, hended]

end Fate

variable {σ : Type} {rules : CreationRules} {see : Observer σ} {a a' b : Activity}
  {below frames : List Frame} {f g : Frame} {fate fate' : Fate} {s t : Machine} {byte : UInt8}
  {child? : Option Frame}

/-! How operations leave the code. -/

namespace Opcode

def leaving? : Opcode → Option FrameStatus
  | .stop | .ret | .selfdestruct => some .returned
  | .revert => some .reverted
  | _ => none

theorem leaving?_of_isPlain {op : Opcode} (h : op.IsPlain) : op.leaving? = none := by
  cases op with
  | stop | ret | revert | selfdestruct => cases h
  | _ => rfl

end Opcode

namespace Exec

variable {α β : Type}

class Leaves (x : Exec α) (status : outParam FrameStatus) : Prop where
  leaves : ∀ a, x.Yields a (fun _ b => b.frame.status = status) fun _ _ => True

variable {status : FrameStatus}

instance leavesLeave (output : Bytes) : Leaves (leave status output) status := ⟨fun _ => rfl⟩

instance leavesBind (x : Exec α) (f : α → Exec β) [hf : ∀ v, Leaves (f v) status] :
    Leaves (x >>= f) status := ⟨fun a => (yields_true x a).bind fun v b _ => (hf v).leaves b⟩

instance leavesWithMemory : Leaves (leaveWithMemory status) status := by
  unfold leaveWithMemory; infer_instance

instance leavesSelfdestruct : Leaves selfdestruct .returned := by
  unfold selfdestruct; infer_instance

/-- How an operation has left the code of its frame, without a frame being opened; or the frame has
the status that it had. -/
def LeavesWith (left? : Option FrameStatus) (a : Activity) (child? : Option Frame)
    (b : Activity) : Prop :=
  match left? with
  | none => b.frame.status = a.frame.status
  | some status => b.frame.status = status ∧ child? = none

theorem Leaves.last {x : Exec α} (hx : Leaves x status) (a : Activity) :
    (x >>= fun _ => Pure.pure none).Yields a (LeavesWith (some status) a) fun _ _ => True :=
  (hx.leaves a).bind fun _ _ hb => ⟨hb, rfl⟩

theorem pop_status (a : Activity) :
    pop.Yields a (fun _ b => b.frame.status = a.frame.status) fun _ _ => True := by
  refine (pop_spec a).imp ?_ fun _ _ _ => trivial
  rintro x _ ⟨stack, -, rfl⟩
  rfl

theorem jumpTo_status (place : Int) (a : Activity) :
    (jumpTo place).Yields a (fun _ b => b.frame.status = a.frame.status) fun _ _ => True := by
  unfold jumpTo
  refine Yields.view ((Yields.haltIf fun _ => trivial).bind ?_)
  rintro _ _ ⟨-, rfl⟩
  rfl

/-- An operation that is done leaves the code as it should. -/
theorem execute_leaves {op : Opcode} {info : OpcodeInfo} (hinfo : op.info? = some info)
    (hsize : info.inputs ≤ a.frame.stack.items.length) :
    (execute op).Yields a (LeavesWith op.leaving? a) fun _ _ => True := by
  by_cases hplain : op.IsPlain
  · rw [Opcode.leaving?_of_isPlain hplain]
    have hstacks := Activity.Stacks.refl a (List.take_append_drop info.inputs _).symm
    rw [List.length_take_of_le hsize] at hstacks
    refine ((offersExecute hinfo hplain).offers a _ a hstacks).mono ?_
    rintro (_ | child) b hb
    · exact hb.status
    · obtain ⟨k, -, hb⟩ := hb
      exact hb.status
  · cases op with
    | stop => exact (leavesLeave #[]).last a
    | ret | revert => exact leavesWithMemory.last a
    | selfdestruct => exact leavesSelfdestruct.last a
    | invalid => cases hinfo
    | push n => exact rfl
    | jump =>
      have hjump : jump.Yields a (fun _ b => b.frame.status = a.frame.status) fun _ _ => True :=
        (pop_status a).bind fun place b hb => (jumpTo_status place b).mono fun _ _ h => h.trans hb
      exact hjump.bind fun _ b hb => hb
    | jumpi =>
      have hjumpi : jumpi.Yields a (fun _ b => b.frame.status = a.frame.status)
          fun _ _ => True := by
        refine (pop_status a).bind fun place b hb => (pop_status b).bind fun condition c hc => ?_
        split_ifs
        · exact (jumpTo_status place c).mono fun _ _ h => h.trans (hc.trans hb)
        · exact hc.trans hb
      exact hjumpi.bind fun _ b hb => hb
    | _ => exact absurd rfl hplain

theorem step_leaves (hstep : step byte a = .ok child? a') :
    ∃ op : Opcode, op.byte = byte ∧ LeavesWith op.leaving? a child? a' := by
  obtain ⟨op, rfl⟩ := exists_op_of_step hstep
  obtain ⟨info, hinfo, hsize, hexecute⟩ := step_eq_ok hstep
  rw [a.frame.stack.size_eq] at hsize
  exact ⟨op, rfl, (execute_leaves (a := paid info a) hinfo hsize).of_ok hexecute⟩

/-- A step that is done reverts its frame just when it is a revert. If it opens a frame, its own has
not left the code. -/
theorem status_of_step (hstatus : a.frame.status = .executing)
    (hstep : step byte a = .ok child? a') :
    (a'.frame.status = .reverted ↔ byte = Opcode.revert.byte) ∧
      (child? ≠ none → a'.frame.status = .executing) := by
  obtain ⟨op, rfl, hleaves⟩ := step_leaves hstep
  have hbyte : op.byte = Opcode.revert.byte ↔ op = .revert := by
    refine ⟨fun h => ?_, fun h => h ▸ rfl⟩
    have hop := Opcode.ofByte?_byte op
    rw [h, Opcode.ofByte?_byte] at hop
    exact (Option.some.inj hop).symm
  rw [hbyte]
  cases op with
  | stop | ret | selfdestruct | revert =>
    obtain ⟨hleft, hnone⟩ := hleaves
    exact ⟨by simp [hleft], fun h => absurd hnone h⟩
  | _ =>
    have hsame : a'.frame.status = .executing := hleaves.trans hstatus
    exact ⟨iff_of_false (by simp [hsame]) (by rintro ⟨⟩), fun _ => hsame⟩

end Exec

/-! A run that meets a fault has come to a frame that was not left. -/

def Run.Stalls (r : Run σ) (rules : CreationRules) (see : Observer σ) (s : Machine × σ)
    (below : List Frame) : Prop :=
  ∀ fault, r.ending = .faulted fault →
    ∃ b : Activity, Watches rules see s (b.atop below, r.seen) ∧ b.frame.status = .executing

def Round.Stalls (r : Round σ) (rules : CreationRules) (see : Observer σ) (s : Machine × σ) :
    Prop :=
  r.fault ≠ none → ∃ (b : Activity) (below : List Frame),
    Watches rules see s (b.atop below, r.seen) ∧ b.frame.status.IsReady

theorem Run.Stalls.head {r : Run σ} {s t : Machine × σ} (h : Watched rules see s t)
    (hr : r.Stalls rules see t below) : r.Stalls rules see s below := by
  intro fault hending
  obtain ⟨b, hb, hstatus⟩ := hr fault hending
  exact ⟨b, .head h hb, hstatus⟩

theorem Activity.RunsTo.stalls {r : Run σ} {fuel : Nat} {seen : σ}
    (h : RunsTo see fuel a seen r) (below : List Frame) (hstatus : a.frame.status = .executing) :
    r.Stalls rules see (a.atop below, seen) below := by
  induction h with
  | cutOff | fault => exact fun _ _ => ⟨_, .refl, hstatus⟩
  | runOff | halt | open_ | leave => rintro _ ⟨⟩
  | next hbyte hstep hgoes _ ih => exact (ih hgoes).head (.step below _ hstatus hbyte hstep)

namespace Machine
open Activity

theorem runStarted_stalls (see : Observer σ) (below : List Frame) (seen : σ) :
    (runStarted see a seen).Stalls rules see (a.atop below, seen) below := by
  unfold runStarted
  split
  · exact (runsTo_run see a seen).stalls below (by assumption)
  · rintro _ ⟨⟩

theorem advance_stalls (rules : CreationRules) (see : Observer σ) (below : List Frame) (seen : σ) :
    (advance rules see a seen).Stalls rules see (a.atop below, seen) below := by
  unfold advance
  split
  · exact (runStarted_stalls see below _).head (.start below seen (by assumption))
  · exact runStarted_stalls see below seen

theorem process_stalls (rules : CreationRules) (see : Observer σ) (a : Activity)
    (below : List Frame) (seen : σ) :
    (process rules see a below seen).Stalls rules see (a.atop below, seen) := by
  have h := advance_stalls (a := a) rules see below seen
  unfold process
  generalize advance rules see a seen = run at h ⊢
  intro hfault
  unfold conclude at hfault ⊢
  cases hending : run.ending with
  | faulted fault =>
    obtain ⟨b, hb, hstatus⟩ := h fault hending
    exact ⟨b, below, hb, by rw [hstatus]; trivial⟩
  | opened child =>
    rw [hending] at hfault
    exact absurd rfl hfault
  | left =>
    rw [hending] at hfault
    exact absurd rfl hfault

theorem runFor_stalls (rules : CreationRules) (see : Observer σ) (fuel : Nat) (last : Frame)
    {m : Machine} (hready : m.IsReady) (seen : σ) :
    (runFor rules see fuel last m seen).Stalls rules see (m, seen) := by
  induction fuel generalizing last m seen with
  | zero =>
    by_cases hempty : m.frames = []
    · rw [runFor_of_frames_eq_nil hempty]
      exact fun h => absurd rfl h
    · obtain ⟨a, below, rfl⟩ := exists_atop hempty
      exact fun _ => ⟨a, below, .refl, hready _ rfl⟩
  | succ fuel ih =>
    by_cases hempty : m.frames = []
    · rw [runFor_of_frames_eq_nil hempty]
      exact fun h => absurd rfl h
    · obtain ⟨a, below, rfl⟩ := exists_atop hempty
      have hstalls := process_stalls rules see a below seen
      have hwatches := process_watches rules see below (hready _ rfl) seen
      have hfollows := process_follows rules see below (hready _ rfl) seen
      rw [runFor_atop_succ]
      dsimp only at hwatches ⊢
      generalize process rules see a below seen = round at hstalls hwatches hfollows ⊢
      obtain ⟨frame, machine, seen', fault⟩ := round
      cases fault with
      | some fault => exact hstalls
      | none =>
        obtain ⟨⟨t, -, hturn⟩, -⟩ := hfollows
        intro hfault
        obtain ⟨b, below', hb, hstatus⟩ := ih frame (ready_of_turn hturn) seen' hfault
        exact ⟨b, below', (hwatches rfl).1.trans hb, hstatus⟩

end Machine

theorem Meter.launch_stalls (m : Meter) (see : Observer σ) (code : Bytes) (world : World)
    (gasLimit : Int) (seen : σ) :
    (m.launch see code world gasLimit seen).Stalls {} see (m.opening code world gasLimit, seen) :=
  Machine.runFor_stalls {} see _ _ opening_isReady seen

namespace Fate

/-- The open frames of a run with this fate: the first one has not come to its end, and was left by
a revert if that was its last operation. -/
inductive Follows (fate : Fate) : List Frame → Prop
  | alone {f : Frame} (hopen : fate.ended? = none) (hdepth : f.context.depth = 0)
    (hlast : f.status = .reverted ↔ fate.Reverts) : Follows fate [f]
  | above {f opener : Frame} {below : List Frame} (hbelow : Follows fate (opener :: below))
    (hwaits : opener.status = .suspended) (hdepth : 0 < f.context.depth) :
    Follows fate (f :: opener :: below)

namespace Follows

theorem open_ (h : fate.Follows frames) : fate.ended? = none := by
  induction h with
  | alone hopen => exact hopen
  | above _ _ _ ih => exact ih

theorem depth_nonneg (h : fate.Follows (f :: below)) : 0 ≤ f.context.depth := by
  cases h with
  | alone _ hdepth => exact hdepth.ge
  | above _ _ hdepth => exact hdepth.le

/-- The uppermost frame has changed, but was not reverted. -/
theorem top (h : fate.Follows (f :: below)) (hcontext : g.context = f.context)
    (hf : f.status ≠ .reverted) (hg : g.status ≠ .reverted) : fate.Follows (g :: below) := by
  cases h with
  | alone hopen hdepth hlast =>
    exact .alone hopen (hcontext ▸ hdepth) (iff_of_false hg (hlast.not.1 hf))
  | above hbelow hwaits hdepth => exact .above hbelow hwaits (hcontext ▸ hdepth)

/-- As long as the uppermost frame was not reverted, the first one was not. -/
theorem not_reverts (h : fate.Follows (f :: below)) (hf : f.status ≠ .reverted) :
    ¬ fate.Reverts := by
  induction below generalizing f with
  | nil =>
    cases h with
    | alone _ _ hlast => exact hlast.not.1 hf
  | cons opener below ih =>
    cases h with
    | above hbelow hwaits => exact ih hbelow (by simp [hwaits])

/-- The uppermost frame has executed an operation. -/
theorem told (h : fate.Follows (a.frame :: below)) (hstatus : a.frame.status = .executing)
    (hstep : Exec.step byte a = .ok child? a') :
    (a.told .fate byte a' fate).Follows (a'.frame :: below) := by
  have hcontext := (Exec.Local.of_ok hstep).context
  have hreverts := (Exec.status_of_step hstatus hstep).1
  have htold : a.told .fate byte a' fate =
      if a'.frame.context.depth = 0 then { fate with last? := some byte } else fate := rfl
  rw [htold, hcontext]
  cases h with
  | alone hopen hdepth hlast =>
    rw [if_pos hdepth]
    exact .alone hopen (hcontext ▸ hdepth) (hreverts.trans Option.some_inj.symm)
  | above hbelow hwaits hdepth =>
    rw [if_neg hdepth.ne']
    exact .above hbelow hwaits (hcontext ▸ hdepth)

/-- The frames that are open have the fate that was observed. -/
theorem watched (h : fate.Follows s.frames) (hmove : Watched rules .fate (s, fate) (t, fate'))
    (ht : t.frames ≠ []) : fate'.Follows t.frames := by
  cases hmove with
  | @start a below _ hstatus =>
    refine h.top (Activity.start_context rules a) (by simp [hstatus]) ?_
    rcases Activity.start_cases rules a with ⟨reason, -, hs⟩ | ⟨w, -, hs⟩ <;> rw [hs] <;> rintro ⟨⟩
  | runOff below _ hstatus => exact h.top rfl (by simp [hstatus]) (by rintro ⟨⟩)
  | step below _ hstatus _ hstep => exact h.told hstatus hstep
  | @open_ a a' byte child below _ hstatus _ hstep =>
    have htold := h.told hstatus hstep
    have hgoes := (Exec.status_of_step hstatus hstep).2 (Option.some_ne_none child)
    have hchild := (Exec.isOpenedBy_of_step hstep).depth
    have hopener := htold.depth_nonneg
    exact .above (htold.top rfl (by simp [hgoes]) (by rintro ⟨⟩)) rfl (by omega)
  | @halt a a' byte reason below _ hstatus _ hstep =>
    exact h.top (Exec.Local.of_error hstep).context (by simp [hstatus]) (by rintro ⟨⟩)
  | @close a below _ hleft =>
    cases h with
    | alone => exact absurd rfl ht
    | @above _ opener rest hbelow hwaits hdepth =>
      have hexit : Observer.fate (.exit (a.finish rules).frame) fate = fate := by
        refine if_neg ?_
        rw [Activity.finish_context]
        exact hdepth.ne'
      show (Observer.fate (.exit (a.finish rules).frame) fate).Follows
        (opener.resume (a.finish rules).frame :: rest)
      rw [hexit]
      refine hbelow.top (Frame.resume_context ..) (by simp [hwaits]) ?_
      rw [Frame.resume_status]
      decide

theorem watches (h : fate.Follows s.frames) (hwatches : Watches rules .fate (s, fate) (t, fate'))
    (ht : t.frames ≠ []) : fate'.Follows t.frames :=
  Watches.holds (p := fun m fate => fate.Follows m.frames) (fun hmove ht h => h.watched hmove ht) h
    hwatches ht

end Follows
end Fate

/-! How a frame that has come to its end shows in a result. -/

/-- How a frame has ended, which may have left its code by a revert. -/
def Frame.Ends (f : Frame) (reverts : Prop) : Prop :=
  (reverts ∧ f.status = .failed .revert) ∨ ¬ reverts ∧ (f.status = .succeeded ∨
    ∃ reason, f.status = .failed (.halt reason) ∧ f.output = #[])

/-- How a call ends that leaves its code with this operation, or runs past the code. -/
def Frame.LeftBy (f : Frame) (a : Activity) : Prop :=
  match a.nextByte? with
  | none => f.status = .succeeded ∧ f.output = #[]
  | some byte =>
    match Exec.step byte a with
    | .ok child? b => child? = none ∧ f.output = b.frame.output ∧
        f.status = if byte = Opcode.revert.byte then .failed .revert else .succeeded
    | .error (.halt reason) _ => f.status = .failed (.halt reason)
    | .error (.fault _) _ => False

namespace Activity

theorem settle_of_halted {reason : HaltReason} (h : a.frame.status = .halted reason) :
    a.settle.frame.status = .failed (.halt reason) ∧ a.settle.frame.output = #[] := by
  simp only [settle, h, and_self]

theorem finish_ends_by (rules : CreationRules) (hleft : a.frame.status.IsLeft) :
    (a.finish rules).frame.Ends (a.frame.status = .reverted) := by
  unfold finish
  rcases hleft.cases with hstatus | ⟨reason, hstatus⟩ | hstatus <;> rw [hstatus]
  · refine .inr ⟨by decide, ?_⟩
    rcases accept_status rules a with h | ⟨reason, h⟩
    · exact .inl (settle_status_of_succeeded h)
    · exact .inr ⟨reason, settle_of_halted h⟩
  · exact .inr ⟨by rintro ⟨⟩, .inr ⟨reason, settle_of_halted hstatus⟩⟩
  · exact .inl ⟨rfl, settle_status_of_reverted hstatus⟩

theorem start_of_call (rules : CreationRules) (hkind : a.frame.context.kind = .messageCall)
    (hvalue : a.frame.context.value = 0) : (a.start rules).frame.status = .executing := by
  simp [start, hkind, transfer?, hvalue, begin_]

/-- A call without a halt succeeds with its output. -/
theorem finish_of_returned (rules : CreationRules) (hkind : a.frame.context.kind = .messageCall)
    (h : a.frame.status = .returned) :
    (a.finish rules).frame.status = .succeeded ∧
      (a.finish rules).frame.output = a.frame.output := by
  simp [finish, h, accept, hkind, settle, mapFrame]

theorem finish_of_reverted (rules : CreationRules) (h : a.frame.status = .reverted) :
    (a.finish rules).frame.status = .failed .revert ∧
      (a.finish rules).frame.output = a.frame.output := by
  simp [finish, h, settle]

/-- A call without value, and alone, has left its code by one operation, or past its end. -/
theorem left_by (hkind : b.frame.context.kind = .messageCall) (hvalue : b.frame.context.value = 0)
    {s : Machine} (hmove : Move rules s (b.atop [])) (hleft : b.frame.status.IsLeft) :
    ∃ a, s = a.atop [] ∧ a.frame.status = .executing ∧ (b.finish rules).frame.LeftBy a := by
  generalize ht : b.atop [] = t at hmove
  cases hmove with
  | @start a below hstatus =>
    obtain ⟨rfl, rfl⟩ := atop_inj.1 ht
    rw [start_context] at hkind hvalue
    rw [start_of_call rules hkind hvalue] at hleft
    exact hleft.elim
  | @runOff a below hstatus hbyte =>
    obtain ⟨rfl, rfl⟩ := atop_inj.1 ht
    refine ⟨a, rfl, hstatus, ?_⟩
    rw [Frame.LeftBy, hbyte]
    exact finish_of_returned rules hkind rfl
  | @step a _ byte below hstatus hbyte hstep =>
    obtain ⟨rfl, rfl⟩ := atop_inj.1 ht
    refine ⟨a, rfl, hstatus, ?_⟩
    have hreverts := (Exec.status_of_step hstatus hstep).1
    simp only [Frame.LeftBy, hbyte, hstep, ← hreverts, true_and]
    rcases hleft.cases with hb | ⟨reason, hb⟩ | hb
    · simpa [hb] using (finish_of_returned rules hkind hb).symm
    · rcases (Exec.Local.of_ok hstep).status with h | h | h <;> simp_all
    · simpa [hb] using (finish_of_reverted rules hb).symm
  | open_ => simp [atop, opening] at ht
  | @halt a a' byte reason below hstatus hbyte hstep =>
    obtain ⟨rfl, rfl⟩ := atop_inj.1 ht
    refine ⟨a, rfl, hstatus, ?_⟩
    simp only [Frame.LeftBy, hbyte, hstep]
    exact (settle_of_halted rfl).1
  | @close a below hleft' =>
    cases below with
    | nil => cases congrArg Machine.frames ht
    | cons opener rest =>
      have hframe : b.frame = opener.resume (a.finish rules).frame :=
        (List.cons.inj (congrArg Machine.frames ht)).1
      rw [hframe, Frame.resume_status] at hleft
      exact hleft.elim

end Activity

namespace Round

section
variable {r : Round σ} {gas elapsed : Int}

theorem result_of_fault (hfault : r.fault ≠ none) :
    (r.result gas elapsed).HasForm .exceptionalHalt ∧
      (r.result gas elapsed).haltReason? = some .internalError := by
  obtain ⟨fault, hsome⟩ := Option.ne_none_iff_exists'.1 hfault
  unfold result
  rw [hsome]
  exact ⟨⟨rfl, by rintro ⟨⟩, rfl, rfl⟩, rfl⟩

/-- Without a fault a result shows the reasons and the output of the last frame. -/
theorem result_shows (hfault : r.fault = none) :
    (r.result gas elapsed).haltReason? = r.frame.haltReason? ∧
      (r.result gas elapsed).revertReason? = r.frame.revertReason? ∧
      (r.result gas elapsed).output = r.frame.output := by
  unfold result
  rw [hfault]
  exact ⟨rfl, rfl, rfl⟩

theorem result_of_succeeded (hfault : r.fault = none) (h : r.frame.status = .succeeded) :
    (r.result gas elapsed).HasForm .normal := by
  simp [result, ExecutionResult.HasForm, hfault, h, Frame.haltReason?, Frame.revertReason?]

theorem result_of_reverted (hfault : r.fault = none) (h : r.frame.status = .failed .revert) :
    (r.result gas elapsed).HasForm .reverted := by
  simp [result, ExecutionResult.HasForm, hfault, h, Frame.haltReason?, Frame.revertReason?]

theorem result_of_halted {reason : HaltReason} (hfault : r.fault = none)
    (h : r.frame.status = .failed (.halt reason)) (houtput : r.frame.output = #[]) :
    (r.result gas elapsed).HasForm .exceptionalHalt := by
  simp [result, ExecutionResult.HasForm, hfault, h, houtput, Frame.haltReason?,
    Frame.revertReason?]

end

/-- What was observed is the fate of the first frame: where a fault was met this frame has not come
to its end, and was not reverted; else it is the last frame of the run, and has ended as its last
operation says. -/
structure Bears (r : Round Fate) : Prop where
  open_ : r.fault ≠ none → r.seen.ended? = none ∧ ¬ r.seen.Reverts
  ended : r.fault = none → r.seen.ended? = some r.frame ∧ r.frame.Ends r.seen.Reverts

variable {r : Round Fate} {gas elapsed : Int}

/-- A run that has ended with its first frame, or met a fault, bears the fate of this frame. -/
theorem bears_of_follows (hs : ({} : Fate).Follows s.frames)
    (hstalls : r.Stalls rules .fate (s, {}))
    (hcloses : r.fault = none → r.Closes rules .fate (s, {})) : r.Bears := by
  constructor
  · intro hfault
    obtain ⟨b, below, hwatches, hready⟩ := hstalls hfault
    have hfollows := hs.watches hwatches (List.cons_ne_nil _ _)
    refine ⟨hfollows.open_, hfollows.not_reverts fun hreverted => ?_⟩
    rw [hreverted] at hready
    exact hready
  · intro hfault
    obtain ⟨a, fate, hwatches, hleft, hframe, hseen⟩ := hcloses hfault
    cases hs.watches hwatches (List.cons_ne_nil _ _) with
    | alone hopen hdepth hlast =>
      have hexit : Observer.fate (.exit r.frame) fate = { fate with ended? := some r.frame } := by
        refine if_pos ?_
        rwa [hframe, Activity.finish_context]
      have hends := Activity.finish_ends_by rules hleft
      rw [hlast, ← hframe] at hends
      rw [hexit] at hseen
      rw [hseen]
      exact ⟨rfl, hends⟩

theorem Bears.fault_eq_none (h : r.Bears) (hended : r.seen.ended? = some f) :
    r.fault = none ∧ r.frame = f := by
  have hopen := h.open_
  have hlast := h.ended
  grind

theorem Bears.fault_ne_none (h : r.Bears) (hopen : r.seen.ended? = none) : r.fault ≠ none := by
  intro hfault
  simp [(h.ended hfault).1] at hopen

/-- The fate of the first frame decides on the form of the result. -/
theorem Bears.form (h : r.Bears) (gas elapsed : Int) :
    ∃ form, (r.result gas elapsed).HasForm form ∧ (form = .normal ↔ r.seen.Succeeds) ∧
      (form = .reverted ↔ r.seen.Reverts) := by
  by_cases hfault : r.fault = none
  · obtain ⟨hended, hends⟩ := h.ended hfault
    rw [Fate.succeeds_iff hended]
    rcases hends with ⟨hreverts, hs⟩ | ⟨hreverts, hs | ⟨reason, hs, houtput⟩⟩
    · exact ⟨_, result_of_reverted hfault hs, by simp [hs], by simp [hreverts]⟩
    · exact ⟨_, result_of_succeeded hfault hs, by simp [hs], by simp [hreverts]⟩
    · exact ⟨_, result_of_halted hfault hs houtput, by simp [hs], by simp [hreverts]⟩
  · obtain ⟨hopen, hreverts⟩ := h.open_ hfault
    exact ⟨_, (result_of_fault hfault).1, by simp [Fate.Succeeds, hopen], by simp [hreverts]⟩

end Round

namespace Meter

theorem launch_bears (m : Meter) (code : Bytes) (world : World) (gasLimit : Int) :
    (m.launch .fate code world gasLimit {}).Bears := by
  have hopening : ({} : Fate).Follows (m.opening code world gasLimit).frames :=
    .alone rfl rfl (iff_of_false (by rintro ⟨⟩) (by rintro ⟨⟩))
  exact Round.bears_of_follows hopening (launch_stalls m .fate code world gasLimit {})
    (launch_closes m .fate code world gasLimit {})

/-- A launch that meets no fault ends as its first frame has left its code. -/
theorem launch_left_by (m : Meter) (code : Bytes) (world : World) (gasLimit : Int)
    (hfault : (m.launch .fate code world gasLimit {}).fault = none) :
    ∃ a, Reaches {} (m.opening code world gasLimit) (Activity.atop a []) ∧
      a.frame.status = .executing ∧ (m.launch .fate code world gasLimit {}).frame.LeftBy a := by
  have hends := launch_concludes m .fate code world gasLimit {}
  rw [Round.Concludes, hfault] at hends
  obtain ⟨b, hreach, hleft, hframe, -⟩ := hends
  have hcontext : b.frame.context = (m.initialFrame code world gasLimit).context :=
    Option.some.inj (Machine.lowestContext?_of_reaches hreach (List.cons_ne_nil _ _))
  obtain heq | ⟨s, hbefore, hmove⟩ := hreach.cases_tail
  · have hnew : b.frame = m.initialFrame code world gasLimit :=
      (List.cons.inj (congrArg Machine.frames heq)).1
    rw [hnew] at hleft
    exact hleft.elim
  · obtain ⟨a, rfl, hstatus, hby⟩ := Activity.left_by (by rw [hcontext]; rfl)
      (by rw [hcontext]; rfl) hmove hleft
    rw [hframe]
    exact ⟨a, hbefore, hstatus, hby⟩

/-- Every launch has a result of exactly one form: a normal one if its first frame has succeeded,
one of a revert, with the output as its reason, if the last operation of that frame was a revert,
and one of a halt, without any output, in all other cases. The reasons and the output are those of
the first frame, if it has come to its end, and there they come from the one operation with which it
has left its code, whatever has become of the frames above it; else the machine has met a fault. -/
theorem launch_result_form (m : Meter) (see : Observer σ) (code : Bytes) (world : World)
    (gasLimit : Int) (seen : σ) (elapsed : Int) :
    let fate := (m.launch .fate code world gasLimit {}).seen
    let r := (m.launch see code world gasLimit seen).result (m.initialGas gasLimit) elapsed
    (∃! status, r.HasForm status) ∧
    (r.HasForm .normal ↔ fate.Succeeds) ∧
    (r.HasForm .reverted ↔ fate.Reverts) ∧
    (r.HasForm .exceptionalHalt ↔ ¬ fate.Succeeds ∧ ¬ fate.Reverts) ∧
    (∀ f, fate.ended? = some f →
      (r.haltReason? = f.haltReason? ∧ r.revertReason? = f.revertReason? ∧ r.output = f.output) ∧
      ∃ a, Reaches {} (m.opening code world gasLimit) (Activity.atop a []) ∧
        a.frame.status = .executing ∧ f.LeftBy a) ∧
    (fate.ended? = none → r.haltReason? = some .internalError) := by
  dsimp only
  rw [launch_result_eq m see .fate code world gasLimit seen {}]
  have hbears := launch_bears m code world gasLimit
  have hleft := launch_left_by m code world gasLimit
  generalize m.launch .fate code world gasLimit {} = round at hbears hleft ⊢
  obtain ⟨form, hform, hnormal, hreverted⟩ := hbears.form (m.initialGas gasLimit) elapsed
  refine ⟨⟨form, hform, fun _ h => hform.iff_eq.1 h⟩, ?_, ?_, ?_, ?_, ?_⟩
  · rw [hform.iff_eq, eq_comm, hnormal]
  · rw [hform.iff_eq, eq_comm, hreverted]
  · rw [hform.iff_eq, ← hnormal, ← hreverted]
    cases form <;> decide
  · intro f hended
    obtain ⟨hfault, rfl⟩ := hbears.fault_eq_none hended
    exact ⟨Round.result_shows hfault, hleft hfault⟩
  · exact fun hopen => (Round.result_of_fault (hbears.fault_ne_none hopen)).2

/-- Calls the contract that reverts, and ends. -/
def callingReverting : Bytes :=
  #[0x3d, 0x3d, 0x3d, 0x3d, 0x3d, 0x62, 0x0d, 0xea, 0xd5, 0x5a, 0xf1]

/-- Calls the contract that returns, and halts. -/
def haltingAfterCall : Bytes :=
  #[0x3d, 0x3d, 0x3d, 0x3d, 0x3d, 0x62, 0x0c, 0xa1, 0x1e, 0x5a, 0xf1, 0xfe]

/-- Neither the revert of a callee shows, which has left a byte as its reason, nor the word that
another one has returned before the halt. The contract that reverts is run by itself as well. -/
theorem launch_result_form_threeRuns :
    let fate (code : Bytes) := (({} : Meter).launch .fate code (Fixture.world code) 1000 {}).seen
    let r (code : Bytes) := (({} : Meter).launch .blind code (Fixture.world code) 1000 ()).result
      (({} : Meter).initialGas 1000) 0
    (∃ f, ((fate callingReverting).ended? = some f ∧ f.returnData.size = 1) ∧
      (r callingReverting).HasForm .normal ∧ ¬ (fate callingReverting).Reverts ∧
      (r callingReverting).revertReason? = f.revertReason?) ∧
    (∃ f, ((fate Fixture.revertingCode).ended? = some f ∧ f.output = #[0]) ∧
      (r Fixture.revertingCode).HasForm .reverted ∧
      (r Fixture.revertingCode).revertReason? = some #[0]) ∧
    ∃ f, ((fate haltingAfterCall).ended? = some f ∧ f.returnData.size = 32) ∧
      (r haltingAfterCall).HasForm .exceptionalHalt ∧
      (r haltingAfterCall).haltReason? = some .invalidOperation ∧
      ∃ a, Reaches {} (({} : Meter).opening haltingAfterCall (Fixture.world haltingAfterCall) 1000)
        (Activity.atop a []) ∧ a.frame.status = .executing ∧ f.LeftBy a := by
  intro fate r
  refine ⟨?_, ?_, ?_⟩
  · have hrun : (fate callingReverting).ended?.any
        (fun f => decide (f.status = .succeeded ∧ f.returnData.size = 1)) = true := by
      decide +kernel
    obtain ⟨f, hended, hf⟩ := (Option.any_eq_true ..).1 hrun
    obtain ⟨hstatus, hdata⟩ := of_decide_eq_true hf
    obtain ⟨-, hnormal, hreverted, -, hshows, -⟩ := launch_result_form {} .blind callingReverting
      (Fixture.world callingReverting) 1000 () 0
    have hform : (r callingReverting).HasForm .normal :=
      hnormal.2 ((Fate.succeeds_iff hended).2 hstatus)
    obtain ⟨⟨-, hreason, -⟩, -⟩ := hshows f hended
    refine ⟨f, ⟨hended, hdata⟩, hform, fun hreverts => ?_, hreason⟩
    cases hform.1.symm.trans (hreverted.2 hreverts).1
  · have hrun :
        (fate Fixture.revertingCode).ended?.any (fun f => decide (f.output = #[0])) = true := by
      decide +kernel
    have hlast : (fate Fixture.revertingCode).last? = some Opcode.revert.byte := by decide +kernel
    obtain ⟨f, hended, hf⟩ := (Option.any_eq_true ..).1 hrun
    have houtput := of_decide_eq_true hf
    obtain ⟨-, -, hreverted, -, hshows, -⟩ := launch_result_form {} .blind Fixture.revertingCode
      (Fixture.world Fixture.revertingCode) 1000 () 0
    have hform : (r Fixture.revertingCode).HasForm .reverted := hreverted.2 hlast
    obtain ⟨⟨-, -, hshown⟩, -⟩ := hshows f hended
    refine ⟨f, ⟨hended, houtput⟩, hform, ?_⟩
    rw [hform.2.2, hshown, houtput]
  · have hrun : (fate haltingAfterCall).ended?.any (fun f => decide
        (f.status = .failed (.halt .invalidOperation) ∧ f.returnData.size = 32)) = true := by
      decide +kernel
    have hlast : (fate haltingAfterCall).last? ≠ some Opcode.revert.byte := by decide +kernel
    obtain ⟨f, hended, hf⟩ := (Option.any_eq_true ..).1 hrun
    obtain ⟨hstatus, hdata⟩ := of_decide_eq_true hf
    obtain ⟨-, -, -, hhalted, hshows, -⟩ := launch_result_form {} .blind haltingAfterCall
      (Fixture.world haltingAfterCall) 1000 () 0
    have hfails : ¬ (fate haltingAfterCall).Succeeds := by
      rw [Fate.succeeds_iff hended, hstatus]
      rintro ⟨⟩
    have hform : (r haltingAfterCall).HasForm .exceptionalHalt := hhalted.2 ⟨hfails, hlast⟩
    obtain ⟨⟨hreason, -, -⟩, hleft⟩ := hshows f hended
    refine ⟨f, ⟨hended, hdata⟩, hform, hreason.trans ?_, hleft⟩
    rw [Frame.haltReason?, hstatus]

end Meter

end Gasometer
