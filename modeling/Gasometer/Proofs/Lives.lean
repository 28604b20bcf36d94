import Gasometer.Machine.Basic
import Gasometer.Proofs.Calls

/-!
# Sound lives of frames

Starting a frame, bringing it to its end and handing the end to its opener keep frames and worlds
sound, and make no gas.
-/
namespace Gasometer

variable {k : Scale} {rules : CreationRules} {a : Activity}

/-- Whether contracts made under these rules keep to the scale. -/
def CreationRules.Fits (rules : CreationRules) (k : Scale) : Prop :=
  k.numbers = .word → 0 ≤ rules.initialNonce ∧ rules.initialNonce ≤ k.nonce

namespace Activity

theorem transfer?_below {c : Context} {w w' : World} (h : transfer? c w = some w') :
    w'.below = w.below := by
  unfold transfer? at h
  split at h
  · cases h; rfl
  · split at h
    · cases h
    · split at h <;> cases h
      rfl

theorem transfer?_sound {c : Context} {w w' : World} (hw : w.Sound k) (hv : 0 ≤ c.value)
    (h : transfer? c w = some w') : w'.Sound k := by
  unfold transfer? at h
  split at h
  case isTrue => cases h; exact hw.touch c.address
  case isFalse hne =>
    rw [not_or] at hne
    cases hsender : w.get? c.sender with
    | none => simp only [hsender] at h; cases h
    | some sender =>
      simp only [hsender] at h
      split at h
      · cases h
      · rename_i hfunds
        cases h
        have haccount : w.account c.sender = sender := by rw [World.account, hsender]; rfl
        have hmove := hw.move hne.2 hv (by rw [haccount]; exact not_lt.1 hfunds)
        rwa [haccount] at hmove

/-- The world in which a frame begins to run: a creation has claimed its address. -/
def claimed (rules : CreationRules) (c : Context) (w : World) : World :=
  match c.kind with
  | .messageCall => w
  | .contractCreation => w.modify c.address fun account =>
      { account with nonce := rules.initialNonce, storage := Table.empty }

/-- A frame that is started is stopped at once, or has moved its value and runs. -/
theorem start_cases (rules : CreationRules) (a : Activity) :
    (∃ reason, reason ≠ .internalError ∧ a.start rules = a.mapFrame (·.halt reason)) ∨
      ∃ w, transfer? a.frame.context a.world = some w ∧
        a.start rules = a.begin_ (claimed rules a.frame.context w) := by
  unfold start claimed
  dsimp only
  cases a.frame.context.kind with
  | messageCall =>
    cases transfer? a.frame.context a.world with
    | none => exact .inl ⟨_, by decide, rfl⟩
    | some w => exact .inr ⟨w, rfl, rfl⟩
  | contractCreation =>
    dsimp only
    split_ifs
    · exact .inl ⟨_, by decide, rfl⟩
    · cases transfer? a.frame.context a.world with
      | none => exact .inl ⟨_, by decide, rfl⟩
      | some w => exact .inr ⟨w, rfl, rfl⟩

theorem claimed_below (rules : CreationRules) (c : Context) (w : World) :
    (claimed rules c w).below = w.below := by
  unfold claimed
  cases c.kind <;> rfl

theorem claimed_sound {c : Context} {w : World} (hw : w.Sound k) (hrules : rules.Fits k) :
    (claimed rules c w).Sound k := by
  unfold claimed
  cases c.kind with
  | messageCall => exact hw
  | contractCreation =>
    have h := hw.account c.address
    exact hw.modify _ ⟨h.balance, fun _ => Numbers.holds_zero, h.code, hrules⟩ le_rfl

theorem Sound.of_status (hs : a.Sound k) (status : FrameStatus) :
    (a.mapFrame fun f => { f with status := status }).Sound k :=
  ⟨{ hs.frame with }, hs.world⟩

theorem start_sound (hs : a.Sound k) (hrules : rules.Fits k) : (a.start rules).Sound k := by
  rcases start_cases rules a with ⟨reason, -, h⟩ | ⟨w, hw, h⟩
  · rw [h]
    exact hs.of_status (.halted reason)
  · rw [h]
    have hmoved := transfer?_sound hs.world hs.frame.context.value hw
    exact ⟨(hs.of_status .executing).frame, claimed_sound hmoved hrules⟩

end Activity

/-- Whether the code was left, so that the frame is to be brought to its end. -/
def FrameStatus.IsLeft : FrameStatus → Prop
  | .returned | .halted _ | .reverted => True
  | _ => False

theorem FrameStatus.IsLeft.cases {status : FrameStatus} (h : status.IsLeft) :
    status = .returned ∨ (∃ reason, status = .halted reason) ∨ status = .reverted := by
  cases status with
  | returned => exact .inl rfl
  | halted reason => exact .inr (.inl ⟨reason, rfl⟩)
  | reverted => exact .inr (.inr rfl)
  | notStarted | executing | suspended | succeeded | failed => exact h.elim

namespace Activity

def depositCost (f : Frame) : Int :=
  match f.context.kind with
  | .messageCall => 0
  | .contractCreation => Gas.codeByte * f.output.size

def deposited (a : Activity) : World :=
  match a.frame.context.kind with
  | .messageCall => a.world
  | .contractCreation => a.world.modify a.frame.context.address fun account =>
      { account with code := a.frame.output }

def succeed (a : Activity) : Activity :=
  { a with
    frame := { a.frame with gas := a.frame.gas - depositCost a.frame, status := .succeeded }
    world := deposited a }

theorem depositCost_nonneg (f : Frame) : 0 ≤ depositCost f := by
  unfold depositCost
  split
  · exact le_rfl
  · exact Int.mul_nonneg (by decide) (Int.natCast_nonneg _)

/-- A frame that is to succeed does, or is stopped. -/
theorem accept_cases (rules : CreationRules) (a : Activity) :
    (∃ reason, reason ≠ .internalError ∧ a.accept rules = a.mapFrame (·.halt reason)) ∨
      ((0 ≤ a.frame.gas → depositCost a.frame ≤ a.frame.gas) ∧ a.accept rules = a.succeed) := by
  unfold accept succeed deposited depositCost
  dsimp only
  cases a.frame.context.kind with
  | messageCall =>
    refine .inr ⟨id, ?_⟩
    dsimp only
    rw [Int.sub_zero]
    rfl
  | contractCreation =>
    dsimp only
    split_ifs with hsize hmark hdeposit
    · exact .inl ⟨_, by decide, rfl⟩
    · exact .inl ⟨_, by decide, rfl⟩
    · exact .inl ⟨_, by decide, rfl⟩
    · exact .inr ⟨fun _ => not_lt.1 hdeposit, rfl⟩

/-- A frame whose code was left fails with a halt, or by its own revert, or succeeds. -/
theorem finish_cases (rules : CreationRules) {a : Activity} (hgas : 0 ≤ a.frame.gas)
    (hleft : a.frame.status.IsLeft) :
    (∃ reason, (a.frame.status = .halted reason ∨ reason ≠ .internalError) ∧
      a.finish rules = settle (a.mapFrame (·.halt reason))) ∨
    (a.frame.status = .reverted ∧ a.finish rules = settle a) ∨
    (a.frame.status = .returned ∧ depositCost a.frame ≤ a.frame.gas ∧
      a.finish rules = settle a.succeed) := by
  unfold finish
  rcases hleft.cases with hstatus | ⟨reason, hstatus⟩ | hstatus <;> rw [hstatus]
  · dsimp only
    rcases accept_cases rules a with ⟨reason, hr, h⟩ | ⟨hd, h⟩
    · exact .inl ⟨reason, .inr hr, by rw [h]⟩
    · exact .inr (.inr ⟨rfl, hd hgas, by rw [h]⟩)
  · refine .inl ⟨reason, .inl rfl, ?_⟩
    have hsame : a.mapFrame (·.halt reason) = a := by
      rw [mapFrame, Frame.halt, ← hstatus]
    rw [hsame]
  · exact .inr (.inl ⟨rfl, rfl⟩)

def bearings (a : Activity) : AccessList × Context := (a.access, a.frame.context)

theorem start_bearings (rules : CreationRules) (a : Activity) :
    (a.start rules).bearings = a.bearings := by
  rcases start_cases rules a with ⟨reason, -, h⟩ | ⟨w, -, h⟩ <;> rw [h] <;> rfl

theorem accept_bearings (rules : CreationRules) (a : Activity) :
    (a.accept rules).bearings = a.bearings := by
  rcases accept_cases rules a with ⟨reason, -, h⟩ | ⟨-, h⟩ <;> rw [h] <;> rfl

theorem settle_bearings (a : Activity) : a.settle.bearings = a.bearings := by
  unfold settle bearings
  dsimp only
  cases a.frame.status <;> rfl

/-- The end of a frame leaves the access list as it is, whether its effects are kept or not. -/
theorem finish_bearings (rules : CreationRules) (a : Activity) :
    (a.finish rules).bearings = a.bearings := by
  unfold finish
  split
  · exact (settle_bearings _).trans (accept_bearings rules a)
  · exact settle_bearings a

theorem start_context (rules : CreationRules) (a : Activity) :
    (a.start rules).frame.context = a.frame.context := congrArg Prod.snd (start_bearings rules a)

theorem finish_context (rules : CreationRules) (a : Activity) :
    (a.finish rules).frame.context = a.frame.context := congrArg Prod.snd (finish_bearings rules a)

theorem start_access (rules : CreationRules) (a : Activity) :
    (a.start rules).access = a.access := congrArg Prod.fst (start_bearings rules a)

theorem finish_access (rules : CreationRules) (a : Activity) :
    (a.finish rules).access = a.access := congrArg Prod.fst (finish_bearings rules a)

/-- What bringing a frame to its end does to its gas and its world. -/
structure Ended (k : Scale) (a a' : Activity) : Prop where
  sound : a'.Sound k
  context : a'.frame.context = a.frame.context
  gas : a'.frame.gas ≤ a.frame.gas
  stake : a'.frame.stake ≤ a.frame.stake
  height : a'.world.below.length = a.world.below.length

theorem below_commit (w : World) : w.commit.below.length = w.below.length := by
  obtain ⟨t, below⟩ := w
  cases below <;> rfl

theorem settle_halted_ended (hs : a.Sound k) (hbase : k.base ≤ a.world.below.length)
    (reason : HaltReason) : Ended k a (settle (a.mapFrame (·.halt reason))) where
  sound :=
    ⟨{ hs.frame.spend le_rfl hs.frame.gas with output := Bytes.held_empty }, hs.world.revert hbase⟩
  context := rfl
  gas := hs.frame.gas
  stake := Frame.stake_mono rfl hs.frame.gas
  height := rfl

theorem settle_reverted_ended (hs : a.Sound k) (hbase : k.base ≤ a.world.below.length)
    (hstatus : a.frame.status = .reverted) : Ended k a (settle a) := by
  unfold settle
  simp only [hstatus]
  exact
    { sound := ⟨{ hs.frame with }, hs.world.revert hbase⟩
      context := rfl
      gas := le_rfl
      stake := le_rfl
      height := rfl }

theorem deposited_sound (hs : a.Sound k) : (deposited a).Sound k := by
  unfold deposited
  cases a.frame.context.kind with
  | messageCall => exact hs.world
  | contractCreation =>
    have h := hs.world.account a.frame.context.address
    exact hs.world.modify _ ⟨h.balance, h.storage, hs.frame.output.holds, h.nonce⟩ le_rfl

theorem deposited_below (a : Activity) : (deposited a).below = a.world.below := by
  unfold deposited
  cases a.frame.context.kind <;> rfl

/-- The world of a frame that succeeds, without the contracts that have ended if it is the first. -/
def swept (f : Frame) (w : World) : World :=
  if f.context.depth = 0 then f.selfDestructs.foldl World.delete w else w

theorem swept_sound {w : World} (hw : w.Sound k) (f : Frame) : (swept f w).Sound k := by
  unfold swept
  split_ifs
  · exact hw.foldl_delete f.selfDestructs
  · exact hw

theorem swept_below (f : Frame) (w : World) : (swept f w).below = w.below := by
  unfold swept
  split_ifs
  · exact World.below_foldl_delete _ w
  · rfl

theorem settle_succeed (a : Activity) :
    settle a.succeed = { a.succeed with world := (swept a.frame (deposited a)).commit } := rfl

theorem settle_succeeded_ended (hs : a.Sound k) (hd : depositCost a.frame ≤ a.frame.gas) :
    Ended k a (settle a.succeed) := by
  have hgas := Int.sub_le_self a.frame.gas (depositCost_nonneg a.frame)
  have hpaid := hs.frame.spend (Int.sub_nonneg_of_le hd) hgas
  rw [settle_succeed]
  exact
    { sound := ⟨{ hpaid with }, (swept_sound (deposited_sound hs) a.frame).commit⟩
      context := rfl
      gas := hgas
      stake := Frame.stake_mono rfl hgas
      height := by rw [below_commit, swept_below, deposited_below] }

theorem finish_ended (hs : a.Sound k) (hbase : k.base ≤ a.world.below.length)
    (hleft : a.frame.status.IsLeft) : Ended k a (a.finish rules) := by
  rcases finish_cases rules hs.frame.gas hleft with ⟨reason, -, h⟩ | ⟨hstatus, h⟩ | ⟨-, hd, h⟩
  · rw [h]; exact settle_halted_ended hs hbase reason
  · rw [h]; exact settle_reverted_ended hs hbase hstatus
  · rw [h]; exact settle_succeeded_ended hs hd

/-- A frame that ends with a halt has no gas left. No halt by an internal error is new. -/
theorem finish_haltReason {reason : HaltReason} (hgas : 0 ≤ a.frame.gas)
    (hleft : a.frame.status.IsLeft) (h : (a.finish rules).frame.haltReason? = some reason) :
    (a.finish rules).frame.gas = 0 ∧
      (a.frame.haltReason? = some reason ∨ reason ≠ .internalError) := by
  rcases finish_cases rules hgas hleft with ⟨cause, hcause, hf⟩ | ⟨hstatus, hf⟩ | ⟨-, -, hf⟩
  · rw [hf] at h ⊢
    obtain rfl : cause = reason := Option.some.inj h
    refine ⟨rfl, hcause.imp_left fun hstatus => ?_⟩
    rw [Frame.haltReason?, hstatus]
  · have hsettled : (settle a).frame.haltReason? = none := by
      simp [settle, hstatus, Frame.haltReason?]
    rw [hf, hsettled] at h
    cases h
  · rw [hf, settle_succeed] at h
    cases h

end Activity

namespace Frame

variable {f child : Frame}

@[simp] theorem resume_gas (f child : Frame) : (f.resume child).gas = f.gas + child.gas := by
  unfold resume
  cases child.context.completion <;> dsimp only <;> split_ifs <;> rfl

@[simp] theorem resume_status (f child : Frame) : (f.resume child).status = .executing := by
  unfold resume
  cases child.context.completion <;> dsimp only <;> split_ifs <;> rfl

@[simp] theorem resume_context (f child : Frame) : (f.resume child).context = f.context := by
  unfold resume
  cases child.context.completion <;> dsimp only <;> split_ifs <;> rfl

@[simp] theorem resume_output (f child : Frame) : (f.resume child).output = f.output := by
  unfold resume
  cases child.context.completion <;> dsimp only <;> split_ifs <;> rfl

/-- The opener has the returned data that it had, or gets the output of the child. -/
theorem resume_returnData (f child : Frame) :
    (f.resume child).returnData = f.returnData ∨ (f.resume child).returnData = child.output := by
  unfold resume
  cases child.context.completion with
  | silent => dsimp only; split_ifs <;> exact .inl rfl
  | call => exact .inr rfl
  | creation => dsimp only; split_ifs <;> first | exact .inl rfl | exact .inr rfl

/-- The output of a child does not change the size of its opener's memory. -/
theorem resume_memory (hawaits : f.Awaits child.context.completion) :
    (f.resume child).memory.size = f.memory.size := by
  unfold resume
  cases hc : child.context.completion with
  | silent | creation => dsimp only; split_ifs <;> rfl
  | call outOffset outSize =>
    rw [hc] at hawaits
    obtain ⟨ho, hs, hreach⟩ := hawaits
    dsimp only
    split_ifs with hout <;> dsimp only
    all_goals
      have hn : 0 ≤ min outSize (child.output.size : Int) := le_min hs (Int.natCast_nonneg _)
      have hslice := Bytes.size_slice_zero hn (min_le_right _ _)
      have hend := hreach hout.1
      exact Bytes.size_splice ho (by omega) (by omega) (by omega)

/-- The numbers that an opener may find on its stack when it goes on. -/
theorem resume_stack {n : Numbers} (hstack : ∀ x ∈ f.stack.items, n.Holds x)
    (hnumber : ∀ number, child.context.completion = .creation number → n.Holds number) :
    ∀ x ∈ (f.resume child).stack.items, n.Holds x := by
  have hpush (y : Int) (hy : n.Holds y) : ∀ x ∈ (f.stack.push y).items, n.Holds x :=
    List.forall_mem_cons.2 ⟨hy, hstack⟩
  unfold resume
  cases hc : child.context.completion with
  | silent => dsimp only; split_ifs <;> exact hstack
  | call =>
    dsimp only
    split_ifs <;> first | exact hpush _ Numbers.holds_one | exact hpush _ Numbers.holds_zero
  | creation number =>
    have := hnumber number hc
    dsimp only
    split_ifs <;> first | exact hpush _ this | exact hpush _ Numbers.holds_zero

theorem resume_stake (hawaits : f.Awaits child.context.completion) :
    (f.resume child).stake = f.stake + child.gas := by
  simp only [stake, memoryWords, resume_gas, resume_memory hawaits]
  omega

theorem resume_sound (hf : f.Sound k) (hchild : child.Sound k)
    (hawaits : f.Awaits child.context.completion) (hstake : f.stake + child.gas ≤ k.gas) :
    (f.resume child).Sound k where
  context := by rw [resume_context]; exact hf.context
  gas := by rw [resume_gas]; exact Int.add_nonneg hf.gas hchild.gas
  stake := by rw [resume_stake hawaits]; exact hstake
  stack := resume_stack hf.stack hchild.context.completion
  words := by
    have := hf.words
    simp only [memoryWords, resume_memory hawaits] at *
    exact this
  memory := by rw [Bytes.Held, resume_memory hawaits]; exact hf.memory
  output := by rw [resume_output]; exact hf.output
  returnData := by
    rcases resume_returnData f child with h | h
    · rw [h]; exact hf.returnData
    · rw [h]; exact hchild.output

end Frame
end Gasometer
