import Gasometer.Machine.Basic
import Gasometer.Proofs.Outcome

/-!
# Locality of operations

Most operations change only the gas, the place, the stack, the memory and the data of their frame.
The class `Exec.Within` finds of an operation from its parts that it stays within a relation of the
states before to those after, once for every relation that admits such changes.

One such relation is that the context of the frame and the layers beneath stay, and that the status
of the frame stays or says that the code was left. All operations stay within it, however they end.
This needs no numbers to be sound.

Changes that cost nothing and leave the memory as it is are `Exec.Idle`.
-/
namespace Gasometer

/-- Two states that are the same in one respect. -/
def Activity.Same {γ : Type} (f : Activity → γ) (a a' : Activity) : Prop := f a' = f a

namespace Exec

variable {α β : Type} {R : Activity → Activity → Prop}

/-- A relation of states to later ones that admits every change of the gas, the place, the stack,
the memory and the data of the frame, and that its code is left. -/
class Inward (R : Activity → Activity → Prop) : Prop where
  refl : ∀ a, R a a
  trans : ∀ {a b c}, R a b → R b c → R a c
  update : ∀ (a : Activity) (gas : Int) (pc : Nat) (stack : Stack)
    (memory returnData output : Bytes), R a (a.mapFrame fun f => { f with
      gas := gas, pc := pc, stack := stack, memory := memory, returnData := returnData,
      output := output })
  leave : ∀ (a : Activity) (status : FrameStatus) (output : Bytes),
    status = .returned ∨ status = .reverted →
      R a (a.mapFrame fun f => { f with output := output, status := status })

/-- A change that stays within a relation, also where it is stopped. -/
class Within (R : Activity → Activity → Prop) (x : Exec α) : Prop where
  kept : ∀ a, x.Yields a (fun _ a' => R a a') fun _ a' => R a a'

/-! The primitives. -/

section
variable [hR : Inward R]

instance withinPure (v : α) : Within R (Pure.pure v : Exec α) := ⟨fun a => hR.refl a⟩

theorem Within.bind {x : Exec α} {f : α → Exec β} (hx : Within R x) (hf : ∀ v, Within R (f v)) :
    Within R (x >>= f) where
  kept a := (hx.kept a).bind fun v b hb =>
    ((hf v).kept b).imp (fun _ _ hc => hR.trans hb hc) fun _ _ hc => hR.trans hb hc

instance withinBind (x : Exec α) (f : α → Exec β) [hx : Within R x] [hf : ∀ v, Within R (f v)] :
    Within R (x >>= f) := hx.bind hf

omit hR in
instance withinIte (p : Prop) [Decidable p] (x y : Exec α) [hx : Within R x] [hy : Within R y] :
    Within R (if p then x else y) := by
  split_ifs
  · exact hx
  · exact hy

instance withinThrow (e : Stop) : Within R (throw e : Exec α) := ⟨fun a => hR.refl a⟩

instance withinGet : Within R (get : Exec Activity) := ⟨fun a => hR.refl a⟩

instance withinView (f : Frame → α) : Within R (view f) := ⟨fun a => hR.refl a⟩

instance withinViewWorld (f : World → α) : Within R (viewWorld f) := ⟨fun a => hR.refl a⟩

instance withinAttempt (r : Except Fault α) : Within R (attempt r) where
  kept a := by cases r <;> exact hR.refl a

instance withinUpdate (gas : Frame → Int) (pc : Frame → Nat) (stack : Frame → Stack)
    (memory returnData output : Frame → Bytes) :
    Within R (update fun f => ⟨f.context, gas f, f.status, pc f, stack f, memory f, returnData f,
      output f, f.logs, f.selfDestructs⟩) := ⟨fun a => hR.update a ..⟩

instance withinLeaveReturned (output : Bytes) : Within R (leave .returned output) :=
  ⟨fun a => hR.leave a _ output (.inl rfl)⟩

instance withinLeaveReverted (output : Bytes) : Within R (leave .reverted output) :=
  ⟨fun a => hR.leave a _ output (.inr rfl)⟩

instance withinHalt (reason : HaltReason) : Within R (halt reason : Exec α) := withinThrow _

instance withinHaltIf (p : Prop) [Decidable p] (reason : HaltReason) :
    Within R (haltIf p reason) := withinIte ..

instance withinPop : Within R pop where
  kept a := by
    unfold pop
    refine Yields.get ?_
    cases a.frame.stack.pop? with
    | none => exact hR.refl a
    | some item => exact hR.update a a.frame.gas a.frame.pc item.2 ..

instance withinPush (x : Int) : Within R (push x) := by unfold push; infer_instance

instance withinPopMany : ∀ n, Within R (popMany n)
  | 0 => withinPure _
  | n + 1 => by
    have := withinPopMany n
    unfold popMany
    infer_instance

instance withinUseGas (amount : Int) : Within R (useGas amount) := by
  unfold useGas; infer_instance

instance withinExpandMemory (offset size : Int) : Within R (expandMemory offset size) := by
  unfold expandMemory; infer_instance

instance withinReadMemory (offset size : Int) : Within R (readMemory offset size) := by
  unfold readMemory; infer_instance

instance withinWriteMemory (start stop : Int) (bytes : Bytes) :
    Within R (writeMemory start stop bytes) := by unfold writeMemory; infer_instance

instance withinCopyToMemory (dest : Int) (source : Bytes) (offset size : Int) :
    Within R (copyToMemory dest source offset size) := by unfold copyToMemory; infer_instance

instance withinForbidStatic : Within R forbidStatic := by unfold forbidStatic; infer_instance

instance withinJumpTo (place : Int) : Within R (jumpTo place) := by unfold jumpTo; infer_instance

instance withinTakeValue (kind : CallKind) : Within R (takeValue kind) := by
  unfold takeValue; infer_instance

instance withinTakeSalt (salted : Bool) (size : Int) : Within R (takeSalt salted size) := by
  unfold takeSalt; infer_instance

instance withinBegin (info : OpcodeInfo) : Within R (begin_ info) := by
  unfold begin_; infer_instance

/-! Operations within a frame. -/

instance withinExp : Within R exp := by unfold exp; infer_instance

instance withinKeccak256 : Within R keccak256 := by unfold keccak256; infer_instance

instance withinQuery (q : Query) : Within R (query q) := by
  unfold query
  cases q <;> infer_instance

instance withinCalldataload : Within R calldataload := by unfold calldataload; infer_instance

instance withinCopy (source : CopySource) : Within R (copy source) := by
  unfold copy
  cases source <;> infer_instance

instance withinBlockhash : Within R blockhash := by unfold blockhash; infer_instance

instance withinMload : Within R mload := by unfold mload; infer_instance

instance withinMstore : Within R mstore := by unfold mstore; infer_instance

instance withinMstore8 : Within R mstore8 := by unfold mstore8; infer_instance

instance withinJump : Within R jump := by unfold jump; infer_instance

instance withinJumpi : Within R jumpi := by unfold jumpi; infer_instance

instance withinPushData (width : Nat) : Within R (pushData width) := by
  unfold pushData; infer_instance

instance withinDup (n : Nat) : Within R (dup n) where
  kept a := by
    unfold dup
    refine Yields.view ?_
    cases a.frame.stack.get? n with
    | none => exact hR.refl a
    | some x => exact (withinPush x).kept a

instance withinSwap (n : Nat) : Within R (swap n) where
  kept a := by
    unfold swap
    refine Yields.view ?_
    cases a.frame.stack.exchange? n with
    | none => exact hR.refl a
    | some stack => exact hR.update a a.frame.gas a.frame.pc stack ..

instance withinReturn : Within R (leaveWithMemory .returned) := by
  unfold leaveWithMemory; infer_instance

instance withinRevert : Within R (leaveWithMemory .reverted) := by
  unfold leaveWithMemory; infer_instance

/-! Operations that read accounts and slots, where these may become warm. -/

instance withinAccessCost [∀ a, Within R (warmAddress a)] (a : Address) :
    Within R (accessCost a) := by unfold accessCost; infer_instance

instance withinAccountQuery [∀ a, Within R (warmAddress a)] (q : AccountQuery) :
    Within R (accountQuery q) := by unfold accountQuery; infer_instance

instance withinExtcodecopy [∀ a, Within R (warmAddress a)] : Within R extcodecopy := by
  unfold extcodecopy; infer_instance

instance withinSload [∀ key, Within R (warmSlot key)] : Within R sload := by
  unfold sload; infer_instance

end
end Exec

/-- Whether an operation changes nothing but the gas, the place, the stack, the memory and the data
of its frame, and may leave its code. -/
def Opcode.IsInward : Opcode → Prop
  | .accountQuery _ | .extcodecopy | .sload | .sstore | .log _ | .selfdestruct => False
  | .call _ | .create | .create2 => False
  | _ => True

theorem Exec.within_execute {R : Activity → Activity → Prop} [Inward R] {op : Opcode}
    (hop : op.IsInward) : Within R (execute op) := by
  cases op with
  | accountQuery | extcodecopy | sload | sstore | log | selfdestruct => exact hop.elim
  | call | create | create2 => exact hop.elim
  | _ => unfold execute; infer_instance

structure Activity.Kept (a a' : Activity) : Prop where
  context : a'.frame.context = a.frame.context
  below : a'.world.below = a.world.below
  status : a'.frame.status = a.frame.status ∨ a'.frame.status = .returned ∨
    a'.frame.status = .reverted

namespace Activity

variable {a b c : Activity}

theorem Kept.refl (a : Activity) : a.Kept a := ⟨rfl, rfl, .inl rfl⟩

theorem Kept.trans (h : a.Kept b) (h' : b.Kept c) : a.Kept c where
  context := h'.context.trans h.context
  below := h'.below.trans h.below
  status := by
    rcases h'.status with hs | hs
    · rw [hs]
      exact h.status
    · exact .inr hs

end Activity

namespace Exec

variable {α : Type}

/-- A change that keeps to its frame and the uppermost layer. -/
abbrev Local (x : Exec α) : Prop := Within Activity.Kept x

theorem Local.of_ok {x : Exec α} [hx : Local x] {a a' : Activity} {v : α} (h : x a = .ok v a') :
    a.Kept a' := (hx.kept a).of_ok h

theorem Local.of_error {x : Exec α} [hx : Local x] {a a' : Activity} {e : Stop}
    (h : x a = .error e a') : a.Kept a' := (hx.kept a).of_error h

instance : Inward Activity.Kept where
  refl := Activity.Kept.refl
  trans h h' := h.trans h'
  update _ _ _ _ _ _ _ := ⟨rfl, rfl, .inl rfl⟩
  leave _ _ _ h := ⟨rfl, rfl, .inr h⟩

/-- A change of the effects of a frame. -/
instance localRecord (logs : Frame → List Log) (selfDestructs : Frame → List Address) :
    Local (update fun f => ⟨f.context, f.gas, f.status, f.pc, f.stack, f.memory, f.returnData,
      f.output, logs f, selfDestructs f⟩) := ⟨fun _ => ⟨rfl, rfl, .inl rfl⟩⟩

instance localModify (a : Address) (f : Account → Account) :
    Local (updateWorld fun w => w.modify a f) := ⟨fun _ => ⟨rfl, rfl, .inl rfl⟩⟩

instance localWarmAddress (a : Address) : Local (warmAddress a) := ⟨fun _ => ⟨rfl, rfl, .inl rfl⟩⟩

instance localWarmSlot (key : Int) : Local (warmSlot key) := ⟨fun _ => ⟨rfl, rfl, .inl rfl⟩⟩

-- The instances of the longer operations are put together from many parts.
set_option synthInstance.maxSize 2048

instance localSstore : Local sstore := by unfold sstore; infer_instance

instance localLog (topics : Nat) : Local (log topics) := by unfold log; infer_instance

instance localSelfdestruct : Local selfdestruct := by unfold selfdestruct; infer_instance

instance localEnter (kind : CallKind) (target : Address)
    (value inOffset inSize outOffset outSize gas : Int) :
    Local (enter kind target value inOffset inSize outOffset outSize gas) := by
  unfold enter; infer_instance

instance localCall (kind : CallKind) : Local (call kind) := by
  unfold call
  infer_instance

instance localCreate (salted : Bool) : Local (create salted) := by
  unfold create
  dsimp only
  infer_instance

instance localExecute (op : Opcode) : Local (execute op) := by
  cases op <;> unfold execute <;> infer_instance

instance localStep (byte : UInt8) : Local (step byte) := by
  unfold step
  split
  · infer_instance
  · split <;> infer_instance

/-! Frames that are opened are new. -/

/-- A change that opens no frame, or one that is as it was made from its context and its gas. -/
class Fresh (x : Exec (Option Frame)) : Prop where
  fresh : ∀ a, x.Yields a (fun child? _ => ∀ f ∈ child?, f = { context := f.context, gas := f.gas })
    fun _ _ => True

theorem Fresh.of_ok {x : Exec (Option Frame)} [hx : Fresh x] {a a' : Activity} {f : Frame}
    (h : x a = .ok (some f) a') : f = { context := f.context, gas := f.gas } :=
  (hx.fresh a).of_ok h f rfl

theorem yields_true (x : Exec α) (a : Activity) :
    x.Yields a (fun _ _ => True) fun _ _ => True := by
  unfold Yields
  cases x a <;> trivial

instance freshNone : Fresh (Pure.pure none) := ⟨fun _ => by rintro f ⟨⟩⟩

instance freshSome (c : Context) (gas : Int) :
    Fresh (Pure.pure (some { context := c, gas := gas })) := ⟨fun _ => by rintro f ⟨⟩; rfl⟩

instance freshHalt (reason : HaltReason) : Fresh (halt reason) := ⟨fun _ => trivial⟩

theorem Fresh.bind {x : Exec α} {f : α → Exec (Option Frame)} (hf : ∀ v, Fresh (f v)) :
    Fresh (x >>= f) := ⟨fun a => (yields_true x a).bind fun v b _ => (hf v).fresh b⟩

instance freshBind (x : Exec α) (f : α → Exec (Option Frame)) [hf : ∀ v, Fresh (f v)] :
    Fresh (x >>= f) := .bind hf

instance freshIte (p : Prop) [Decidable p] (x y : Exec (Option Frame)) [hx : Fresh x]
    [hy : Fresh y] : Fresh (if p then x else y) := by
  split_ifs
  · exact hx
  · exact hy

instance freshEnter (kind : CallKind) (target : Address)
    (value inOffset inSize outOffset outSize gas : Int) :
    Fresh (enter kind target value inOffset inSize outOffset outSize gas) := by
  unfold enter; infer_instance

instance freshCall (kind : CallKind) : Fresh (call kind) := by
  unfold call
  dsimp only
  infer_instance

instance freshCreate (salted : Bool) : Fresh (create salted) := by
  unfold create
  dsimp only
  infer_instance

instance freshExecute (op : Opcode) : Fresh (execute op) := by
  cases op with
  | call kind => exact freshCall kind
  | create => exact freshCreate false
  | create2 => exact freshCreate true
  | _ => unfold execute; infer_instance

instance freshStep (byte : UInt8) : Fresh (step byte) := by
  unfold step
  split
  · infer_instance
  · split <;> infer_instance

/-! Only calls and creations open frames. -/

class Lone (x : Exec (Option Frame)) : Prop where
  lone : ∀ a, x.Yields a (fun child? _ => child? = none) fun _ _ => True

theorem Lone.of_ok {x : Exec (Option Frame)} [hx : Lone x] {a a' : Activity}
    {child? : Option Frame} (h : x a = .ok child? a') : child? = none := (hx.lone a).of_ok h

instance loneNone : Lone (Pure.pure none) := ⟨fun _ => rfl⟩

instance loneHalt (reason : HaltReason) : Lone (halt reason) := ⟨fun _ => trivial⟩

instance loneBind (x : Exec α) (f : α → Exec (Option Frame)) [hf : ∀ v, Lone (f v)] :
    Lone (x >>= f) := ⟨fun a => (yields_true x a).bind fun v b _ => (hf v).lone b⟩

/-! Most of what operations are made of costs nothing and leaves the memory as it is. -/

/-- A change that leaves the memory and the gas as they are, if it is done. -/
class Idle (x : Exec α) : Prop where
  idle : ∀ a, x.Yields a (fun _ b => b.frame.gas = a.frame.gas ∧ b.frame.memory = a.frame.memory)
    fun _ _ => True

instance idlePure (v : α) : Idle (Pure.pure v : Exec α) := ⟨fun _ => ⟨rfl, rfl⟩⟩

instance idleBind (x : Exec α) (f : α → Exec β) [hx : Idle x] [hf : ∀ v, Idle (f v)] :
    Idle (x >>= f) where
  idle a := (hx.idle a).bind fun v b hb => ((hf v).idle b).mono fun _ _ hc =>
    ⟨hc.1.trans hb.1, hc.2.trans hb.2⟩

instance idleIte (p : Prop) [Decidable p] (x y : Exec α) [hx : Idle x] [hy : Idle y] :
    Idle (if p then x else y) := by
  split_ifs
  · exact hx
  · exact hy

instance idleThrow (e : Stop) : Idle (throw e : Exec α) := ⟨fun _ => trivial⟩

instance idleGet : Idle (get : Exec Activity) := ⟨fun _ => ⟨rfl, rfl⟩⟩

instance idleView (f : Frame → α) : Idle (view f) := ⟨fun _ => ⟨rfl, rfl⟩⟩

instance idleViewWorld (f : World → α) : Idle (viewWorld f) := ⟨fun _ => ⟨rfl, rfl⟩⟩

instance idleAttempt (r : Except Fault α) : Idle (attempt r) := by
  cases r
  · exact idleThrow _
  · exact idlePure _

/-- A change of anything in the frame but its gas and its memory. -/
instance idleUpdate (context : Frame → Context) (status : Frame → FrameStatus) (pc : Frame → Nat)
    (stack : Frame → Stack) (returnData output : Frame → Bytes) (logs : Frame → List Log)
    (selfDestructs : Frame → List Address) :
    Idle (update fun f => ⟨context f, f.gas, status f, pc f, stack f, f.memory, returnData f,
      output f, logs f, selfDestructs f⟩) := ⟨fun _ => ⟨rfl, rfl⟩⟩

instance idleUpdateWorld (f : World → World) : Idle (updateWorld f) := ⟨fun _ => ⟨rfl, rfl⟩⟩

instance idleHalt (reason : HaltReason) : Idle (halt reason : Exec α) := idleThrow _

instance idleHaltIf (p : Prop) [Decidable p] (reason : HaltReason) : Idle (haltIf p reason) :=
  idleIte ..

instance idlePop : Idle pop where
  idle a := by
    refine (pop_spec a).ifDone.mono ?_
    rintro _ _ ⟨stack, -, rfl⟩
    exact ⟨rfl, rfl⟩

instance idlePush (x : Int) : Idle (push x) := by unfold push; infer_instance

instance idlePopMany : ∀ n, Idle (popMany n)
  | 0 => idlePure _
  | n + 1 => by
    have := idlePopMany n
    unfold popMany
    infer_instance

instance idleWarmAddress (a : Address) : Idle (warmAddress a) := ⟨fun _ => ⟨rfl, rfl⟩⟩

instance idleWarmSlot (key : Int) : Idle (warmSlot key) := ⟨fun _ => ⟨rfl, rfl⟩⟩

instance idleAccessCost (a : Address) : Idle (accessCost a) := by unfold accessCost; infer_instance

instance idleForbidStatic : Idle forbidStatic := by unfold forbidStatic; infer_instance

instance idleQuery (q : Query) : Idle (query q) := by
  unfold query
  cases q <;> infer_instance

instance idleCalldataload : Idle calldataload := by unfold calldataload; infer_instance

instance idleBlockhash : Idle blockhash := by unfold blockhash; infer_instance

instance idleJumpTo (place : Int) : Idle (jumpTo place) := by unfold jumpTo; infer_instance

instance idleJump : Idle jump := by unfold jump; infer_instance

instance idleJumpi : Idle jumpi := by unfold jumpi; infer_instance

instance idlePushData (width : Nat) : Idle (pushData width) := by unfold pushData; infer_instance

instance idleDup (n : Nat) : Idle (dup n) where
  idle a := by
    unfold dup
    refine Yields.view ?_
    cases a.frame.stack.get? n with
    | none => trivial
    | some x => exact ⟨rfl, rfl⟩

instance idleSwap (n : Nat) : Idle (swap n) where
  idle a := by
    unfold swap
    refine Yields.view ?_
    cases a.frame.stack.exchange? n with
    | none => trivial
    | some stack => exact ⟨rfl, rfl⟩

instance idleLeave (status : FrameStatus) (output : Bytes) : Idle (leave status output) := by
  unfold leave; infer_instance

end Exec

def Opcode.Opens : Opcode → Prop
  | .call _ | .create | .create2 => True
  | _ => False

theorem Exec.lone_execute {op : Opcode} (hop : ¬ op.Opens) : Lone (execute op) := by
  cases op with
  | call | create | create2 => exact absurd trivial hop
  | _ => unfold execute; infer_instance

end Gasometer
