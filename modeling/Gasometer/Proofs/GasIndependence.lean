import Gasometer.Proofs.FrameStack

/-!
# Runs with more gas

Only a few operations look at the gas that is left, or hand on a part of it. A program without them
does with more gas what it does with less: the gas decides only whether it goes on. The class
`Exec.Indifferent` finds this for every other operation from its parts, and a run that was neither
stopped nor cut off goes the same way with any more gas.
-/
namespace Gasometer

variable {a a' : Activity} {d : Int} {byte : UInt8}

/-- The operations that look at the gas that is left, or hand on a part of it. -/
def Opcode.gasReaders : List Opcode :=
  [query .gas, call .call, call .callcode, call .delegatecall, call .staticcall, create, create2]

theorem Opcode.mem_gasReaders_of_opens {op : Opcode} (h : op.Opens) : op ∈ gasReaders := by
  cases op with
  | call kind => cases kind <;> decide
  | create | create2 => decide
  | _ => exact h.elim

def Activity.richer (d : Int) (a : Activity) : Activity :=
  a.mapFrame fun f => { f with gas := f.gas + d }

namespace Exec

variable {α β : Type}

/-- A change that, when it is done, is done in the same way with more gas. -/
class Indifferent (x : Exec α) : Prop where
  richer : ∀ {d : Int} {a a' : Activity} {v : α}, 0 ≤ d → x a = .ok v a' →
    x (a.richer d) = .ok v (a'.richer d)

instance indifferentPure (v : α) : Indifferent (Pure.pure v : Exec α) where
  richer _ h := by cases h; rfl

theorem Indifferent.bind {x : Exec α} {f : α → Exec β} (hx : Indifferent x)
    (hf : ∀ v, Indifferent (f v)) : Indifferent (x >>= f) where
  richer {d a a' v} hd h := by
    replace h : EStateM.bind x f a = .ok v a' := h
    show EStateM.bind x f (a.richer d) = _
    unfold EStateM.bind at h ⊢
    cases hxa : x a with
    | error e b =>
      rw [hxa] at h
      cases h
    | ok u b =>
      rw [hxa] at h
      rw [hx.richer hd hxa]
      exact (hf u).richer hd h

instance indifferentBind (x : Exec α) (f : α → Exec β) [hx : Indifferent x]
    [hf : ∀ v, Indifferent (f v)] : Indifferent (x >>= f) := hx.bind hf

instance indifferentIte (p : Prop) [Decidable p] (x y : Exec α) [hx : Indifferent x]
    [hy : Indifferent y] : Indifferent (if p then x else y) := by
  split_ifs
  · exact hx
  · exact hy

instance indifferentThrow (e : Stop) : Indifferent (throw e : Exec α) where
  richer _ h := by cases h

instance indifferentHalt (reason : HaltReason) : Indifferent (halt reason : Exec α) :=
  indifferentThrow _

instance indifferentHaltIf (p : Prop) [Decidable p] (reason : HaltReason) :
    Indifferent (haltIf p reason) := indifferentIte ..

instance indifferentAttempt (r : Except Fault α) : Indifferent (attempt r) := by
  cases r
  · exact indifferentThrow _
  · exact indifferentPure _

/-- A check that fails with more gas fails with less. -/
theorem Indifferent.afford {p : Int → Prop} [DecidablePred p] (hp : ∀ g g', g ≤ g' → p g' → p g)
    {reason : HaltReason} {f : Unit → Exec β} (hf : Indifferent (f ())) :
    Indifferent (view Frame.gas >>= fun gas => haltIf (p gas) reason >>= f) where
  richer {d a a' v} hd h := by
    replace h : (haltIf (p a.frame.gas) reason >>= f) a = .ok v a' := h
    show (haltIf (p (a.frame.gas + d)) reason >>= f) (a.richer d) = _
    by_cases hpoor : p a.frame.gas
    · rw [haltIf, if_pos hpoor] at h
      cases h
    · rw [haltIf, if_neg hpoor] at h
      rw [haltIf, if_neg fun hrich => hpoor (hp _ _ (Int.le_add_of_nonneg_right hd) hrich)]
      exact hf.richer hd h

theorem Indifferent.view {g : Frame → α} (hg : ∀ f gas, g { f with gas := gas } = g f) :
    Indifferent (view g) where
  richer {d a a' v} _ h := by
    cases h
    exact congrArg (EStateM.Result.ok · _) (hg ..)

theorem Indifferent.update {g : Frame → Frame}
    (hg : ∀ f d, g { f with gas := f.gas + d } = { g f with gas := (g f).gas + d }) :
    Indifferent (update g) where
  richer {d a a' v} _ h := by
    cases h
    show EStateM.Result.ok () { a with frame := g { a.frame with gas := a.frame.gas + d } } = _
    rw [hg]
    rfl

instance indifferentViewWorld (f : World → α) : Indifferent (viewWorld f) where
  richer _ h := by cases h; rfl

instance indifferentUpdateWorld (f : World → World) : Indifferent (updateWorld f) where
  richer _ h := by cases h; rfl

/-! What is read off a frame. -/

instance indifferentMemoryWords : Indifferent (view Frame.memoryWords) := .view fun _ _ => rfl

instance indifferentMemorySize : Indifferent (view (·.memory.size)) := .view fun _ _ => rfl

instance indifferentSlice (start stop : Int) :
    Indifferent (view (·.memory.slice start stop)) := .view fun _ _ => rfl

instance indifferentStack : Indifferent (view Frame.stack) := .view fun _ _ => rfl

instance indifferentStackSize : Indifferent (view (·.stack.size)) := .view fun _ _ => rfl

instance indifferentReturnData : Indifferent (view Frame.returnData) := .view fun _ _ => rfl

instance indifferentIsStatic : Indifferent (view (·.context.isStatic)) := .view fun _ _ => rfl

instance indifferentContext : Indifferent (view Frame.context) := .view fun _ _ => rfl

instance indifferentAddress : Indifferent (view (·.context.address)) := .view fun _ _ => rfl

instance indifferentInput : Indifferent (view (·.context.input)) := .view fun _ _ => rfl

instance indifferentBlock : Indifferent (view (·.context.block)) := .view fun _ _ => rfl

instance indifferentCode : Indifferent (view (·.context.code.bytes)) := .view fun _ _ => rfl

instance indifferentIsJumpDest (place : Nat) :
    Indifferent (view (·.context.code.isJumpDest place)) := .view fun _ _ => rfl

/-! Operations within a frame. -/

instance indifferentPop : Indifferent pop where
  richer {d a a' v} _ h := by
    have hpop (b : Activity) : pop b = match b.frame.stack.pop? with
        | none => .error (.fault .emptyStack) b
        | some (x, stack) => .ok x (b.mapFrame fun f => { f with stack := stack }) := by
      unfold pop
      show (match b.frame.stack.pop? with | none => _ | some (x, stack) => _ : Exec Int) b = _
      cases b.frame.stack.pop? <;> rfl
    rw [hpop] at h ⊢
    show (match a.frame.stack.pop? with | none => _ | some (x, stack) => _) = _
    cases hitems : a.frame.stack.pop? with
    | none =>
      rw [hitems] at h
      cases h
    | some item =>
      rw [hitems] at h
      cases h
      rfl

instance indifferentPush (x : Int) : Indifferent (push x) := .update fun _ _ => rfl

instance indifferentUseGas (amount : Int) : Indifferent (useGas amount) :=
  .afford (p := (· < amount)) (fun _ _ hle => lt_of_le_of_lt hle) <| .update fun f d => by
    rw [Int.sub_eq_add_neg, Int.sub_eq_add_neg, Int.add_right_comm]

instance indifferentExpandMemory (offset size : Int) : Indifferent (expandMemory offset size) := by
  have hgrow (zeros : Bytes) :
      Indifferent (update fun f => { f with memory := f.memory ++ zeros }) := .update fun _ _ => rfl
  unfold expandMemory
  infer_instance

instance indifferentReadMemory (offset size : Int) : Indifferent (readMemory offset size) := by
  unfold readMemory; infer_instance

instance indifferentWriteMemory (start stop : Int) (bytes : Bytes) :
    Indifferent (writeMemory start stop bytes) := .update fun _ _ => rfl

instance indifferentCopyToMemory (dest : Int) (source : Bytes) (offset size : Int) :
    Indifferent (copyToMemory dest source offset size) := by unfold copyToMemory; infer_instance

instance indifferentWarmAddress (a : Address) : Indifferent (warmAddress a) where
  richer _ h := by cases h; rfl

instance indifferentWarmSlot (key : Int) : Indifferent (warmSlot key) where
  richer _ h := by cases h; rfl

instance indifferentAccessCost (a : Address) : Indifferent (accessCost a) := by
  unfold accessCost; infer_instance

instance indifferentForbidStatic : Indifferent forbidStatic := by
  unfold forbidStatic; infer_instance

instance indifferentExp : Indifferent exp := by unfold exp; infer_instance

instance indifferentKeccak256 : Indifferent keccak256 := by unfold keccak256; infer_instance

theorem indifferent_query {q : Query} (hq : q ≠ .gas) : Indifferent (query q) where
  richer {d a a' v} _ h := by
    unfold query at h ⊢
    cases q with
    | gas => exact absurd rfl hq
    | address | origin | caller | coinbase => exact (indifferentAttempt _).richer ‹_› h
    | _ => cases h; rfl

instance indifferentAccountQuery (q : AccountQuery) : Indifferent (accountQuery q) := by
  unfold accountQuery; infer_instance

instance indifferentCalldataload : Indifferent calldataload := by
  unfold calldataload; infer_instance

instance indifferentCopy (source : CopySource) : Indifferent (copy source) := by
  unfold copy
  cases source <;> infer_instance

instance indifferentExtcodecopy : Indifferent extcodecopy := by unfold extcodecopy; infer_instance

instance indifferentBlockhash : Indifferent blockhash := by unfold blockhash; infer_instance

instance indifferentMload : Indifferent mload := by unfold mload; infer_instance

instance indifferentMstore : Indifferent mstore := by unfold mstore; infer_instance

instance indifferentMstore8 : Indifferent mstore8 := by unfold mstore8; infer_instance

instance indifferentSload : Indifferent sload := by unfold sload; infer_instance

/-- The gas that a write to the storage must leave for others is only asked for. -/
instance indifferentSstore : Indifferent sstore := by
  unfold sstore
  refine .bind inferInstance fun _ => .afford (p := (· ≤ Gas.callStipend)) ?_ inferInstance
  exact fun _ _ hle => le_trans hle

instance indifferentJumpTo (place : Int) : Indifferent (jumpTo place) := by
  have hgo : Indifferent (update fun f => { f with pc := place.toNat }) := .update fun _ _ => rfl
  unfold jumpTo
  infer_instance

instance indifferentJump : Indifferent jump := by unfold jump; infer_instance

instance indifferentJumpi : Indifferent jumpi := by unfold jumpi; infer_instance

instance indifferentPushData (width : Nat) : Indifferent (pushData width) := .update fun _ _ => rfl

instance indifferentDup (n : Nat) : Indifferent (dup n) := by
  unfold dup
  refine .bind inferInstance fun stack => ?_
  cases stack.get? n <;> infer_instance

instance indifferentSwap (n : Nat) : Indifferent (swap n) := by
  unfold swap
  refine .bind inferInstance fun stack => ?_
  cases stack.exchange? n
  · infer_instance
  · exact .update fun _ _ => rfl

instance indifferentPopMany : ∀ n, Indifferent (popMany n)
  | 0 => indifferentPure _
  | n + 1 => by
    have := indifferentPopMany n
    unfold popMany
    infer_instance

instance indifferentLog (topics : Nat) : Indifferent (log topics) := by
  have hrecord (words : List Int) (data : Bytes) : Indifferent (update fun f =>
      { f with logs := f.logs ++ [⟨f.context.address, words, data⟩] }) := .update fun _ _ => rfl
  unfold log
  infer_instance

instance indifferentLeave (status : FrameStatus) (output : Bytes) :
    Indifferent (leave status output) := .update fun _ _ => rfl

instance indifferentLeaveWithMemory (status : FrameStatus) :
    Indifferent (leaveWithMemory status) := by unfold leaveWithMemory; infer_instance

instance indifferentSelfdestruct : Indifferent selfdestruct := by
  have hmark (address : Address) : Indifferent (update fun f =>
      { f with selfDestructs := Frame.uniteAddresses f.selfDestructs [address] }) :=
    .update fun _ _ => rfl
  unfold selfdestruct
  infer_instance

theorem indifferent_execute {op : Opcode} (hop : op ∉ Opcode.gasReaders) :
    Indifferent (execute op) := by
  cases op with
  | create | create2 => exact absurd (by decide) hop
  | call kind => cases kind <;> exact absurd (by decide) hop
  | query q =>
    have := indifferent_query (q := q) (by rintro rfl; exact hop (by decide))
    unfold execute
    infer_instance
  | _ => unfold execute; infer_instance

instance indifferentBegin (info : OpcodeInfo) : Indifferent (begin_ info) := by
  have hpay : Indifferent (update fun f => { f with gas := f.gas - info.gas, pc := f.pc + 1 }) :=
    .update fun f d => by
      rw [Int.sub_eq_add_neg, Int.sub_eq_add_neg, Int.add_right_comm]
  unfold begin_
  refine .bind inferInstance fun size => ?_
  refine .bind inferInstance fun _ => .bind inferInstance fun _ => ?_
  exact .afford (p := (· < info.gas)) (fun _ _ hle => lt_of_le_of_lt hle) hpay

/-- A step of an operation that does not read the gas. -/
theorem indifferent_step (hbyte : ∀ op ∈ Opcode.gasReaders, op.byte ≠ byte) :
    Indifferent (step byte) := by
  unfold step
  split
  · infer_instance
  · rename_i op hop
    have := indifferent_execute fun hmem => hbyte op hmem (Opcode.byte_of_ofByte? hop)
    split <;> infer_instance

/-- Only calls and creations open frames. -/
theorem lone_step (hbyte : ∀ op ∈ Opcode.gasReaders, op.byte ≠ byte) : Lone (step byte) := by
  unfold step
  split
  · infer_instance
  · rename_i op hop
    have := lone_execute fun hopens =>
      hbyte op (Opcode.mem_gasReaders_of_opens hopens) (Opcode.byte_of_ofByte? hop)
    split <;> infer_instance

end Exec

/-- Whether no operation of a program reads the gas. -/
def Code.IsGasBlind (c : Code) : Prop := ∀ op ∈ Opcode.gasReaders, op.byte ∉ c.bytes

namespace Activity

variable {σ τ : Type} {rules : CreationRules} {see : Observer σ} {see' : Observer τ} {seen : σ}

theorem byte_ne (hcode : a.frame.context.code.IsGasBlind) (hbyte : a.nextByte? = some byte) :
    ∀ op ∈ Opcode.gasReaders, op.byte ≠ byte := by
  rintro op hop rfl
  exact hcode op hop (Array.mem_of_getElem? hbyte)

/-- The code of a frame that does not read the gas is left, or a fault is met. -/
theorem RunsTo.ne_opened {fuel : Nat} {r : Run σ} (h : RunsTo see fuel a seen r)
    (hcode : a.frame.context.code.IsGasBlind) (child : Frame) : r.ending ≠ .opened child := by
  induction h with
  | cutOff | runOff | halt | fault | leave => simp
  | open_ hbyte hstep =>
    have := Exec.lone_step (byte_ne hcode hbyte)
    cases Exec.Lone.of_ok hstep
  | next _ hstep _ _ ih => exact ih (by rwa [(Exec.Local.of_ok hstep).context])

/-- A run of the code that is left without being stopped goes the same way with more gas. -/
theorem RunsTo.richer {fuel : Nat} {r : Run σ} (h : RunsTo see fuel a seen r)
    (hcode : a.frame.context.code.IsGasBlind) (hd : 0 ≤ d) (hleft : r.ending = .left)
    (hgoes : r.activity.frame.haltReason? = none) (seen' : τ) :
    ∃ seen'', RunsTo see' fuel (a.richer d) seen' ⟨r.activity.richer d, seen'', .left⟩ := by
  induction h generalizing seen' with
  | cutOff | fault | open_ => cases hleft
  | runOff hbyte => exact ⟨_, .runOff hbyte⟩
  | halt => simp [mapFrame, Frame.halt, Frame.haltReason?] at hgoes
  | leave hbyte hstep hends =>
    have := Exec.indifferent_step (byte_ne hcode hbyte)
    exact ⟨_, .leave hbyte (Exec.Indifferent.richer hd hstep) hends⟩
  | next hbyte hstep hon _ ih =>
    have := Exec.indifferent_step (byte_ne hcode hbyte)
    have hcontext := (Exec.Local.of_ok hstep).context
    obtain ⟨seen'', hrest⟩ := ih (by rwa [hcontext]) hleft hgoes _
    exact ⟨seen'', .next hbyte (Exec.Indifferent.richer hd hstep) hon hrest⟩

/-- A frame with more gas starts in the same way. -/
theorem start_richer (rules : CreationRules) (a : Activity) (d : Int) :
    (a.richer d).start rules = (a.start rules).richer d := by
  have hcontext : (a.richer d).frame.context = a.frame.context := rfl
  have hworld : (a.richer d).world = a.world := rfl
  unfold start
  dsimp only
  rw [hcontext, hworld]
  cases a.frame.context.kind with
  | messageCall => cases transfer? a.frame.context a.world <;> rfl
  | contractCreation =>
    dsimp only
    split_ifs
    · rfl
    · cases transfer? a.frame.context a.world <;> rfl

theorem settle_richer (h : (settle a).frame.haltReason? = none) :
    settle (a.richer d) = (settle a).richer d := by
  have hstatus : (a.richer d).frame.status = a.frame.status := rfl
  unfold settle at h ⊢
  dsimp only at h ⊢
  rw [hstatus]
  cases hs : a.frame.status with
  | halted reason =>
    rw [hs] at h
    cases h
  | _ => rfl

/-- More gas pays for the deposit of code, too. -/
theorem accept_richer (hd : 0 ≤ d) (h : (a.accept rules).frame.haltReason? = none) :
    (a.richer d).accept rules = (a.accept rules).richer d := by
  have hcontext : (a.richer d).frame.context = a.frame.context := rfl
  have houtput : (a.richer d).frame.output = a.frame.output := rfl
  have hgas : (a.richer d).frame.gas = a.frame.gas + d := rfl
  unfold accept at h ⊢
  dsimp only at h ⊢
  rw [hcontext, houtput, hgas]
  cases hkind : a.frame.context.kind with
  | messageCall => rfl
  | contractCreation =>
    rw [hkind] at h
    dsimp only at h ⊢
    split_ifs at h ⊢ with hlarge hmarked hricher hpoor
    · cases h
    · cases h
    · cases h
    · omega
    · cases h
    · simp only [richer, mapFrame, add_sub_right_comm]

theorem haltReason?_settle_of_halt {reason : HaltReason} (h : a.frame.haltReason? = some reason) :
    (settle a).frame.haltReason? = some reason := by
  unfold Frame.haltReason? at h
  cases hs : a.frame.status with
  | halted cause | failed failure => simpa [settle, Frame.haltReason?, hs] using h
  | _ => simp [hs] at h

theorem haltReason?_finish_of_halt {reason : HaltReason} (h : a.frame.haltReason? = some reason) :
    (a.finish rules).frame.haltReason? = some reason := by
  unfold finish
  split
  · rename_i hreturned
    simp [Frame.haltReason?, hreturned] at h
  · exact haltReason?_settle_of_halt h

/-- A frame that is not stopped ends in the same way with more gas. -/
theorem finish_richer (hd : 0 ≤ d) (h : (a.finish rules).frame.haltReason? = none) :
    (a.richer d).finish rules = (a.finish rules).richer d := by
  have hstatus : (a.richer d).frame.status = a.frame.status := rfl
  unfold finish at h ⊢
  rw [hstatus]
  cases hs : a.frame.status with
  | returned =>
    rw [hs] at h
    dsimp only at h ⊢
    cases haccept : (a.accept rules).frame.haltReason? with
    | none => rw [accept_richer hd haccept, settle_richer h]
    | some reason =>
      rw [haltReason?_settle_of_halt haccept] at h
      cases h
  | _ =>
    rw [hs] at h
    exact settle_richer h

end Activity

namespace Machine
open Activity

variable {σ τ : Type} {rules : CreationRules} {see : Observer σ} {see' : Observer τ} {seen : σ}

/-- A new frame whose code is left without being stopped goes the same way with more gas. -/
theorem advance_richer (see' : Observer τ) (hcode : a.frame.context.code.IsGasBlind) (hd : 0 ≤ d)
    (hnew : a.frame.status = .notStarted) (hleft : (advance rules see a seen).ending = .left)
    (hgoes : (advance rules see a seen).activity.frame.haltReason? = none) (seen' : τ) :
    ∃ seen'', advance rules see' (a.richer d) seen' =
      ⟨(advance rules see a seen).activity.richer d, seen'', .left⟩ := by
  have hnew' : (a.richer d).frame.status = .notStarted := hnew
  unfold advance at hleft hgoes ⊢
  simp only [hnew, hnew'] at hleft hgoes ⊢
  rw [start_richer]
  have hcontext := start_context rules a
  generalize a.start rules = b at *
  have hstatus : (b.richer d).frame.status = b.frame.status := rfl
  unfold runStarted at hleft hgoes ⊢
  rw [hstatus]
  cases hs : b.frame.status with
  | executing =>
    simp only [hs] at hleft hgoes ⊢
    have hrun := runsTo_run see b (see (.enter a.frame) seen)
    obtain ⟨seen'', hricher⟩ := hrun.richer (by rwa [hcontext]) hd hleft hgoes _
    refine ⟨seen'', hricher.runFor_of_le ?_ (by rintro ⟨⟩)⟩
    show _ ≤ (b.frame.gas + d).toNat + allowance
    omega
  | _ => exact ⟨_, rfl⟩

theorem advance_ne_opened (hcode : a.frame.context.code.IsGasBlind) (child : Frame) :
    (advance rules see a seen).ending ≠ .opened child := by
  have hstarted (b : Activity) (seen : σ) (hb : b.frame.context = a.frame.context) :
      (runStarted see b seen).ending ≠ .opened child := by
    unfold runStarted
    split
    · exact (runsTo_run see b seen).ne_opened (by rwa [hb]) child
    · simp
  unfold advance
  split
  · exact hstarted _ _ (start_context rules a)
  · exact hstarted _ _ rfl

/-- A frame with nothing beneath it ends the run with its first round, unless it opens a frame. -/
theorem runFor_eq_process (hlone : ∀ child, (advance rules see a seen).ending ≠ .opened child)
    (fuel : Nat) (last : Frame) :
    runFor rules see (fuel + 1) last (a.atop []) seen = process rules see a [] seen := by
  have hover : (process rules see a [] seen).fault = none →
      (process rules see a [] seen).machine.frames = [] := by
    unfold process conclude
    generalize advance rules see a seen = run at hlone
    cases hending : run.ending with
    | opened child => exact absurd hending (hlone child)
    | faulted fault => exact fun h => by cases h
    | left => exact fun _ => rfl
  rw [runFor_atop_succ]
  generalize process rules see a [] seen = round at hover ⊢
  obtain ⟨frame, machine, seen, fault⟩ := round
  cases fault with
  | some fault => rfl
  | none => exact runFor_of_frames_eq_nil (hover rfl) ..

end Machine

/-- A run that says neither success nor a revert has met a fault or was stopped. -/
theorem Round.status_result {σ : Type} {r : Round σ} {gas elapsed : Int}
    (h : (r.result gas elapsed).status ≠ .exceptionalHalt) :
    r.fault = none ∧ r.frame.haltReason? = none := by
  unfold result at h
  cases hfault : r.fault with
  | some fault => simp [hfault] at h
  | none =>
    cases hhalt : r.frame.haltReason? with
    | some reason => simp [hfault, hhalt] at h
    | none => exact ⟨rfl, rfl⟩

namespace Machine
open Activity

variable {σ τ : Type} {rules : CreationRules} {see : Observer σ} {see' : Observer τ} {seen : σ}
  {gas elapsed : Int}

/-- A run of one frame that was not stopped is left by its code. -/
theorem left_of_goes (hcode : a.frame.context.code.IsGasBlind)
    (h : ((process rules see a [] seen).result gas elapsed).status ≠ .exceptionalHalt) :
    (advance rules see a seen).ending = .left ∧
      ((advance rules see a seen).activity.finish rules).frame.haltReason? = none := by
  obtain ⟨hfault, hgoes⟩ := Round.status_result h
  unfold process conclude at hfault hgoes
  cases hending : (advance rules see a seen).ending with
  | opened child => exact absurd hending (advance_ne_opened hcode child)
  | faulted fault => simp [hending] at hfault
  | left => exact ⟨rfl, by simpa [hending] using hgoes⟩

/-- The first round of a program that was not stopped has the same result with more gas. -/
theorem process_richer (hcode : a.frame.context.code.IsGasBlind) (hd : 0 ≤ d)
    (hnew : a.frame.status = .notStarted)
    (h : ((process rules see a [] seen).result gas elapsed).status ≠ .exceptionalHalt) (seen' : τ) :
    (process rules see' (a.richer d) [] seen').result (gas + d) elapsed =
        (process rules see a [] seen).result gas elapsed ∧
      (process rules see' (a.richer d) [] seen').machine.world =
        (process rules see a [] seen).machine.world := by
  obtain ⟨hleft, hgoes⟩ := left_of_goes hcode h
  have hstarts : (advance rules see a seen).activity.frame.haltReason? = none := by
    cases hhalt : (advance rules see a seen).activity.frame.haltReason? with
    | none => rfl
    | some reason =>
      rw [haltReason?_finish_of_halt hhalt] at hgoes
      cases hgoes
  obtain ⟨seen'', hrich⟩ := advance_richer see' hcode hd hnew hleft hstarts seen'
  unfold process conclude
  simp only [hleft, hrich, finish_richer hd hgoes]
  generalize (advance rules see a seen).activity.finish rules = b
  have hpaid : gas + d - (b.frame.gas + d) = gas - b.frame.gas := by omega
  exact ⟨congrArg (fun used => ExecutionResult.mk _ used _ _ _ _) hpaid, rfl⟩

end Machine

namespace Meter
open Activity Machine

variable {σ τ : Type} {m : Meter} {see : Observer σ} {code : Bytes} {world : World}
  {gasLimit : Int} {seen : σ}

def launched (m : Meter) (code : Bytes) (world : World) (gasLimit : Int) : Activity :=
  ⟨m.initialFrame code world gasLimit, world.open_, AccessList.ofLists Fixture.warm []⟩

theorem launched_richer {m m' : Meter} (code : Bytes) (world : World) (gasLimit gasLimit' : Int)
    (hblock : m'.block = m.block) :
    m'.launched code world gasLimit' = (m.launched code world gasLimit).richer
      (m'.initialGas gasLimit' - m.initialGas gasLimit) := by
  simp [launched, richer, mapFrame, initialFrame, hblock]

/-- A launch ends with its first round, unless that opens a frame. -/
theorem launch_eq_process
    (hlone : ∀ child,
      (advance {} see (m.launched code world gasLimit) seen).ending ≠ .opened child) :
    m.launch see code world gasLimit seen =
      process {} see (m.launched code world gasLimit) [] seen := by
  obtain ⟨fuel, hfuel⟩ : ∃ i, 2 * (m.initialGas gasLimit).toNat + allowance = i + 1 :=
    ⟨_, (Nat.sub_add_cancel (Nat.le_add_left_of_le Nat.one_le_two_pow)).symm⟩
  rw [launch_eq, hfuel]
  exact runFor_eq_process hlone fuel _

/-- A program that does not read its gas, and that was not stopped, does the same with any more
gas. -/
theorem launch_of_gas_le (m m' : Meter) (see : Observer σ) (see' : Observer τ) (code : Bytes)
    (world : World) (gasLimit gasLimit' : Int) (seen : σ) (seen' : τ) (elapsed : Int)
    (hblock : m'.block = m.block) (hcode : ∀ op ∈ Opcode.gasReaders, op.byte ∉ code)
    (hgas : m.initialGas gasLimit ≤ m'.initialGas gasLimit') :
    let round := m.launch see code world gasLimit seen
    let round' := m'.launch see' code world gasLimit' seen'
    let result := round.result (m.initialGas gasLimit) elapsed
    result.status = .normal ∨ result.status = .reverted →
      round'.result (m'.initialGas gasLimit') elapsed = result ∧
        round'.machine.world = round.machine.world := by
  dsimp only
  intro hstatus
  have hblind : (m.launched code world gasLimit).frame.context.code.IsGasBlind := hcode
  have hblind' : (m'.launched code world gasLimit').frame.context.code.IsGasBlind := hcode
  rw [launch_eq_process (advance_ne_opened hblind)] at hstatus ⊢
  rw [launch_eq_process (advance_ne_opened hblind'), launched_richer code world _ _ hblock]
  have hgas' : m'.initialGas gasLimit' =
      m.initialGas gasLimit + (m'.initialGas gasLimit' - m.initialGas gasLimit) := by omega
  rw [congrArg (Round.result _ · elapsed) hgas']
  refine process_richer hblind (Int.sub_nonneg_of_le hgas) rfl ?_ seen'
  rcases hstatus with h | h <;> rw [h] <;> decide

/-- Stores a word, reads it again, and reverts with it. -/
def storingCode : Bytes :=
  #[0x60, 0x07, 0x60, 0x01, 0x55, 0x60, 0x01, 0x54, 0x60, 0x00, 0x52, 0x60, 0x20, 0x60, 0x00, 0xfd]

theorem launch_of_gas_le_storingCode :
    let round := ({} : Meter).launch .blind storingCode (Fixture.world storingCode) 80 ()
    let round' := ({} : Meter).launch .blind storingCode (Fixture.world storingCode) 8000 ()
    let result := round.result (({} : Meter).initialGas 80) 0
    (∀ op ∈ Opcode.gasReaders, op.byte ∉ storingCode) ∧
      ({} : Meter).initialGas 80 ≤ ({} : Meter).initialGas 8000 ∧
      (result.status = .reverted ∧ result.gasUsed = 22224) ∧
      (round'.result (({} : Meter).initialGas 8000) 0 = result ∧
        round'.machine.world = round.machine.world) := by
  dsimp only
  have hcode : ∀ op ∈ Opcode.gasReaders, op.byte ∉ storingCode := by decide +kernel
  have hgas : ({} : Meter).initialGas 80 ≤ ({} : Meter).initialGas 8000 := by decide
  have hlaunch := launch_of_gas_le {} {} .blind .blind storingCode (Fixture.world storingCode)
    80 8000 () () 0 rfl hcode hgas
  dsimp only at hlaunch
  refine ⟨hcode, hgas, ⟨?_, ?_⟩, hlaunch (.inr ?_)⟩
  · decide +kernel
  · decide +kernel
  · decide +kernel

end Meter
end Gasometer
