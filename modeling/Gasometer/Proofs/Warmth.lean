import Gasometer.Proofs.Reversion
import Gasometer.Proofs.StackEffects

/-!
# Warmth

An operation that looks at an account or at a storage slot makes it warm, and so does a creation at
the address of its contract. Nothing makes it cold again: the access list belongs to the
transaction, and the end of a frame leaves it as it is, also of one that fails and takes back what
it has done to the world. This needs no numbers to be sound.
-/
namespace Gasometer

inductive Spot
  | account (a : Address)
  | slot (a : Address) (key : Int)
  deriving DecidableEq, Repr

namespace AccessList

variable {l : AccessList} {x? : Option Spot} {x y : Spot}

def Warm (l : AccessList) : Spot → Prop
  | .account a => a ∈ l.addresses
  | .slot a key => (a, key) ∈ l.slots

instance decidableWarm (l : AccessList) : (x : Spot) → Decidable (l.Warm x)
  | .account a => inferInstanceAs (Decidable (a ∈ l.addresses))
  | .slot a key => inferInstanceAs (Decidable ((a, key) ∈ l.slots))

def touch (l : AccessList) : Option Spot → AccessList
  | none => l
  | some (.account a) => (l.warmAddress a).2
  | some (.slot a key) => (l.warmSlot a key).2

/-- What is touched is warm, and nothing else changes. -/
theorem warm_touch : (l.touch x?).Warm y ↔ l.Warm y ∨ x? = some y := by
  rcases x? with _ | a | ⟨a, key⟩ <;> cases y <;> grind [Warm, touch, warmAddress, warmSlot]

theorem warmAddress_fst (l : AccessList) (a : Address) :
    (l.warmAddress a).1 = decide (l.Warm (.account a)) := by
  unfold warmAddress
  split <;> simp_all [Warm]

theorem warmSlot_fst (l : AccessList) (a : Address) (key : Int) :
    (l.warmSlot a key).1 = decide (l.Warm (.slot a key)) := by
  unfold warmSlot
  split <;> simp_all [Warm]

end AccessList

/-- A stage of an operation before it comes to its target. -/
structure Activity.Before (l : AccessList) (c : Context) (a : Activity) : Prop where
  access : a.access = l
  context : a.frame.context = c

/-- What an operation looks at, besides the accounts that creations make: the account that the
uppermost word names, or the second one in calls, or a slot of its own account. -/
def Activity.aim? (a : Activity) : Opcode → Option Spot
  | .accountQuery _ | .extcodecopy | .selfdestruct =>
    a.frame.stack.items[0]?.map fun x => .account (Address.ofInt x)
  | .call _ => a.frame.stack.items[1]?.map fun x => .account (Address.ofInt x)
  | .sload | .sstore => a.frame.stack.items[0]?.map (.slot a.frame.context.address)
  | _ => none

/-- What an operation costs that reads a slot or a value of an account, which is warm or not. -/
def Opcode.readPrice? (warm : Bool) : Opcode → Option Int
  | .sload => some (if warm then Gas.warmAccess else Gas.coldSload)
  | .accountQuery _ => some (if warm then Gas.warmAccess else Gas.coldAccount)
  | _ => none

def Spot.created? (child? : Option Frame) : Option Spot :=
  (child?.filter (·.context.kind = .contractCreation)).map fun f => .account f.context.address

namespace Exec

variable {α β : Type} {a : Activity} {l : AccessList} {c : Context} {x? : Option Spot}
  {last : β → Activity → Prop}

/-- A change that touches nothing. -/
abbrev Still (x : Exec α) : Prop := Within (Activity.Same Activity.bearings) x

instance : Inward (Activity.Same Activity.bearings) where
  refl _ := rfl
  trans h h' := h'.trans h
  update _ _ _ _ _ _ _ := rfl
  leave _ _ _ _ := rfl

instance stillUpdateWorld (f : World → World) : Still (updateWorld f) := ⟨fun _ => rfl⟩

/-- A change of the effects of a frame. -/
instance stillRecord (logs : Frame → List Log) (selfDestructs : Frame → List Address) :
    Still (update fun f => ⟨f.context, f.gas, f.status, f.pc, f.stack, f.memory, f.returnData,
      f.output, logs f, selfDestructs f⟩) := ⟨fun _ => rfl⟩

instance stillLog (topics : Nat) : Still (log topics) := by unfold log; infer_instance

/-- An operation that was stopped has touched its target, or did not come to it. -/
def Heats (l : AccessList) (x? : Option Spot) (_ : Stop) (a : Activity) : Prop :=
  a.access = l ∨ a.access = l.touch x?

theorem Still.before {x : Exec α} (hx : Still x) (ha : a.Before l c) :
    x.Yields a (fun _ b => b.Before l c) (Heats l x?) := by
  refine (hx.kept a).imp (fun _ b hb => ?_) fun _ b hb => .inl ?_
  · exact ⟨(congrArg Prod.fst hb).trans ha.access, (congrArg Prod.snd hb).trans ha.context⟩
  · exact (congrArg Prod.fst hb).trans ha.access

/-- A change before the target is touched. -/
theorem Still.bind {x : Exec α} {f : α → Exec β} (hx : Still x) (ha : a.Before l c)
    (hf : ∀ v b, b.Before l c → (f v).Yields b last (Heats l x?)) :
    (x >>= f).Yields a last (Heats l x?) := (hx.before ha).bind hf

/-- A change after the target was touched. -/
theorem Still.after {x : Exec α} (hx : Still x) (ha : a.access = l.touch x?) :
    x.Yields a (fun _ b => b.access = l.touch x?) (Heats l x?) :=
  (hx.kept a).imp (fun _ _ h => (congrArg Prod.fst h).trans ha)
    fun _ _ h => .inr ((congrArg Prod.fst h).trans ha)

theorem pop_before (ha : a.Before l c) :
    pop.Yields a (fun x b => a.frame.stack.items = x :: b.frame.stack.items ∧ b.Before l c)
      (Heats l x?) := by
  refine (pop_spec a).imp ?_ fun _ b hb => .inl (hb ▸ ha.access)
  rintro x _ ⟨stack, hitems, rfl⟩
  exact ⟨hitems, ha.access, ha.context⟩

theorem accessCost_touches (ha : a.Before l c) (x : Address) :
    (accessCost x).Yields a (fun _ b => b.access = l.touch (some (.account x)))
      (Heats l (some (.account x))) := by
  obtain ⟨rfl, -⟩ := ha
  exact rfl

theorem warmAddress_touches (ha : a.Before l c) (x : Address) :
    (warmAddress x).Yields a (fun _ b => b.access = l.touch (some (.account x)))
      (Heats l (some (.account x))) := by
  obtain ⟨rfl, -⟩ := ha
  exact rfl

theorem warmSlot_touches (ha : a.Before l c) (key : Int) :
    (warmSlot key).Yields a (fun _ b => b.access = l.touch (some (.slot c.address key)))
      (Heats l (some (.slot c.address key))) := by
  obtain ⟨rfl, rfl⟩ := ha
  exact rfl

/-! The operations that touch something. -/

/-- An operation that touches its target, unless it is stopped before. -/
def Touches (x : Exec α) (a : Activity) (x? : Option Spot) : Prop :=
  x.Yields a (fun _ b => b.access = a.access.touch x?) (Heats a.access x?)

theorem accountQuery_touches (q : AccountQuery) (a : Activity) :
    (accountQuery q).Touches a (a.aim? (.accountQuery q)) := by
  refine (pop_before ⟨rfl, rfl⟩).bind ?_
  rintro x b ⟨hitems, hb⟩
  have haim : a.aim? (.accountQuery q) = some (.account (Address.ofInt x)) := by
    simp [Activity.aim?, hitems]
  rw [haim]
  exact (accessCost_touches hb _).bind fun cost b hb => Still.after inferInstance hb

theorem extcodecopy_touches (a : Activity) : extcodecopy.Touches a (a.aim? .extcodecopy) := by
  refine (pop_before ⟨rfl, rfl⟩).bind ?_
  rintro x b ⟨hitems, hb⟩
  have haim : a.aim? .extcodecopy = some (.account (Address.ofInt x)) := by
    simp [Activity.aim?, hitems]
  rw [haim]
  refine Still.bind withinPop hb fun dest b hb => Still.bind withinPop hb fun offset b hb => ?_
  refine Still.bind withinPop hb fun size b hb => ?_
  exact (accessCost_touches hb _).bind fun cost b hb => Still.after inferInstance hb

theorem sload_touches (a : Activity) : sload.Touches a (a.aim? .sload) := by
  refine (pop_before ⟨rfl, rfl⟩).bind ?_
  rintro key b ⟨hitems, hb⟩
  have haim : a.aim? .sload = some (.slot a.frame.context.address key) := by
    simp [Activity.aim?, hitems]
  rw [haim]
  exact (warmSlot_touches hb key).bind fun warm b hb => Still.after inferInstance hb

/-- Only a frame that may change the world passes. -/
theorem forbidStatic_before (ha : a.Before l c) :
    forbidStatic.Yields a (fun _ b => a = b) (Heats l x?) := by
  unfold forbidStatic
  exact Yields.view ((Yields.haltIf fun _ => .inl ha.access).mono fun _ _ h => h.2)

theorem sstore_touches (a : Activity) : sstore.Touches a (a.aim? .sstore) := by
  refine (forbidStatic_before ⟨rfl, rfl⟩).bind ?_
  rintro _ _ rfl
  refine Yields.view ((Yields.haltIf fun _ => .inl rfl).bind ?_)
  rintro _ _ ⟨-, rfl⟩
  refine (pop_before ⟨rfl, rfl⟩).bind ?_
  rintro key b ⟨hitems, hb⟩
  have haim : a.aim? .sstore = some (.slot a.frame.context.address key) := by
    simp [Activity.aim?, hitems]
  rw [haim]
  refine Still.bind withinPop hb fun value b hb => ?_
  refine Yields.view (Yields.viewWorld (Yields.viewWorld ?_))
  exact (warmSlot_touches hb key).bind fun warm b hb => Still.after inferInstance hb

theorem selfdestruct_touches (a : Activity) : selfdestruct.Touches a (a.aim? .selfdestruct) := by
  refine (forbidStatic_before ⟨rfl, rfl⟩).bind ?_
  rintro _ _ rfl
  refine (pop_before ⟨rfl, rfl⟩).bind ?_
  rintro x b ⟨hitems, hb⟩
  have haim : a.aim? .selfdestruct = some (.account (Address.ofInt x)) := by
    simp [Activity.aim?, hitems]
  rw [haim]
  exact (warmAddress_touches hb _).bind fun warm b hb => Still.after inferInstance hb

/-- An operation that touches its target, unless it is stopped before, and then the account of the
contract that it creates. -/
def TouchesAll (x : Exec (Option Frame)) (a : Activity) (x? : Option Spot) : Prop :=
  x.Yields a (fun child? b => b.access = (a.access.touch x?).touch (Spot.created? child?))
    (Heats a.access x?)

theorem enter_touches {kind : CallKind} {target : Address}
    {value inOffset inSize outOffset outSize gas : Int} (ha : a.access = l.touch x?) :
    (enter kind target value inOffset inSize outOffset outSize gas).Yields a
      (fun child? b => b.access = (l.touch x?).touch (Spot.created? child?)) (Heats l x?) := by
  refine Yields.update (Yields.view (Yields.viewWorld ?_))
  split
  · exact ha
  · exact ha

theorem call_touches (kind : CallKind) (a : Activity) :
    (call kind).TouchesAll a (a.aim? (.call kind)) := by
  refine (pop_before ⟨rfl, rfl⟩).bind ?_
  rintro requested b ⟨hitems, hb⟩
  refine (pop_before hb).bind ?_
  rintro x b ⟨hnext, hb⟩
  have haim : a.aim? (.call kind) = some (.account (Address.ofInt x)) := by
    simp [Activity.aim?, hitems, hnext]
  rw [haim]
  refine Still.bind (withinTakeValue kind) hb fun value b hb => ?_
  refine Still.bind withinPop hb fun inOffset b hb => Still.bind withinPop hb fun inSize b hb => ?_
  refine Still.bind withinPop hb fun outOffset b hb => ?_
  refine Still.bind withinPop hb fun outSize b hb => ?_
  refine Yields.view (Still.bind (withinHaltIf ..) hb fun _ b hb => ?_)
  refine Still.bind (withinExpandMemory inOffset inSize) hb fun _ b hb => ?_
  refine Still.bind (withinExpandMemory outOffset outSize) hb fun _ b hb => ?_
  refine (accessCost_touches hb _).bind fun access b hb => Yields.viewWorld ?_
  refine (Still.after (withinUseGas _) hb).bind fun _ b hb => Yields.view ?_
  exact (Still.after (withinUseGas _) hb).bind fun _ b hb => enter_touches hb

theorem create_touches (salted : Bool) (a : Activity) : (create salted).TouchesAll a none := by
  have ha : a.Before a.access a.frame.context := ⟨rfl, rfl⟩
  refine Still.bind withinForbidStatic ha fun _ b hb => Still.bind withinPop hb fun value b hb => ?_
  refine Still.bind withinPop hb fun offset b hb => Still.bind withinPop hb fun size b hb => ?_
  refine Still.bind (withinTakeSalt salted size) hb fun salt b hb => ?_
  refine Still.bind (withinReadMemory offset size) hb fun code b hb => ?_
  refine Still.bind (withinUpdate ..) hb fun _ b hb => ?_
  refine Yields.view (Yields.viewWorld ?_)
  split
  · exact hb.access
  · refine Yields.view (Still.bind (withinUseGas _) hb fun _ b hb => ?_)
    refine Still.bind inferInstance hb fun _ b hb => ?_
    refine Still.bind (withinAttempt _) hb fun place b hb => ?_
    refine Still.bind (withinAttempt _) hb fun number b hb => ?_
    -- The account of the contract is touched last, when nothing can stop the creation any more.
    exact congrArg (AccessList.touch · (some (.account place))) hb.access

theorem Still.touchesAll {x : Exec (Option Frame)} (hx : Still x) (hlone : Lone x) :
    x.TouchesAll a none := by
  refine ((hx.kept a).and (hlone.lone a)).imp ?_ fun _ _ h => .inl (congrArg Prod.fst h.1)
  rintro child? b ⟨h, rfl⟩
  exact congrArg Prod.fst h

theorem Touches.touchesAll {x : Exec Unit} (hx : x.Touches a x?) :
    TouchesAll (do x; return none) a x? := hx.bind fun _ _ hb => hb

/-- What an operation touches. -/
theorem execute_touches (op : Opcode) (a : Activity) : (execute op).TouchesAll a (a.aim? op) := by
  cases op with
  | call kind => exact call_touches kind a
  | create => exact create_touches false a
  | create2 => exact create_touches true a
  | accountQuery q => exact (accountQuery_touches q a).touchesAll
  | extcodecopy => exact (extcodecopy_touches a).touchesAll
  | sload => exact (sload_touches a).touchesAll
  | sstore => exact (sstore_touches a).touchesAll
  | selfdestruct => exact (selfdestruct_touches a).touchesAll
  | log => exact Still.touchesAll (by unfold execute; infer_instance) (lone_execute not_false)
  | _ => exact Still.touchesAll (within_execute trivial) (lone_execute not_false)

/-! One step of the code. -/

theorem begin_heats (info : OpcodeInfo) (a : Activity) :
    (begin_ info).Yields a (fun _ b => b = paid info a) (Heats a.access x?) := by
  have hstill : Still (begin_ info) := inferInstance
  exact ((begin_yields info a).and (hstill.kept a)).imp (fun _ _ h => h.1.1)
    fun _ _ h => .inl (congrArg Prod.fst h.2)

/-- Paying the static price changes no target. -/
theorem aim?_paid (info : OpcodeInfo) (a : Activity) (op : Opcode) :
    (paid info a).aim? op = a.aim? op := by
  cases op <;> rfl

theorem step_touches (op : Opcode) (a : Activity) : (step op.byte).TouchesAll a (a.aim? op) := by
  unfold TouchesAll step
  rw [Opcode.ofByte?_byte]
  dsimp only
  cases op.info? with
  | none => exact .inl rfl
  | some info =>
    refine (begin_heats info a).bind ?_
    rintro _ _ rfl
    rw [← aim?_paid info a op]
    exact execute_touches op (paid info a)

variable {a' : Activity} {op : Opcode} {child? : Option Frame} {y : Spot}

/-- After a step that was done, that is warm besides what was warm before which the step looked at,
or made a contract of. -/
theorem warm_of_step_ok (h : step op.byte a = .ok child? a') :
    a'.access.Warm y ↔ a.access.Warm y ∨ a.aim? op = some y ∨ Spot.created? child? = some y := by
  have htouches := (step_touches op a).of_ok h
  rw [htouches, AccessList.warm_touch, AccessList.warm_touch, or_assoc]

/-- A step that was stopped has warmed nothing but what it would look at. -/
theorem warm_of_step_error {byte : UInt8} {e : Stop} (h : step byte a = .error e a') :
    (a.access.Warm y → a'.access.Warm y) ∧
      (a'.access.Warm y → a.access.Warm y ∨ ∃ op, byte = op.byte ∧ a.aim? op = some y) := by
  cases hop : Opcode.ofByte? byte with
  | none =>
    rw [step, hop] at h
    cases h
    exact ⟨id, .inl⟩
  | some op =>
    obtain rfl := Opcode.byte_of_ofByte? hop
    rcases (step_touches op a).of_error h with hsame | hheated
    · rw [hsame]
      exact ⟨id, .inl⟩
    · rw [hheated, AccessList.warm_touch]
      exact ⟨.inl, Or.imp_right fun haim => ⟨op, rfl, haim⟩⟩

/-! What it costs to read something. -/

theorem Yields.warmSlot {key : Int} {f : Bool → Exec β} {stopped : Stop → Activity → Prop}
    (h : (f (a.access.warmSlot a.frame.context.address key).1).Yields
      { a with access := (a.access.warmSlot a.frame.context.address key).2 } last stopped) :
    (Exec.warmSlot key >>= f).Yields a last stopped := h

theorem Yields.accessCost {x : Address} {f : Int → Exec β} {stopped : Stop → Activity → Prop}
    (h : (f (if (a.access.warmAddress x).1 then Gas.warmAccess else Gas.coldAccount)).Yields
      { a with access := (a.access.warmAddress x).2 } last stopped) :
    (Exec.accessCost x >>= f).Yields a last stopped := h

theorem sload_costs (a : Activity) (hy : a.aim? .sload = some y) :
    sload.Yields a (fun _ b => a.frame.gas - b.frame.gas =
      if decide (a.access.Warm y) then Gas.warmAccess else Gas.coldSload) fun _ _ => True := by
  refine (pop_spec a).ifDone.bind ?_
  rintro key _ ⟨stack, hitems, rfl⟩
  obtain rfl : Spot.slot a.frame.context.address key = y := by
    simpa [Activity.aim?, hitems] using hy
  refine Yields.warmSlot ?_
  refine (useGas_spec _ _).ifDone.bind ?_
  rintro _ _ rfl
  show a.frame.gas - (a.frame.gas - if (a.access.warmSlot _ key).1 then _ else _) = _
  rw [AccessList.warmSlot_fst, sub_sub_cancel]

theorem accountQuery_costs (q : AccountQuery) (a : Activity)
    (hy : a.aim? (.accountQuery q) = some y) :
    (accountQuery q).Yields a (fun _ b => a.frame.gas - b.frame.gas =
      if decide (a.access.Warm y) then Gas.warmAccess else Gas.coldAccount) fun _ _ => True := by
  refine (pop_spec a).ifDone.bind ?_
  rintro x _ ⟨stack, hitems, rfl⟩
  obtain rfl : Spot.account (Address.ofInt x) = y := by simpa [Activity.aim?, hitems] using hy
  refine Yields.accessCost ?_
  refine (useGas_spec _ _).ifDone.bind ?_
  rintro _ _ rfl
  show a.frame.gas - (a.frame.gas - if (a.access.warmAddress _).1 then _ else _) = _
  rw [AccessList.warmAddress_fst, sub_sub_cancel]

theorem execute_costs {price : Int} (hy : a.aim? op = some y)
    (hprice : op.readPrice? (a.access.Warm y) = some price) :
    (execute op).Yields a (fun _ b => a.frame.gas - b.frame.gas = price) fun _ _ => True := by
  cases op with
  | sload =>
    cases hprice
    exact (sload_costs a hy).bind fun _ _ hb => hb
  | accountQuery q =>
    cases hprice
    exact (accountQuery_costs q a hy).bind fun _ _ hb => hb
  | _ => cases hprice

/-- A done step that reads something has cost what the access list says. -/
theorem step_costs {price : Int} (h : step op.byte a = .ok child? a') (hy : a.aim? op = some y)
    (hprice : op.readPrice? (a.access.Warm y) = some price) :
    a.frame.gas - a'.frame.gas = price := by
  obtain ⟨info, hinfo, -, hexecute⟩ := step_eq_ok h
  have hfree : info.gas = 0 := by
    cases op with
    | sload | accountQuery q =>
      cases hinfo
      rfl
    | _ => cases hprice
  have hcosts := execute_costs (a := paid info a) ((aim?_paid info a op).trans hy) hprice
  simpa [paid, Activity.mapFrame, hfree] using hcosts.of_ok hexecute

end Exec

namespace Activity

variable {rules : CreationRules} {a : Activity}

theorem finish_status_of_reverted (rules : CreationRules) (h : a.frame.status = .reverted) :
    (a.finish rules).frame.status = .failed .revert := by
  rw [finish, h]
  exact settle_status_of_reverted h

end Activity

namespace Machine

variable {rules : CreationRules} {s t u : Machine} {x : Spot} {n : Nat}

/-- Whether a state lies on the way from one to another on which more than `n` frames are open. -/
def OnWay (u : Machine) (rules : CreationRules) (n : Nat) (s t : Machine) : Prop :=
  ReachesAbove rules n s u ∧ ReachesAbove rules n u t

/-- Whether the operation that is executed next looks at this account or slot. -/
def AimsAt (s : Machine) (x : Spot) : Prop :=
  ∃ (a : Activity) (op : Opcode) (below : List Frame), s = a.atop below ∧
    a.frame.status = .executing ∧ a.nextByte? = some op.byte ∧ a.aim? op = some x

/-- Whether the operation that is executed next is done, and looks at this account or slot or
creates a contract there. -/
def Touches (s : Machine) (x : Spot) : Prop :=
  ∃ (a a' : Activity) (op : Opcode) (child? : Option Frame) (below : List Frame),
    s = a.atop below ∧ a.frame.status = .executing ∧ a.nextByte? = some op.byte ∧
    Exec.step op.byte a = .ok child? a' ∧ (a.aim? op = some x ∨ Spot.created? child? = some x)

/-- What a done operation touches is warm after it. -/
theorem Touches.exists_move (h : s.Touches x) : ∃ t, Move rules s t ∧ t.access.Warm x := by
  obtain ⟨a, a', op, child?, below, rfl, hstatus, hbyte, hstep, htouched⟩ := h
  have hwarm : a'.access.Warm x := (Exec.warm_of_step_ok hstep).2 (.inr htouched)
  cases child? with
  | none => exact ⟨_, .step below hstatus hbyte hstep, hwarm⟩
  | some child => exact ⟨_, .open_ below hstatus hbyte hstep, hwarm⟩

theorem Touches.warm (h : s.Touches x) (hmove : Move rules s t) : t.access.Warm x := by
  obtain ⟨t', hmove' : Move rules s t', hwarm⟩ := h.exists_move
  -- A machine has only one move to make, so it is the one of this operation.
  obtain rfl : t' = t := Option.some.inj ((move_iff.1 hmove').symm.trans (move_iff.1 hmove))
  exact hwarm

theorem access_leave (rules : CreationRules) (a : Activity) (below : List Frame) :
    ((a.finish rules).leave below).access = a.access := Activity.finish_access rules a

/-- No move makes anything cold. -/
theorem warm_of_move (h : Move rules s t) (hs : s.access.Warm x) : t.access.Warm x := by
  cases h with
  | @start a below => rwa [show ((a.start rules).atop below).access = _ from a.start_access rules]
  | runOff => exact hs
  | step below hstatus hbyte hstep | open_ below hstatus hbyte hstep =>
    obtain ⟨op, rfl⟩ := Exec.exists_op_of_step hstep
    exact (Exec.warm_of_step_ok hstep).2 (.inl hs)
  | halt below hstatus hbyte hstep => exact (Exec.warm_of_step_error hstep).1 hs
  | @close a below hleft => rwa [access_leave]

theorem warm_of_reaches (h : Reaches rules s t) (hs : s.access.Warm x) : t.access.Warm x := by
  induction h with
  | refl => exact hs
  | tail _ hmove ih => exact warm_of_move hmove ih

/-- A move makes nothing warm but what its operation touches or looks at. -/
theorem of_warm_of_move (h : Move rules s t) (ht : t.access.Warm x) :
    s.access.Warm x ∨ s.Touches x ∨ s.AimsAt x := by
  cases h with
  | @start a below =>
    rw [show ((a.start rules).atop below).access = _ from a.start_access rules] at ht
    exact .inl ht
  | runOff => exact .inl ht
  | step below hstatus hbyte hstep | open_ below hstatus hbyte hstep =>
    obtain ⟨op, rfl⟩ := Exec.exists_op_of_step hstep
    refine ((Exec.warm_of_step_ok hstep).1 ht).imp_right fun htouched => .inl ?_
    exact ⟨_, _, op, _, below, rfl, hstatus, hbyte, hstep, htouched⟩
  | halt below hstatus hbyte hstep =>
    refine ((Exec.warm_of_step_error hstep).2 ht).imp_right ?_
    rintro ⟨op, rfl, haim⟩
    exact .inr ⟨_, op, below, rfl, hstatus, hbyte, haim⟩
  | @close a below hleft =>
    rw [access_leave] at ht
    exact .inl ht

/-- After a sequence of moves nothing is warm but what was warm before, or was touched or looked at
on the way. -/
theorem of_warm_of_reachesAbove (h : ReachesAbove rules n s t) (ht : t.access.Warm x) :
    s.access.Warm x ∨ ∃ u : Machine, u.OnWay rules n s t ∧ (u.Touches x ∨ u.AimsAt x) := by
  -- From the end backwards: the last move has made it warm, or it was warm before that move.
  induction h with
  | refl => exact .inl ht
  | @tail t' t hreach hmove ih =>
    rcases of_warm_of_move hmove.1 ht with hwarm | hlooked
    · refine (ih hwarm).imp_right ?_
      rintro ⟨u, ⟨hsu, hut⟩, hu⟩
      exact ⟨u, ⟨hsu, hut.tail hmove⟩, hu⟩
    · exact .inr ⟨t', ⟨hreach, .single hmove⟩, hlooked⟩

/-- What a done operation touches is warm in every other state that follows. -/
theorem Touches.warm_of_reaches (h : s.Touches x) (hreach : Reaches rules s t) (hne : s ≠ t) :
    t.access.Warm x := by
  rcases Relation.ReflTransGen.cases_head hreach with rfl | ⟨u, hmove, hrest⟩
  · exact absurd rfl hne
  · exact Machine.warm_of_reaches hrest (h.warm hmove)

/-- No operation is executed where the code of the uppermost frame was left. -/
theorem Touches.ne_of_isLeft {a : Activity} {below : List Frame} (h : s.Touches x)
    (hleft : a.frame.status.IsLeft) : s ≠ a.atop below := by
  rintro rfl
  obtain ⟨b, _, _, _, _, hatop, hstatus, -⟩ := h
  have hframe : a.frame = b.frame := (List.cons.inj (congrArg Machine.frames hatop)).1
  rw [hframe, hstatus] at hleft
  exact hleft

end Machine

namespace Meter
open Machine

/-- What a launch makes warm stays warm. Where the code of a frame was left and the frame is brought
to its end, an account or a slot is warm that was warm when the frame was opened, or that a done
operation has touched since; nothing else is, but what a stopped operation looked at. What is warm
then stays warm, and is read for the warm price. It is the same if the frame fails, although it
takes back what it has done to the world. -/
theorem launch_stays_warm (m : Meter) (code : Bytes) (world : World) (gasLimit : Int) :
    ∀ s f fs a below, Reaches {} (m.opening code world gasLimit) s → s.frames = f :: fs →
      ReachesAbove {} fs.length s (Activity.atop a below) → below.length = fs.length →
      a.frame.status.IsLeft →
      let t := (a.finish {}).leave below
      (∀ failure, (a.finish {}).frame.status = .failed failure → t.world = s.world.close) ∧
      ∀ x,
        (s.access.Warm x → t.access.Warm x) ∧
        (∀ u : Machine, u.OnWay {} fs.length s (a.atop below) → u.Touches x → t.access.Warm x) ∧
        (t.access.Warm x → s.access.Warm x ∨
          ∃ u : Machine, u.OnWay {} fs.length s (a.atop below) ∧ (u.Touches x ∨ u.AimsAt x)) ∧
        (t.access.Warm x → ∀ b rest, Reaches {} t (Activity.atop b rest) → b.access.Warm x ∧
          ∀ op child? b' price, Exec.step op.byte b = .ok child? b' → b.aim? op = some x →
            op.readPrice? true = some price → b.frame.gas - b'.frame.gas = price) := by
  intro s f fs a below hreach hframes hlife hlength hleft t
  have haccess : t.access = (a.atop below).access := access_leave {} a below
  refine ⟨fun failure hfailed => (leave_of_failed hreach hframes hlife hlength hfailed).2,
    fun x => ⟨fun hs => ?_, fun u hway hu => ?_, fun ht => ?_, fun ht b rest hlater => ?_⟩⟩
  · rw [haccess]
    exact warm_of_reaches hlife.reaches hs
  · rw [haccess]
    exact hu.warm_of_reaches hway.2.reaches (hu.ne_of_isLeft hleft)
  · rw [haccess] at ht
    exact of_warm_of_reachesAbove hlife ht
  · have hwarm : b.access.Warm x := warm_of_reaches hlater ht
    refine ⟨hwarm, fun op child? b' price hstep haim hprice => Exec.step_costs hstep haim ?_⟩
    rwa [decide_eq_true hwarm]

/-- Calls itself, reads a balance in the call and reverts there, and reads it once more after it. -/
def readingTwice : Bytes :=
  #[0x33, 0x32, 0x14, 0x60, 0x0c, 0x57, 0x60, 0x99, 0x31, 0x3d, 0x3d, 0xfd, 0x5b, 0x3d, 0x3d, 0x3d,
    0x3d, 0x3d, 0x30, 0x5a, 0xf1, 0x50, 0x60, 0x99, 0x31]

def readAccount : Spot := .account (Address.ofInt 0x99)

def readsAgain (b : Activity) (_ : List Frame) : Bool :=
  b.aim? (.accountQuery .balance) == some readAccount &&
    match Exec.step (Opcode.accountQuery .balance).byte b with
    | .ok .. => true
    | .error .. => false

/-- Whether a call was left with a revert, has made the account warm, and is followed by a frame
that reads its balance. -/
def revertsWarm (a : Activity) (below : List Frame) : Bool :=
  decide (a.frame.status = .reverted ∧ below.length = 1 ∧ a.access.Warm readAccount) &&
    (((a.finish {}).leave below).movedAbove? {} 0 2).any (sees readsAgain)

def callsCold (c : Activity) (fs : List Frame) : Bool :=
  decide (fs.length = 1 ∧ ¬ c.access.Warm readAccount) &&
    ((c.atop fs).movedAbove? {} 1 11).any (sees revertsWarm)

theorem exists_of_revertsWarm {a : Activity} {below : List Frame} (h : revertsWarm a below = true) :
    (a.frame.status = .reverted ∧ below.length = 1 ∧ a.access.Warm readAccount) ∧
      ∃ b rest child? b', Reaches {} ((a.finish {}).leave below) (Activity.atop b rest) ∧
        b.aim? (.accountQuery .balance) = some readAccount ∧
        Exec.step (Opcode.accountQuery .balance).byte b = .ok child? b' := by
  obtain ⟨hends, hlater⟩ := Bool.and_eq_true_iff.1 h
  obtain ⟨b, rest, hreach, hreads⟩ := exists_of_sees hlater
  obtain ⟨haim, hok⟩ := Bool.and_eq_true_iff.1 hreads
  refine ⟨of_decide_eq_true hends, b, rest, ?_⟩
  cases hstep : Exec.step (Opcode.accountQuery .balance).byte b with
  | ok child? b' => exact ⟨child?, b', hreach.reaches, beq_iff_eq.1 haim, rfl⟩
  | error e b' =>
    rw [hstep] at hok
    cases hok

/-- The launch of this program calls itself, reverts with the account warm, and goes on. -/
theorem exists_readingTwice :
    ∃ c fs a below, Reaches {}
        (({} : Meter).opening readingTwice (Fixture.world readingTwice) 1000) (Activity.atop c fs) ∧
      ReachesAbove {} fs.length (c.atop fs) (Activity.atop a below) ∧ below.length = fs.length ∧
      ¬ c.access.Warm readAccount ∧ revertsWarm a below = true := by
  have hrun : ((({} : Meter).opening readingTwice (Fixture.world readingTwice) 1000).movedAbove? {}
      0 15).any (sees callsCold) = true := by decide +kernel
  obtain ⟨c, fs, hreach, hcalls⟩ := exists_of_sees hrun
  obtain ⟨hcalled, hlife⟩ := Bool.and_eq_true_iff.1 hcalls
  obtain ⟨hlength, hcold⟩ := of_decide_eq_true hcalled
  obtain ⟨a, below, hlife, hends⟩ := exists_of_sees hlife
  refine ⟨c, fs, a, below, hreach.reaches, hlength ▸ hlife, ?_, hcold, hends⟩
  exact (exists_of_revertsWarm hends).1.2.1.trans hlength.symm

/-- The account that was first touched in the call is not cold again after the call has failed. -/
theorem launch_readingTwice_not_cold :
    ¬ ∀ s f fs a below failure,
      Reaches {} (({} : Meter).opening readingTwice (Fixture.world readingTwice) 1000) s →
      s.frames = f :: fs → ReachesAbove {} fs.length s (Activity.atop a below) →
      below.length = fs.length → (a.finish {}).frame.status = .failed failure →
        ∀ x, ((a.finish {}).leave below).access.Warm x ↔ s.access.Warm x := by
  intro h
  obtain ⟨c, fs, a, below, hreach, hlife, hlength, hcold, hends⟩ := exists_readingTwice
  obtain ⟨⟨hstatus, -, hwarm⟩, -⟩ := exists_of_revertsWarm hends
  have hfailed := Activity.finish_status_of_reverted {} hstatus
  have hsame := h (c.atop fs) c.frame fs a below _ hreach rfl hlife hlength hfailed readAccount
  rw [access_leave] at hsame
  exact hcold (hsame.1 hwarm)

theorem launch_stays_warm_readingTwice :
    ∃ s f fs a below b rest child? b',
      (Reaches {} (({} : Meter).opening readingTwice (Fixture.world readingTwice) 1000) s ∧
        s.frames = f :: fs ∧ ReachesAbove {} fs.length s (Activity.atop a below) ∧
        below.length = fs.length ∧ (a.finish {}).frame.status = .failed .revert ∧
        Reaches {} ((a.finish {}).leave below) (Activity.atop b rest) ∧
        Exec.step (Opcode.accountQuery .balance).byte b = .ok child? b' ∧
        b.aim? (.accountQuery .balance) = some readAccount) ∧
      ((a.finish {}).leave below).world = s.world.close ∧ ¬ s.access.Warm readAccount ∧
      (∃ u : Machine, u.OnWay {} fs.length s (a.atop below) ∧
        (u.Touches readAccount ∨ u.AimsAt readAccount)) ∧
      b.frame.gas - b'.frame.gas = 100 := by
  obtain ⟨c, fs, a, below, hreach, hlife, hlength, hcold, hends⟩ := exists_readingTwice
  obtain ⟨⟨hstatus, -, hwarm⟩, b, rest, child?, b', hlater, haim, hstep⟩ :=
    exists_of_revertsWarm hends
  have hfailed := Activity.finish_status_of_reverted {} hstatus
  obtain ⟨hworld, hspots⟩ := launch_stays_warm {} readingTwice (Fixture.world readingTwice) 1000
    (c.atop fs) c.frame fs a below hreach rfl hlife hlength (by rw [hstatus]; trivial)
  obtain ⟨-, -, honly, hon⟩ := hspots readAccount
  rw [access_leave] at honly hon
  exact ⟨c.atop fs, c.frame, fs, a, below, b, rest, child?, b',
    ⟨hreach, rfl, hlife, hlength, hfailed, hlater, hstep, haim⟩, hworld _ hfailed, hcold,
    (honly hwarm).resolve_left hcold, (hon hwarm b rest hlater).2 _ _ _ _ hstep haim rfl⟩

end Meter
end Gasometer
