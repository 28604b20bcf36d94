import Gasometer.Proofs.Views

/-!
# Outward effects of operations

Seen from outside a frame is its context, the accounts visible from its layer, its log and the
contracts that it has ended. Most operations change nothing of this. The others do one of the deeds
of `Deed`, which says of a frame that is opened how it was made and what its opener has checked.
This needs no numbers to be sound.
-/
namespace Gasometer

/-- What is seen of a frame from outside. -/
structure Outward where
  context : Context
  view : View
  logs : List Log
  selfDestructs : List Address

def Frame.outward (f : Frame) (v : View) : Outward := ⟨f.context, v, f.logs, f.selfDestructs⟩

def Activity.outward (a : Activity) : Outward := a.frame.outward a.world.get?

/-- A frame that a call of this kind opens. -/
inductive Called (o : Outward) (kind : CallKind) : Frame → Prop
  | intro (target : Address) (input : Bytes) (value outOffset outSize gas : Int)
    (hdepth : o.context.depth < Exec.maxDepth) (hfunds : value ≤ o.view.balance o.context.address)
    (hfree : Exec.takesValue kind = false → value = 0)
    (hstatic : kind = .call → value ≠ 0 → o.context.isStatic = false) :
    Called o kind
      { context := Exec.calledContext kind o.context target (o.view.account target).code input value
          outOffset outSize
        gas := gas }

/-- A frame that a creation opens. -/
inductive Created (o : Outward) : Frame → Prop
  | intro (place : Address) (number : Int) (code : Bytes) (value gas : Int) (salt : Option Int)
    (hdepth : o.context.depth < Exec.maxDepth) (hfunds : value ≤ o.view.balance o.context.address)
    (hfree : o.context.isStatic = false)
    (hplace : Exec.placeOf o.context.address (o.view.account o.context.address).nonce salt code =
      .ok place) (hnumber : place.toInt = .ok number) :
    Created o { context := Exec.createdContext o.context place number code value, gas := gas }

/-- What an operation does outwardly, and the frame that it opens. -/
inductive Deed (o : Outward) : Option Frame → Outward → Prop
  | works : Deed o none o
  | stores (key value : Int) (hfree : o.context.isStatic = false) :
    Deed o none { o with view := o.view.modify o.context.address (·.store key value) }
  | records (topics : List Int) (data : Bytes) (hfree : o.context.isStatic = false) :
    Deed o none { o with logs := o.logs ++ [⟨o.context.address, topics, data⟩] }
  | ends (heir : Address) (hfree : o.context.isStatic = false) :
    Deed o none
      { o with
        view := (o.view.modify heir fun b =>
            { b with balance := b.balance + o.view.balance o.context.address }).modify
          o.context.address fun b => { b with balance := 0 }
        selfDestructs := Frame.uniteAddresses o.selfDestructs [o.context.address] }
  | calls {kind : CallKind} {child : Frame} (h : Called o kind child) : Deed o (some child) o
  | creates {child : Frame} (h : Created o child) :
    Deed o (some child)
      { o with view := o.view.modify o.context.address fun b => { b with nonce := b.nonce + 1 } }

namespace Deed

variable {o o' : Outward} {child? : Option Frame} {child : Frame}

theorem context (h : Deed o child? o') : o'.context = o.context := by cases h <;> rfl

/-- A frame is opened one level deeper, and not too deep. -/
theorem depth (h : Deed o (some child) o') :
    child.context.depth = o.context.depth + 1 ∧ child.context.depth ≤ Exec.maxDepth := by
  rcases h with _ | _ | _ | _ | h | h
  · obtain ⟨target, input, value, outOffset, outSize, gas, hdepth⟩ := h
    exact ⟨rfl, hdepth⟩
  · obtain ⟨place, number, code, value, gas, salt, hdepth⟩ := h
    exact ⟨rfl, hdepth⟩

/-- A transaction has begun in one world, which all its frames know. -/
theorem originLayers (h : Deed o (some child) o') :
    child.context.originLayers = o.context.originLayers := by
  rcases h with _ | _ | _ | _ | h | h
  · obtain ⟨target, input, value, outOffset, outSize, gas⟩ := h
    rfl
  · obtain ⟨place, number, code, value, gas, salt⟩ := h
    rfl

end Deed

/-- A deed that changes no account but that of the frame and those of these heirs. -/
structure Does (heirs : Address → Prop) (o : Outward) (child? : Option Frame) (o' : Outward) :
    Prop where
  deed : Deed o child? o'
  spared : ∀ x, x ≠ o.context.address → ¬ heirs x → o'.view x = o.view x

namespace Exec

variable {α β : Type}

/-- A change that is not seen from outside. -/
abbrev Inner (x : Exec α) : Prop := Within (Activity.Same Activity.outward) x

instance : Inward (Activity.Same Activity.outward) where
  refl _ := rfl
  trans h h' := h'.trans h
  update _ _ _ _ _ _ _ := rfl
  leave _ _ _ _ := rfl

instance innerWarmAddress (a : Address) : Inner (warmAddress a) := ⟨fun _ => rfl⟩

instance innerWarmSlot (key : Int) : Inner (warmSlot key) := ⟨fun _ => rfl⟩

def Spares (o : Outward) (e : Stop) (a : Activity) : Prop :=
  ∀ reason, e = .halt reason → a.outward = o

theorem Inner.spares {x : Exec α} {a : Activity} {o : Outward} (hx : Inner x) (ha : a.outward = o) :
    x.Yields a (fun _ a' => a'.outward = o) (Spares o) :=
  (hx.kept a).imp (fun _ _ h => h.trans ha) fun _ _ h _ _ => h.trans ha

/-- A change that is not seen from outside, and then another one. -/
theorem Inner.bind {x : Exec α} {f : α → Exec β} {a : Activity} {o : Outward}
    {last : β → Activity → Prop} (hx : Inner x) (ha : a.outward = o)
    (hf : ∀ v b, b.outward = o → (f v).Yields b last (Spares o)) :
    (x >>= f).Yields a last (Spares o) := (hx.spares ha).bind hf

/-! The operations that are seen from outside. -/

variable {a : Activity} {o : Outward} {heirs : Address → Prop}

/-- Only a frame that may change the world passes. -/
theorem forbidStatic_spares (ha : a.outward = o) :
    forbidStatic.Yields a (fun _ a' => a = a' ∧ o.context.isStatic = false) (Spares o) := by
  have hcontext : a.frame.context = o.context := congrArg Outward.context ha
  unfold forbidStatic
  refine Yields.view ((Yields.haltIf fun _ _ _ => ha).mono ?_)
  rintro _ _ ⟨hfree, rfl⟩
  exact ⟨rfl, by rwa [Bool.not_eq_true, hcontext] at hfree⟩

theorem sstore_does (ha : a.outward = o) :
    sstore.Yields a (fun _ a' => Does heirs o none a'.outward) (Spares o) := by
  refine (forbidStatic_spares ha).bind ?_
  rintro _ _ ⟨rfl, hfree⟩
  refine Yields.view (Inner.bind (withinHaltIf ..) ha fun _ a ha => ?_)
  refine Inner.bind withinPop ha fun key a ha => ?_
  refine Inner.bind withinPop ha fun value a ha => ?_
  refine Yields.view (Yields.viewWorld (Yields.viewWorld ?_))
  have haddress : a.frame.context.address = o.context.address := congrArg (·.context.address) ha
  rw [haddress]
  refine Inner.bind (innerWarmSlot key) ha fun warm a ha => ?_
  refine Inner.bind (withinUseGas _) ha fun _ a ha => ?_
  subst ha
  have hworld := World.get?_modify a.world a.frame.context.address (·.store key value)
  show Does heirs a.outward none (a.frame.outward (World.modify ..).get?)
  rw [show a.outward.context.address = a.frame.context.address from rfl, hworld]
  exact ⟨.stores key value hfree, fun x hx _ => View.put_of_ne _ hx.symm _⟩

theorem log_does (topics : Nat) (ha : a.outward = o) :
    (log topics).Yields a (fun _ a' => Does heirs o none a'.outward) (Spares o) := by
  refine (forbidStatic_spares ha).bind ?_
  rintro _ _ ⟨rfl, hfree⟩
  refine Inner.bind withinPop ha fun offset a ha => ?_
  refine Inner.bind withinPop ha fun size a ha => ?_
  refine Inner.bind (withinPopMany topics) ha fun words a ha => ?_
  refine Inner.bind (withinUseGas _) ha fun _ a ha => ?_
  refine Inner.bind (withinReadMemory offset size) ha fun data a ha => ?_
  subst ha
  exact ⟨.records words data hfree, fun _ _ _ => rfl⟩

theorem pop_spares (ha : a.outward = o) :
    pop.Yields a (fun x a' => x ∈ a.frame.stack.items.head? ∧ a'.outward = o) (Spares o) := by
  refine (pop_spec a).imp ?_ fun _ b hb _ _ => hb ▸ ha
  rintro x _ ⟨stack, hitems, rfl⟩
  exact ⟨by rw [hitems]; rfl, ha⟩

theorem selfdestruct_does (ha : a.outward = o)
    (hheirs : ∀ x ∈ a.frame.stack.items.head?, heirs (Address.ofInt x)) :
    selfdestruct.Yields a (fun _ a' => Does heirs o none a'.outward) (Spares o) := by
  refine (forbidStatic_spares ha).bind ?_
  rintro _ _ ⟨rfl, hfree⟩
  refine (pop_spares ha).bind ?_
  rintro heir a ⟨hheir, ha⟩
  replace hheir := hheirs heir hheir
  refine Inner.bind (innerWarmAddress _) ha fun warm a ha => ?_
  refine Yields.view (Yields.viewWorld (Yields.viewWorld ?_))
  have hbalance : (a.world.account a.frame.context.address).balance =
      o.view.balance o.context.address := by subst ha; rfl
  have haddress : a.frame.context.address = o.context.address := congrArg (·.context.address) ha
  rw [hbalance, haddress]
  refine Inner.bind (withinUseGas _) ha fun _ a ha => ?_
  subst ha
  have hspares : ∀ x, ¬ heirs x → Address.ofInt heir ≠ x := by
    rintro _ hspared rfl
    exact hspared hheir
  have h : Does heirs a.outward none _ :=
    ⟨.ends (Address.ofInt heir) hfree, fun x hx hspared => (View.put_of_ne _ hx.symm _).trans
      (View.put_of_ne _ (hspares x hspared) _)⟩
  rw [show a.outward.view = a.world.get? from rfl, ← World.get?_modify, ← World.get?_modify] at h
  exact h

/-- What opening the called frame does. -/
theorem enter_called {kind : CallKind} {target : Address}
    {value inOffset inSize outOffset outSize gas : Int} (ha : a.outward = o)
    (hfree : takesValue kind = false → value = 0)
    (hstatic : kind = .call → value ≠ 0 → o.context.isStatic = false) :
    (enter kind target value inOffset inSize outOffset outSize gas).Yields a
      (fun child? a' => a'.outward = o ∧ ∀ child ∈ child?, Called o kind child) (Spares o) := by
  refine Inner.bind (withinUpdate ..) ha fun _ a ha => Yields.view (Yields.viewWorld ?_)
  split
  · refine Inner.bind (withinUpdate ..) ha fun _ a ha => ?_
    exact Inner.bind (withinPush 0) ha fun _ a ha => ⟨ha, by rintro child ⟨⟩⟩
  · rename_i hblocked
    refine Yields.view (Yields.viewWorld ⟨ha, ?_⟩)
    rintro _ ⟨⟩
    subst ha
    rw [not_or, not_le, not_lt] at hblocked
    exact .intro target _ value outOffset outSize gas hblocked.1 hblocked.2 hfree hstatic

/-- A call changes nothing itself; it may open a frame. -/
theorem call_called (kind : CallKind) (ha : a.outward = o) :
    (call kind).Yields a
      (fun child? a' => a'.outward = o ∧ ∀ child ∈ child?, Called o kind child) (Spares o) := by
  have htaken : ∀ {a : Activity}, a.outward = o → (takeValue kind).Yields a
      (fun value a' => (takesValue kind = false → value = 0) ∧ a'.outward = o) (Spares o) := by
    intro a ha
    unfold takeValue
    split_ifs with htakes
    · exact (Inner.spares withinPop ha).mono fun _ _ h => ⟨by simp [htakes], h⟩
    · exact ⟨fun _ => rfl, ha⟩
  refine Inner.bind withinPop ha fun requested a ha => ?_
  refine Inner.bind withinPop ha fun x a ha => ?_
  refine (htaken ha).bind ?_
  rintro value a ⟨hfree, ha⟩
  refine Inner.bind withinPop ha fun inOffset a ha => ?_
  refine Inner.bind withinPop ha fun inSize a ha => ?_
  refine Inner.bind withinPop ha fun outOffset a ha => ?_
  refine Inner.bind withinPop ha fun outSize a ha => Yields.view ?_
  refine (Yields.haltIf fun _ _ _ => ha).bind ?_
  rintro _ _ ⟨hallowed, rfl⟩
  have hstatic : kind = .call → value ≠ 0 → o.context.isStatic = false := by
    subst ha
    intro hkind hvalue
    exact Bool.eq_false_iff.2 fun h => hallowed ⟨hkind, hvalue, h⟩
  refine Inner.bind (withinExpandMemory inOffset inSize) ha fun _ a ha => ?_
  refine Inner.bind (withinExpandMemory outOffset outSize) ha fun _ a ha => ?_
  refine Inner.bind (withinAccessCost _) ha fun access a ha => Yields.viewWorld ?_
  refine Inner.bind (withinUseGas _) ha fun _ a ha => Yields.view ?_
  refine Inner.bind (withinUseGas _) ha fun _ a ha => ?_
  exact enter_called ha hfree hstatic

theorem create_does (salted : Bool) (ha : a.outward = o) :
    (create salted).Yields a (fun child? a' => Does heirs o child? a'.outward) (Spares o) := by
  refine (forbidStatic_spares ha).bind ?_
  rintro _ _ ⟨rfl, hfree⟩
  refine Inner.bind withinPop ha fun value a ha => ?_
  refine Inner.bind withinPop ha fun offset a ha => ?_
  refine Inner.bind withinPop ha fun size a ha => ?_
  refine Inner.bind (withinTakeSalt salted size) ha fun salt a ha => ?_
  refine Inner.bind (withinReadMemory offset size) ha fun code a ha => ?_
  refine Inner.bind (withinUpdate ..) ha fun _ a ha => Yields.view (Yields.viewWorld ?_)
  split_ifs with hblocked
  · exact Inner.bind (withinPush 0) ha fun _ a ha => ha ▸ ⟨.works, fun _ _ _ => rfl⟩
  · rw [not_or, not_le, not_lt] at hblocked
    have hcontext : a.frame.context = o.context := congrArg Outward.context ha
    have hcreator : a.world.account a.frame.context.address = o.view.account o.context.address := by
      subst ha
      rfl
    rw [hcreator, hcontext] at hblocked ⊢
    refine Yields.view ?_
    generalize handedOn a.frame.gas = handed
    refine Inner.bind (withinUseGas handed) ha fun _ a ha => Yields.updateWorld ?_
    cases hplace : placeOf o.context.address (o.view.account o.context.address).nonce salt code with
    | error fault => rintro reason ⟨⟩
    | ok place =>
      rw [attempt_ok, pure_bind]
      cases hnumber : place.toInt with
      | error fault => rintro reason ⟨⟩
      | ok number =>
        subst ha
        have hcreated : Created a.outward _ := .intro place number code value handed salt hblocked.1
          hblocked.2 hfree hplace hnumber
        have h : Does heirs a.outward _ _ :=
          ⟨.creates hcreated, fun x hx _ => View.put_of_ne _ hx.symm _⟩
        rw [show a.outward.view = a.world.get? from rfl, ← World.get?_modify] at h
        rw [attempt_ok, pure_bind]
        exact h

/-! Every operation. -/

theorem Inner.does {x : Exec (Option Frame)} (hx : Inner x) (hlone : Lone x) (ha : a.outward = o) :
    x.Yields a (fun child? a' => Does heirs o child? a'.outward) (Spares o) := by
  refine ((hx.spares ha).and (hlone.lone a)).imp ?_ fun _ _ h => h.1
  rintro child? a' ⟨h, rfl⟩
  rw [h]
  exact ⟨.works, fun _ _ _ => rfl⟩

/-- What an operation does outwardly. A contract that ends leaves to the uppermost word. -/
theorem execute_does (heirs : Address → Prop) (op : Opcode) (ha : a.outward = o)
    (hheirs : op = .selfdestruct → ∀ x ∈ a.frame.stack.items.head?, heirs (Address.ofInt x)) :
    (execute op).Yields a (fun child? a' => Does heirs o child? a'.outward) (Spares o) := by
  cases op with
  | call kind =>
    refine (call_called kind ha).mono ?_
    rintro child? a' ⟨rfl, hcalled⟩
    cases child? with
    | none => exact ⟨.works, fun _ _ _ => rfl⟩
    | some child => exact ⟨.calls (hcalled child rfl), fun _ _ _ => rfl⟩
  | create => exact create_does false ha
  | create2 => exact create_does true ha
  | sstore => exact (sstore_does ha).bind fun _ _ h => h
  | log topics => exact (log_does topics.val ha).bind fun _ _ h => h
  | selfdestruct => exact (selfdestruct_does ha (hheirs rfl)).bind fun _ _ h => h
  | accountQuery | extcodecopy | sload =>
    exact Inner.does (by unfold execute; infer_instance) (lone_execute not_false) ha
  | _ => exact Inner.does (within_execute trivial) (lone_execute not_false) ha

theorem execute_deed (op : Opcode) (ha : a.outward = o) :
    (execute op).Yields a (fun child? a' => Deed o child? a'.outward) (Spares o) :=
  (execute_does (fun _ => True) op ha fun _ _ _ => trivial).mono fun _ _ h => h.deed

/-- What one step of the code does outwardly; a step that is halted does nothing. -/
theorem step_deed (byte : UInt8) (a : Activity) :
    (step byte).Yields a (fun child? a' => Deed a.outward child? a'.outward)
      (Spares a.outward) := by
  unfold step
  cases Opcode.ofByte? byte with
  | none => exact fun _ _ => rfl
  | some op =>
    cases hinfo : op.info? with
    | none =>
      simp only [hinfo]
      exact fun _ _ => rfl
    | some info =>
      simp only [hinfo]
      exact Inner.bind (withinBegin info) rfl fun _ a ha => execute_deed op ha

/-- A call opens a frame of its kind or none, and changes nothing itself. -/
theorem step_called {kind : CallKind} {byte : UInt8} (hop : Opcode.ofByte? byte = some (.call kind))
    (a : Activity) :
    (step byte).Yields a
      (fun child? a' => a'.outward = a.outward ∧ ∀ child ∈ child?, Called a.outward kind child)
      (Spares a.outward) := by
  unfold step
  simp only [hop]
  cases (Opcode.call kind).info? with
  | none => exact fun _ _ => rfl
  | some info =>
    exact Inner.bind (withinBegin info) rfl fun _ a ha => call_called kind ha

theorem deed_of_step {child? : Option Frame} {a' : Activity} {byte : UInt8}
    (h : step byte a = .ok child? a') : Deed a.outward child? a'.outward :=
  (step_deed byte a).of_ok h

theorem outward_of_halt {reason : HaltReason} {a' : Activity} {byte : UInt8}
    (h : step byte a = .error (.halt reason) a') : a'.outward = a.outward :=
  (step_deed byte a).of_error h reason rfl

theorem called_of_step {kind : CallKind} {child : Frame} {a' : Activity} {byte : UInt8}
    (hop : Opcode.ofByte? byte = some (.call kind)) (h : step byte a = .ok (some child) a') :
    a'.outward = a.outward ∧ Called a.outward kind child := by
  obtain ⟨hsame, hcalled⟩ := (step_called hop a).of_ok h
  exact ⟨hsame, hcalled child rfl⟩

end Exec
end Gasometer
