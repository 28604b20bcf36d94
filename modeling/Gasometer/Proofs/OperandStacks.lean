import Gasometer.Proofs.StackEffects

/-!
# What operations see of the stack

An operation sees the words that it takes off the stack and none beneath them: with other words
beneath, it does the same and leaves those. The class `Exec.Uses` finds of an operation from its
parts how many words it takes and leaves, with no more than so many left where it is stopped; the
class `Exec.Bids` does so for those that may open a frame, whose result is still to come. Unlike
`Exec.Trades`, this also tells that the operation never asks for a word that is not there.

On the way the frame stays where it is in its code, or goes to a jump destination.
-/
namespace Gasometer

-- Powers are those of the core library, also where Mathlib offers its own.
attribute [local instance (high)] instPowNat

namespace Activity

def withItems (a : Activity) (items : List Int) : Activity :=
  a.mapFrame fun f => { f with stack := { items := items } }

@[simp] theorem items_withItems (a : Activity) (items : List Int) :
    (a.withItems items).frame.stack.items = items := rfl

theorem withItems_of_items {a : Activity} {items : List Int} (h : a.frame.stack.items = items) :
    a.withItems items = a := by
  obtain ⟨⟨_, _, _, _, ⟨items', size, hsize⟩, _⟩, _, _⟩ := a
  subst h hsize
  rfl

theorem withItems_take_drop (a : Activity) (n : Nat) :
    a.withItems (a.frame.stack.items.take n ++ a.frame.stack.items.drop n) = a :=
  withItems_of_items (List.take_append_drop ..).symm

/-- The frame stands where it stood in its code, or at a jump destination. -/
structure Stays (a b : Activity) : Prop where
  context : b.frame.context = a.frame.context
  place : b.frame.pc = a.frame.pc ∨ a.frame.context.code.isJumpDest b.frame.pc = true

variable {a b c : Activity}

theorem Stays.refl (a : Activity) : a.Stays a := ⟨rfl, .inl rfl⟩

theorem Stays.trans (h : a.Stays b) (h' : b.Stays c) : a.Stays c where
  context := h'.context.trans h.context
  place := by
    rcases h'.place with hc | hc
    · rw [hc]
      exact h.place
    · exact .inr (h.context ▸ hc)

end Activity

namespace Exec

variable {α β : Type} {i j k n e e' : Nat}

/-- What a change does with the words `top`, whatever lies beneath them: it is done and leaves such
words as it should, or it is stopped and leaves at most `e`. -/
inductive Replaces (x : Exec α) (a : Activity) (top : List Int) (left : α → List Int → Prop)
    (e : Nat) : Prop
  | done (v : α) (b : Activity) (top' : List Int) (hleft : left v top') (hstays : a.Stays b)
    (hx : ∀ rest, x (a.withItems (top ++ rest)) = .ok v (b.withItems (top' ++ rest)))
  | stopped (cause : Stop) (b : Activity) (top' : List Int) (hleft : top'.length ≤ e)
    (hstays : a.Stays b)
    (hx : ∀ rest, x (a.withItems (top ++ rest)) = .error cause (b.withItems (top' ++ rest)))

/-- A change that takes `i` words off the stack and puts `o` there. -/
class Uses (x : Exec α) (i : Nat) (o e : outParam Nat) : Prop where
  uses : ∀ (a : Activity) (top : List Int), top.length = i →
    Replaces x a top (fun _ top' => top'.length = o) e

/-- A change that takes `i` words off the stack and puts `o` there, one of them only when the frame
that it opens has ended. -/
class Bids (x : Exec (Option Frame)) (i : Nat) (o e : outParam Nat) : Prop where
  bids : ∀ (a : Activity) (top : List Int), top.length = i →
    Replaces x a top (fun child? top' => top'.length + child?.toList.length = o) e

section
variable {x : Exec α} {f : α → Exec β} {a : Activity} {top : List Int}
  {left : α → List Int → Prop} {last : β → List Int → Prop}

theorem Replaces.bind (hx : Replaces x a top left e)
    (hf : ∀ v b top', left v top' → Replaces (f v) b top' last e') :
    Replaces (x >>= f) a top last (max e e') := by
  have hbind (s : Activity) : (x >>= f) s = EStateM.bind x f s := rfl
  cases hx with
  | stopped cause b top' hleft hstays hx =>
    refine .stopped cause b top' (hleft.trans (Nat.le_max_left ..)) hstays fun rest => ?_
    rw [hbind, EStateM.bind, hx]
  | done v b top' hleft hstays hx =>
    cases hf v b top' hleft with
    | stopped cause c top'' hleft' hstays' hx' =>
      refine .stopped cause c top'' (hleft'.trans (Nat.le_max_right ..)) (hstays.trans hstays')
        fun rest => ?_
      rw [hbind, EStateM.bind, hx]
      exact hx' rest
    | done w c top'' hleft' hstays' hx' =>
      refine .done w c top'' hleft' (hstays.trans hstays') fun rest => ?_
      rw [hbind, EStateM.bind, hx]
      exact hx' rest

theorem Replaces.mono (hx : Replaces x a top left e) (he : e ≤ e') :
    Replaces x a top left e' := by
  cases hx with
  | stopped cause b top' hleft hstays hx =>
    exact .stopped cause b top' (hleft.trans he) hstays hx
  | done v b top' hleft hstays hx => exact .done v b top' hleft hstays hx

end

theorem Uses.mono {x : Exec α} (hx : Uses x i j e) (he : e ≤ e') : Uses x i j e' :=
  ⟨fun a top h => (hx.uses a top h).mono he⟩

theorem Uses.bind {x : Exec α} {f : α → Exec β} (hx : Uses x i j e) (hf : ∀ v, Uses (f v) j k e') :
    Uses (x >>= f) i k (max e e') where
  uses a top h := (hx.uses a top h).bind fun v b top' h' => (hf v).uses b top' h'

theorem Bids.bind {x : Exec α} {f : α → Exec (Option Frame)} (hx : Uses x i j e)
    (hf : ∀ v, Bids (f v) j k e') : Bids (x >>= f) i k (max e e') where
  bids a top h := (hx.uses a top h).bind fun v b top' h' => (hf v).bids b top' h'

/-- With enough words on the stack, the frame stays where it is or goes to a jump destination. -/
theorem Bids.stays {x : Exec (Option Frame)} (hx : Bids x i j e) {a : Activity}
    (h : i ≤ a.frame.stack.items.length) :
    x.Yields a (fun _ b => a.Stays b) fun _ b => a.Stays b := by
  unfold Yields
  cases hx.bids a (a.frame.stack.items.take i) (List.length_take_of_le h) with
  | done v b top hleft hstays hx =>
    rw [← a.withItems_take_drop i, hx]
    exact ⟨hstays.context, hstays.place⟩
  | stopped cause b top hleft hstays hx =>
    rw [← a.withItems_take_drop i, hx]
    exact ⟨hstays.context, hstays.place⟩

/-! The primitives. -/

instance usesPure (v : α) : Uses (Pure.pure v : Exec α) i i 0 where
  uses a top h := .done v a top h (.refl a) fun _ => rfl

instance usesBind (x : Exec α) (f : α → Exec β) [hx : Uses x i j e] [hf : ∀ v, Uses (f v) j k e'] :
    Uses (x >>= f) i k (max e e') := hx.bind hf

instance usesIte (p : Prop) [Decidable p] (x y : Exec α) [hx : Uses x i j e]
    [hy : Uses y i j e'] : Uses (if p then x else y) i j (max e e') := by
  split_ifs
  · exact hx.mono (Nat.le_max_left ..)
  · exact hy.mono (Nat.le_max_right ..)

theorem Uses.throw (e : Stop) : Uses (throw e : Exec α) i j i where
  uses a top h := .stopped e a top h.le (.refl a) fun _ => rfl

instance usesHaltIf (p : Prop) [Decidable p] (reason : HaltReason) :
    Uses (haltIf p reason) i i i := by
  unfold haltIf
  split_ifs
  · exact .throw _
  · exact (usesPure ()).mono (Nat.zero_le i)

instance usesAttempt (r : Except Fault α) : Uses (attempt r) i i i := by
  cases r with
  | error fault => exact .throw _
  | ok v => exact (usesPure v).mono (Nat.zero_le i)

/-- Reading anything but the stack. -/
theorem Uses.view {g : Frame → α} (hg : ∀ f stack, g { f with stack := stack } = g f) :
    Uses (view g) i i 0 where
  uses a top h := .done (g a.frame) a top h (.refl a) fun _ =>
    congrArg (EStateM.Result.ok · _) (hg ..)

/-- A change of anything but the context, the place and the stack. -/
theorem Uses.update {g : Frame → Frame}
    (hg : ∀ f stack, g { f with stack := stack } = { g f with stack := stack })
    (hcontext : ∀ f, (g f).context = f.context) (hpc : ∀ f, (g f).pc = f.pc) :
    Uses (update g) i i 0 where
  uses a top h := by
    refine .done () (a.mapFrame g) top h ⟨hcontext _, .inl (hpc _)⟩ fun rest => ?_
    show EStateM.Result.ok () { a with frame := g { a.frame with stack := _ } } = _
    rw [hg]
    rfl

instance usesViewWorld (g : World → α) : Uses (viewWorld g) i i 0 where
  uses a top h := .done (g a.world) a top h (.refl a) fun _ => rfl

instance usesUpdateWorld (g : World → World) : Uses (updateWorld g) i i 0 where
  uses a top h := .done () { a with world := g a.world } top h ⟨rfl, .inl rfl⟩ fun _ => rfl

instance usesWarmAddress (address : Address) : Uses (warmAddress address) i i 0 where
  uses a top h := .done (a.access.warmAddress address).1
    { a with access := (a.access.warmAddress address).2 } top h ⟨rfl, .inl rfl⟩ fun _ => rfl

instance usesWarmSlot (key : Int) : Uses (warmSlot key) i i 0 where
  uses a top h := .done (a.access.warmSlot a.frame.context.address key).1
    { a with access := (a.access.warmSlot a.frame.context.address key).2 } top h ⟨rfl, .inl rfl⟩
    fun _ => rfl

theorem pop_withItems (a : Activity) (x : Int) (items : List Int) :
    pop (a.withItems (x :: items)) = .ok x (a.withItems items) := rfl

theorem Yields.pop {f : Int → Exec β} {a : Activity} {x : Int} {items : List Int}
    {last : β → Activity → Prop} {stopped : Stop → Activity → Prop}
    (h : (f x).Yields (a.withItems items) last stopped) :
    (pop >>= f).Yields (a.withItems (x :: items)) last stopped := h

theorem push_withItems (x : Int) (a : Activity) (items : List Int) :
    push x (a.withItems items) = .ok () (a.withItems (x :: items)) := rfl

instance usesPop : Uses pop (n + 1) n 0 where
  uses a top h := by
    obtain ⟨x, top, rfl⟩ := List.exists_cons_of_length_eq_add_one h
    exact .done x a top (Nat.succ.inj h) (.refl a) fun _ => pop_withItems ..

instance usesPush (x : Int) : Uses (push x) n (n + 1) 0 where
  uses a top h := .done () a (x :: top) (congrArg (· + 1) h) (.refl a) fun _ => push_withItems ..

/-! What is read off a frame. -/

instance usesContext : Uses (view Frame.context) i i 0 := .view fun _ _ => rfl

instance usesGas : Uses (view Frame.gas) i i 0 := .view fun _ _ => rfl

instance usesMemoryWords : Uses (view Frame.memoryWords) i i 0 := .view fun _ _ => rfl

instance usesMemorySize : Uses (view (·.memory.size)) i i 0 := .view fun _ _ => rfl

instance usesSlice (start stop : Int) : Uses (view (·.memory.slice start stop)) i i 0 :=
  .view fun _ _ => rfl

instance usesInputSlice (start stop size : Int) :
    Uses (view fun f => if size = 0 then #[] else f.memory.slice start stop) i i 0 :=
  .view fun _ _ => rfl

instance usesReturnData : Uses (view Frame.returnData) i i 0 := .view fun _ _ => rfl

instance usesIsStatic : Uses (view (·.context.isStatic)) i i 0 := .view fun _ _ => rfl

instance usesAddress : Uses (view (·.context.address)) i i 0 := .view fun _ _ => rfl

instance usesInput : Uses (view (·.context.input)) i i 0 := .view fun _ _ => rfl

instance usesBlock : Uses (view (·.context.block)) i i 0 := .view fun _ _ => rfl

instance usesCode : Uses (view (·.context.code.bytes)) i i 0 := .view fun _ _ => rfl

/-! What is changed of a frame. -/

instance usesSpend (amount : Int) :
    Uses (update fun f => { f with gas := f.gas - amount }) i i 0 :=
  .update (fun _ _ => rfl) (fun _ => rfl) fun _ => rfl

instance usesRefund (amount : Int) :
    Uses (update fun f => { f with gas := f.gas + amount }) i i 0 :=
  .update (fun _ _ => rfl) (fun _ => rfl) fun _ => rfl

instance usesExtend (zeros : Bytes) :
    Uses (update fun f => { f with memory := f.memory ++ zeros }) i i 0 :=
  .update (fun _ _ => rfl) (fun _ => rfl) fun _ => rfl

instance usesWriteMemory (start stop : Int) (bytes : Bytes) :
    Uses (writeMemory start stop bytes) i i 0 :=
  .update (fun _ _ => rfl) (fun _ => rfl) fun _ => rfl

instance usesForget : Uses (update fun f => { f with returnData := #[] }) i i 0 :=
  .update (fun _ _ => rfl) (fun _ => rfl) fun _ => rfl

instance usesRecord (topics : List Int) (data : Bytes) :
    Uses (update fun f => { f with logs := f.logs ++ [⟨f.context.address, topics, data⟩] }) i i 0 :=
  .update (fun _ _ => rfl) (fun _ => rfl) fun _ => rfl

instance usesDestroy (address : Address) :
    Uses (update fun f => { f with
      selfDestructs := Frame.uniteAddresses f.selfDestructs [address] }) i i 0 :=
  .update (fun _ _ => rfl) (fun _ => rfl) fun _ => rfl

instance usesLeave (status : FrameStatus) (output : Bytes) : Uses (leave status output) i i 0 :=
  .update (fun _ _ => rfl) (fun _ => rfl) fun _ => rfl

/-! Parts of operations: where they are stopped, all is there that was. -/

instance usesUseGas (amount : Int) : Uses (useGas amount) i i i := by
  unfold useGas; exact .mono inferInstance (by simp)

instance usesExpandMemory (offset size : Int) : Uses (expandMemory offset size) i i i := by
  unfold expandMemory; exact .mono inferInstance (by simp)

instance usesReadMemory (offset size : Int) : Uses (readMemory offset size) i i i := by
  unfold readMemory; exact .mono inferInstance (by simp)

instance usesCopyToMemory (dest : Int) (source : Bytes) (offset size : Int) :
    Uses (copyToMemory dest source offset size) i i i := by
  unfold copyToMemory; exact .mono inferInstance (by simp)

instance usesAccessCost (address : Address) : Uses (accessCost address) i i 0 := by
  unfold accessCost; exact .mono inferInstance (by simp)

instance usesForbidStatic : Uses forbidStatic i i i := by
  unfold forbidStatic; exact .mono inferInstance (by simp)

/-! Operations within a frame. -/

instance usesExp : Uses exp 2 1 2 := by unfold exp; exact .mono inferInstance (by simp)

instance usesKeccak256 : Uses keccak256 2 1 2 := by
  unfold keccak256; exact .mono inferInstance (by simp)

/-- A query changes nothing, and its answer does not depend on the stack. -/
theorem query_withItems (q : Query) (a : Activity) (items : List Int) :
    query q (a.withItems items) = match query q a with
      | .ok v _ => .ok v (a.withItems items)
      | .error e _ => .error e (a.withItems items) := by
  have hattempt (r : Except Fault Int) : attempt r (a.withItems items) = match attempt r a with
      | .ok v _ => .ok v (a.withItems items)
      | .error e _ => .error e (a.withItems items) := by
    cases r <;> rfl
  cases q with
  | address => exact hattempt a.frame.context.address.toInt
  | origin => exact hattempt a.frame.context.originator.toInt
  | caller => exact hattempt a.frame.context.sender.toInt
  | coinbase => exact hattempt a.frame.context.block.coinbase.toInt
  | _ => rfl

instance usesQuery (q : Query) : Uses (query q) i i i where
  uses a top h := by
    cases hq : query q a with
    | ok v b => exact .done v a top h (.refl a) fun rest => by rw [query_withItems, hq]
    | error e b => exact .stopped e a top h.le (.refl a) fun rest => by rw [query_withItems, hq]

instance usesAccountQuery (q : AccountQuery) : Uses (accountQuery q) 1 1 1 := by
  unfold accountQuery; exact .mono inferInstance (by simp)

instance usesCalldataload : Uses calldataload 1 1 1 := by
  unfold calldataload; exact .mono inferInstance (by simp)

instance usesCopy (source : CopySource) : Uses (copy source) 3 0 3 := by
  unfold copy
  cases source <;> exact .mono inferInstance (by simp)

instance usesExtcodecopy : Uses extcodecopy 4 0 4 := by
  unfold extcodecopy; exact .mono inferInstance (by simp)

instance usesBlockhash : Uses blockhash 1 1 1 := by
  unfold blockhash; exact .mono inferInstance (by simp)

instance usesMload : Uses mload 1 1 1 := by unfold mload; exact .mono inferInstance (by simp)

instance usesMstore : Uses mstore 2 0 2 := by unfold mstore; exact .mono inferInstance (by simp)

instance usesMstore8 : Uses mstore8 2 0 2 := by unfold mstore8; exact .mono inferInstance (by simp)

instance usesSload : Uses sload 1 1 1 := by unfold sload; exact .mono inferInstance (by simp)

instance usesSstore : Uses sstore 2 0 2 := by unfold sstore; exact .mono inferInstance (by simp)

/-- A jump is taken to a jump destination, or not at all. -/
instance usesJumpTo (place : Int) : Uses (jumpTo place) i i i where
  uses a top h := by
    by_cases hbad : place < 0 ∨ ! a.frame.context.code.isJumpDest place.toNat
    · refine .stopped (.halt .invalidJumpDestination) a top h.le (.refl a) fun rest => ?_
      show (haltIf (place < 0 ∨ ! a.frame.context.code.isJumpDest place.toNat) _ >>= _) _ = _
      rw [haltIf, if_pos hbad]
      rfl
    · have hvalid : a.frame.context.code.isJumpDest place.toNat = true := by
        simpa using (not_or.1 hbad).2
      refine .done () (a.mapFrame fun f => { f with pc := place.toNat }) top h ⟨rfl, .inr hvalid⟩
        fun rest => ?_
      show (haltIf (place < 0 ∨ ! a.frame.context.code.isJumpDest place.toNat) _ >>= _) _ = _
      rw [haltIf, if_neg hbad]
      rfl

instance usesJump : Uses jump 1 0 1 := by unfold jump; exact .mono inferInstance (by simp)

instance usesJumpi : Uses jumpi 2 0 2 := by unfold jumpi; exact .mono inferInstance (by simp)

/-- A copied word is one of those that the operation sees. -/
instance usesDup (depth : Nat) : Uses (dup depth) (depth + 1) (depth + 2) 0 where
  uses a top h := by
    have hlt : depth < top.length := by omega
    refine .done () a (top[depth] :: top) (congrArg (· + 1) h) (.refl a) fun rest => ?_
    have hget : (a.withItems (top ++ rest)).frame.stack.get? depth = some top[depth] := by
      show (top ++ rest)[depth]? = _
      rw [List.getElem?_append_left hlt, List.getElem?_eq_getElem hlt]
    show (match (a.withItems (top ++ rest)).frame.stack.get? depth with
      | none => throw (.fault .stackIndex)
      | some x => push x : Exec Unit) _ = _
    rw [hget]
    rfl

theorem exchange?_append {top rest : List Int} {depth : Nat} (h : depth < top.length)
    (hpos : 0 < top.length) :
    ({ items := top ++ rest } : Stack).exchange? depth =
      some { items := (top.set 0 top[depth]).set depth top[0] ++ rest } := by
  unfold Stack.exchange?
  simp only [List.getElem?_append_left h, List.getElem?_append_left hpos,
    List.getElem?_eq_getElem h, List.getElem?_eq_getElem hpos]
  simp [List.set_append_left, h, hpos]

/-- Both exchanged words are among those that the operation sees. -/
instance usesSwap (depth : Nat) : Uses (swap depth) (depth + 1) (depth + 1) 0 where
  uses a top h := by
    have hlt : depth < top.length := by omega
    have hpos : 0 < top.length := by omega
    have hlen : ((top.set 0 top[depth]).set depth top[0]).length = depth + 1 := by simp [h]
    refine .done () a _ hlen (.refl a) fun rest => ?_
    show (match ({ items := top ++ rest } : Stack).exchange? depth with
      | none => throw (.fault .stackIndex)
      | some stack => update fun f => { f with stack := stack } : Exec Unit) _ = _
    rw [exchange?_append hlt hpos]
    rfl

instance usesPopMany : ∀ count, Uses (popMany count) count 0 0
  | 0 => usesPure _
  | count + 1 => by
    have := usesPopMany count
    unfold popMany
    exact .mono inferInstance (by simp)

instance usesLog (topics : Nat) : Uses (log topics) (topics + 2) 0 (topics + 2) := by
  unfold log
  exact .mono inferInstance (by simp)

instance usesLeaveWithMemory (status : FrameStatus) : Uses (leaveWithMemory status) 2 0 2 := by
  unfold leaveWithMemory; exact .mono inferInstance (by simp)

-- The instances of the longer operations are put together from many parts.
set_option synthInstance.maxSize 2048

instance usesSelfdestruct : Uses selfdestruct 1 0 1 := by
  unfold selfdestruct; exact .mono inferInstance (by simp)

/-! Operations that may open a frame. -/

instance bidsNone : Bids (Pure.pure none) i i 0 where
  bids a top h := .done none a top h (.refl a) fun _ => rfl

instance bidsSome (child : Frame) : Bids (Pure.pure (some child)) i (i + 1) 0 where
  bids a top h := .done (some child) a top (congrArg (· + 1) h) (.refl a) fun _ => rfl

instance bidsBind (x : Exec α) (f : α → Exec (Option Frame)) [hx : Uses x i j e]
    [hf : ∀ v, Bids (f v) j k e'] : Bids (x >>= f) i k (max e e') := .bind hx hf

theorem Bids.mono {x : Exec (Option Frame)} (hx : Bids x i j e) (he : e ≤ e') : Bids x i j e' :=
  ⟨fun a top h => (hx.bids a top h).mono he⟩

instance bidsIte (p : Prop) [Decidable p] (x y : Exec (Option Frame)) [hx : Bids x i j e]
    [hy : Bids y i j e'] : Bids (if p then x else y) i j (max e e') := by
  split_ifs
  · exact hx.mono (Nat.le_max_left ..)
  · exact hy.mono (Nat.le_max_right ..)

instance bidsEnter (kind : CallKind) (target : Address)
    (value inOffset inSize outOffset outSize gas : Int) :
    Bids (enter kind target value inOffset inSize outOffset outSize gas) i (i + 1) 0 := by
  unfold enter; exact .mono inferInstance (by simp)

/-- The value of a call is an item more. -/
instance usesTakeValue (kind : CallKind) :
    Uses (takeValue kind) (if takesValue kind then n + 1 else n) n 0 := by
  unfold takeValue
  split_ifs <;> infer_instance

instance bidsCall (kind : CallKind) :
    Bids (call kind) ((if takesValue kind then 5 else 4) + 2) 1 6 := by
  unfold call
  dsimp only
  exact .mono inferInstance (by simp)

/-- The salt of a creation is an item more. -/
instance usesTakeSalt (salted : Bool) (size : Int) :
    Uses (takeSalt salted size) (if salted then n + 1 else n) n n := by
  unfold takeSalt
  split_ifs <;> exact .mono inferInstance (by simp)

instance bidsCreate (salted : Bool) :
    Bids (create salted) ((if salted then 1 else 0) + 3) 1 ((if salted then 1 else 0) + 3) := by
  unfold create
  dsimp only
  exact .mono inferInstance (by simp)

/-- What the table says of an operation is what the operation does. Pushes are left out here, since
they go past their data. -/
theorem bids_execute {op : Opcode} {info : OpcodeInfo} (hinfo : op.info? = some info)
    (hpush : ∀ n, op ≠ .push n) : Bids (execute op) info.inputs info.outputs info.inputs := by
  cases op with
  | invalid => cases hinfo
  | push n => exact absurd rfl (hpush n)
  | call kind =>
    cases kind <;> cases hinfo
    · exact .mono (bidsCall .call) (by simp)
    · exact .mono (bidsCall .callcode) (by simp)
    · exact .mono (bidsCall .delegatecall) (by simp)
    · exact .mono (bidsCall .staticcall) (by simp)
  | create => cases hinfo; exact bidsCreate false
  | create2 => cases hinfo; exact bidsCreate true
  | dup n => cases hinfo; exact .mono (.bind (usesDup n) inferInstance) (by simp)
  | swap n => cases hinfo; exact .mono (.bind (usesSwap (n + 1)) inferInstance) (by simp)
  | log topics => cases hinfo; exact .mono (.bind (usesLog topics) inferInstance) (by simp)
  | _ => cases hinfo; unfold execute; exact .mono inferInstance (by simp)

/-- The word that a push of `width` bytes finds in the code. -/
def dataWord (width : Nat) (f : Frame) : Int :=
  let data : Bytes := f.context.code.bytes.extract f.pc (f.pc + width)
  ((data.toNat * 256 ^ (width - data.size) : Nat) : Int)

/-- A push puts the data after it on the stack, whatever stands there, and goes past the data. -/
theorem execute_push (n : Fin 32) (a : Activity) (items : List Int) :
    execute (.push n) (a.withItems items) = .ok none
      ((a.mapFrame fun f => { f with pc := f.pc + (n.val + 1) }).withItems
        (dataWord (n.val + 1) a.frame :: items)) := rfl

/-- What an operation does is settled by the words `top`, whatever lies beneath them. If it is done,
it leaves as many as the table says, but for one if it opened a frame; if it is stopped, it leaves
no more than it takes. -/
def SettledBy (op : Opcode) (info : OpcodeInfo) (a : Activity) (top : List Int) : Prop :=
  (∃ (child? : Option Frame) (b : Activity) (top' : List Int),
    top'.length + child?.toList.length = info.outputs ∧ ∀ rest,
      execute op (a.withItems (top ++ rest)) = .ok child? (b.withItems (top' ++ rest))) ∨
  ∃ (cause : Stop) (b : Activity) (top' : List Int), top'.length ≤ info.inputs ∧ ∀ rest,
    execute op (a.withItems (top ++ rest)) = .error cause (b.withItems (top' ++ rest))

/-- As many words as the table says settle what an operation does. -/
theorem settledBy_of_length {op : Opcode} {info : OpcodeInfo} (hinfo : op.info? = some info)
    (a : Activity) {top : List Int} (htop : top.length = info.inputs) :
    SettledBy op info a top := by
  by_cases hpush : ∃ n, op = .push n
  · obtain ⟨n, rfl⟩ := hpush
    cases hinfo
    obtain rfl := List.length_eq_zero_iff.1 htop
    exact .inl ⟨none, _, [dataWord (n.val + 1) a.frame], rfl, execute_push n a⟩
  · cases (bids_execute hinfo (not_exists.1 hpush)).bids a top htop with
    | done child? b top' hleft _ hx => exact .inl ⟨child?, b, top', hleft, hx⟩
    | stopped cause b top' hleft _ hx => exact .inr ⟨cause, b, top', hleft, hx⟩

end Exec
end Gasometer
