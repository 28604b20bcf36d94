import Gasometer.Proofs.Locality

/-!
# What operations do to the stack

An operation takes its operands off the stack and puts its results there. What lies beneath stays,
and so does the place in the code, except for pushes, which skip their data, and jumps. This needs
no numbers to be sound: the class `Exec.Trades` finds it for every operation from its parts, and
`Exec.Offers` for those that may open a frame, whose result is put on the stack when that frame
ends.
-/
namespace Gasometer

/-- The frame is where it was, with `n` items on the stack above those that are left alone. -/
structure Activity.Stacks (a₀ : Activity) (rest : List Int) (n : Nat) (a : Activity) : Prop where
  pc : a.frame.pc = a₀.frame.pc
  status : a.frame.status = a₀.frame.status
  items : ∃ top, top.length = n ∧ a.frame.stack.items = top ++ rest

variable {a₀ a : Activity} {rest : List Int} {n : Nat}

theorem Activity.Stacks.refl (a : Activity) {top : List Int}
    (h : a.frame.stack.items = top ++ rest) :
    a.Stacks rest top.length a := ⟨rfl, rfl, top, rfl, h⟩

/-- A stage of an operation that may have opened a frame: then the last item is still to come. -/
def Activity.Offers (a₀ : Activity) (rest : List Int) (n : Nat) (child? : Option Frame)
    (a : Activity) : Prop :=
  match child? with
  | none => a₀.Stacks rest n a
  | some _ => ∃ k, n = k + 1 ∧ a₀.Stacks rest k a

namespace Exec

variable {α β : Type} {i j k : Nat}

/-- A change that replaces the `i` uppermost items of the stack by `o` others. -/
class Trades (x : Exec α) (i : Nat) (o : outParam Nat) : Prop where
  trades : ∀ (a₀ : Activity) (rest : List Int) (a : Activity), a₀.Stacks rest i a →
    x.Yields a (fun _ a' => a₀.Stacks rest o a') fun _ _ => True

class Offers (x : Exec (Option Frame)) (i : Nat) (o : outParam Nat) : Prop where
  offers : ∀ (a₀ : Activity) (rest : List Int) (a : Activity), a₀.Stacks rest i a →
    x.Yields a (fun child? a' => a₀.Offers rest o child? a') fun _ _ => True

theorem Offers.of_ok {x : Exec (Option Frame)} {o : Nat} (hx : Offers x i o) {a' : Activity}
    {child? : Option Frame} (h : x a = .ok child? a') (ha : a₀.Stacks rest i a) :
    a₀.Offers rest o child? a' := (hx.offers a₀ rest a ha).of_ok h

theorem Trades.bind {x : Exec α} {f : α → Exec β} (hx : Trades x i j) (hf : ∀ v, Trades (f v) j k) :
    Trades (x >>= f) i k where
  trades a₀ rest a ha := (hx.trades a₀ rest a ha).bind fun v b hb => (hf v).trades a₀ rest b hb

theorem Offers.bind {x : Exec α} {f : α → Exec (Option Frame)} (hx : Trades x i j)
    (hf : ∀ v, Offers (f v) j k) : Offers (x >>= f) i k where
  offers a₀ rest a ha := (hx.trades a₀ rest a ha).bind fun v b hb => (hf v).offers a₀ rest b hb

instance tradesPure (v : α) : Trades (Pure.pure v : Exec α) i i := ⟨fun _ _ _ h => h⟩

instance tradesBind (x : Exec α) (f : α → Exec β) [hx : Trades x i j] [hf : ∀ v, Trades (f v) j k] :
    Trades (x >>= f) i k := hx.bind hf

instance tradesIte (p : Prop) [Decidable p] (x y : Exec α) [hx : Trades x i j]
    [hy : Trades y i j] : Trades (if p then x else y) i j := by
  split_ifs
  · exact hx
  · exact hy

instance tradesGet : Trades (get : Exec Activity) i i := ⟨fun _ _ _ h => h⟩

instance tradesView (f : Frame → α) : Trades (view f) i i := ⟨fun _ _ _ h => h⟩

instance tradesViewWorld (f : World → α) : Trades (viewWorld f) i i := ⟨fun _ _ _ h => h⟩

instance tradesAttempt (r : Except Fault α) : Trades (attempt r) i i where
  trades a₀ rest a h := by
    cases r with
    | ok v => exact h
    | error fault => trivial

/-- A change of anything in the frame but its place, its status and its stack. -/
instance tradesUpdate (context : Frame → Context) (gas : Frame → Int)
    (memory returnData output : Frame → Bytes) (logs : Frame → List Log)
    (selfDestructs : Frame → List Address) :
    Trades (update fun f => ⟨context f, gas f, f.status, f.pc, f.stack, memory f, returnData f,
      output f, logs f, selfDestructs f⟩) i i := ⟨fun _ _ _ h => ⟨h.pc, h.status, h.items⟩⟩

instance tradesUpdateWorld (f : World → World) : Trades (updateWorld f) i i :=
  ⟨fun _ _ _ h => ⟨h.pc, h.status, h.items⟩⟩

instance tradesHaltIf (p : Prop) [Decidable p] (reason : HaltReason) :
    Trades (haltIf p reason) i i where
  trades _ _ _ h := (Yields.haltIf fun _ => trivial).mono fun _ _ he => he.2 ▸ h

theorem stacks_stack (h : a₀.Stacks rest n a) {t : Stack} {top : List Int}
    (ht : t.items = top ++ rest) :
    a₀.Stacks rest top.length { a with frame := { a.frame with stack := t } } :=
  ⟨h.pc, h.status, top, rfl, ht⟩

instance tradesPop : Trades pop (n + 1) n where
  trades a₀ rest a h := by
    obtain ⟨top, hlen, hitems⟩ := h.items
    obtain ⟨x, top, rfl⟩ := List.exists_cons_of_length_eq_add_one hlen
    have hpop : a.frame.stack.pop? = some (x, { items := top ++ rest }) :=
      Stack.pop?_eq_some.2 hitems
    obtain rfl := Nat.succ.inj hlen
    unfold pop
    refine Yields.get ?_
    rw [hpop]
    exact stacks_stack h rfl

instance tradesPush (x : Int) : Trades (push x) n (n + 1) where
  trades a₀ rest a h := by
    obtain ⟨top, rfl, hitems⟩ := h.items
    have hpushed : (a.frame.stack.push x).items = x :: top ++ rest := by
      rw [Stack.items_push, hitems, List.cons_append]
    exact stacks_stack h hpushed

instance tradesUseGas (amount : Int) : Trades (useGas amount) i i := by
  unfold useGas; infer_instance

instance tradesExpandMemory (offset size : Int) : Trades (expandMemory offset size) i i := by
  unfold expandMemory; infer_instance

instance tradesReadMemory (offset size : Int) : Trades (readMemory offset size) i i := by
  unfold readMemory; infer_instance

instance tradesWriteMemory (start stop : Int) (bytes : Bytes) :
    Trades (writeMemory start stop bytes) i i := by unfold writeMemory; infer_instance

instance tradesCopyToMemory (dest : Int) (source : Bytes) (offset size : Int) :
    Trades (copyToMemory dest source offset size) i i := by unfold copyToMemory; infer_instance

instance tradesWarmAddress (address : Address) : Trades (warmAddress address) i i :=
  ⟨fun _ _ _ h => ⟨h.pc, h.status, h.items⟩⟩

instance tradesWarmSlot (key : Int) : Trades (warmSlot key) i i :=
  ⟨fun _ _ _ h => ⟨h.pc, h.status, h.items⟩⟩

instance tradesAccessCost (address : Address) : Trades (accessCost address) i i := by
  unfold accessCost; infer_instance

instance tradesForbidStatic : Trades forbidStatic i i := by unfold forbidStatic; infer_instance

/-! Operations within a frame. -/

instance tradesExp : Trades exp (n + 2) (n + 1) := by unfold exp; infer_instance

instance tradesKeccak256 : Trades keccak256 (n + 2) (n + 1) := by unfold keccak256; infer_instance

instance tradesQuery (q : Query) : Trades (query q) i i := by
  unfold query
  cases q <;> infer_instance

instance tradesAccountQuery (q : AccountQuery) : Trades (accountQuery q) (n + 1) (n + 1) := by
  unfold accountQuery; infer_instance

instance tradesCalldataload : Trades calldataload (n + 1) (n + 1) := by
  unfold calldataload; infer_instance

instance tradesCopy (source : CopySource) : Trades (copy source) (n + 3) n := by
  unfold copy
  cases source <;> infer_instance

instance tradesExtcodecopy : Trades extcodecopy (n + 4) n := by unfold extcodecopy; infer_instance

instance tradesBlockhash : Trades blockhash (n + 1) (n + 1) := by unfold blockhash; infer_instance

instance tradesMload : Trades mload (n + 1) (n + 1) := by unfold mload; infer_instance

instance tradesMstore : Trades mstore (n + 2) n := by unfold mstore; infer_instance

instance tradesMstore8 : Trades mstore8 (n + 2) n := by unfold mstore8; infer_instance

instance tradesSload : Trades sload (n + 1) (n + 1) := by unfold sload; infer_instance

instance tradesSstore : Trades sstore (n + 2) n := by unfold sstore; infer_instance

/-- A copied word is one of those that the operation may see. -/
instance tradesDup (depth : Nat) : Trades (dup depth) (depth + 1) (depth + 2) where
  trades a₀ rest a h := by
    unfold dup
    refine Yields.view ?_
    cases a.frame.stack.get? depth with
    | none => trivial
    | some x => exact (tradesPush x).trades a₀ rest a h

/-- Both exchanged words are among those that the operation may see. -/
instance tradesSwap (depth : Nat) : Trades (swap depth) (depth + 1) (depth + 1) where
  trades a₀ rest a h := by
    obtain ⟨top, hlen, hitems⟩ := h.items
    have hlt : depth < a.frame.stack.items.length := by
      rw [hitems, List.length_append]
      omega
    obtain ⟨t, x, -, y, -, ht, hswapped⟩ := Stack.exchange?_of_lt hlt
    have hset : t.items = (top.set 0 y).set depth x ++ rest := by
      rw [hswapped, hitems, List.set_append_left _ _ (by omega),
        List.set_append_left _ _ (by simp; omega)]
    have := stacks_stack h hset
    unfold swap
    refine Yields.view ?_
    rw [ht]
    rwa [List.length_set, List.length_set, hlen] at this

instance tradesPopMany : ∀ count, Trades (popMany count) (n + count) n
  | 0 => tradesPure _
  | count + 1 => by
    have := tradesPopMany count
    unfold popMany
    infer_instance

instance tradesLog (topics : Nat) : Trades (log topics) (topics + 2) 0 := by
  have : Trades (popMany topics) topics 0 := by simpa using tradesPopMany (n := 0) topics
  unfold log
  infer_instance

/-! Operations that may open a frame. -/

instance offersNone : Offers (Pure.pure none) i i := ⟨fun _ _ _ h => h⟩

instance offersSome (child : Frame) : Offers (Pure.pure (some child)) i (i + 1) :=
  ⟨fun _ _ _ h => ⟨i, rfl, h⟩⟩

instance offersBind (x : Exec α) (f : α → Exec (Option Frame)) [hx : Trades x i j]
    [hf : ∀ v, Offers (f v) j k] : Offers (x >>= f) i k := .bind hx hf

instance offersIte (p : Prop) [Decidable p] (x y : Exec (Option Frame)) [hx : Offers x i j]
    [hy : Offers y i j] : Offers (if p then x else y) i j := by
  split_ifs
  · exact hx
  · exact hy

instance offersEnter (kind : CallKind) (target : Address)
    (value inOffset inSize outOffset outSize gas : Int) :
    Offers (enter kind target value inOffset inSize outOffset outSize gas) i (i + 1) := by
  unfold enter; infer_instance

-- The instances of calls and creations are put together from many parts.
set_option synthInstance.maxSize 2048

/-- The value of a call is an item more. -/
instance tradesTakeValue (kind : CallKind) :
    Trades (takeValue kind) (if takesValue kind then n + 1 else n) n := by
  unfold takeValue
  split_ifs <;> infer_instance

instance offersCall (kind : CallKind) :
    Offers (call kind) ((if takesValue kind then 5 else 4) + 2) 1 := by
  unfold call
  dsimp only
  infer_instance

/-- The salt of a creation is an item more. -/
instance tradesTakeSalt (salted : Bool) (size : Int) :
    Trades (takeSalt salted size) (if salted then n + 1 else n) n := by
  unfold takeSalt
  split_ifs <;> infer_instance

instance offersCreate (salted : Bool) :
    Offers (create salted) ((if salted then 1 else 0) + 3) 1 := by
  unfold create
  dsimp only
  infer_instance

end Exec

def Opcode.IsPlain : Opcode → Prop
  | .jump | .jumpi | .push _ => False
  | op => op.isTerminating = false

namespace Exec

/-- A plain operation replaces its operands by its results. -/
theorem offersExecute {op : Opcode} {info : OpcodeInfo} (hinfo : op.info? = some info)
    (hplain : op.IsPlain) : Offers (execute op) info.inputs info.outputs := by
  cases op with
  | jump | jumpi | push => exact hplain.elim
  | stop | ret | revert | invalid | selfdestruct => cases hplain
  | call kind =>
    cases kind <;> cases hinfo
    · exact offersCall .call
    · exact offersCall .callcode
    · exact offersCall .delegatecall
    · exact offersCall .staticcall
  | create => cases hinfo; exact offersCreate false
  | create2 => cases hinfo; exact offersCreate true
  | dup n => cases hinfo; exact .bind (tradesDup n) inferInstance
  | swap n => cases hinfo; exact .bind (tradesSwap (n + 1)) inferInstance
  | _ => cases hinfo; unfold execute; infer_instance

def paid (info : OpcodeInfo) (a : Activity) : Activity :=
  a.mapFrame fun f => { f with gas := f.gas - info.gas, pc := f.pc + 1 }

theorem begin_yields (info : OpcodeInfo) (a : Activity) :
    (begin_ info).Yields a
      (fun _ a' => a' = paid info a ∧ info.inputs ≤ a.frame.stack.size) fun _ _ => True := by
  unfold begin_
  refine Yields.view ((Yields.haltIf fun _ => trivial).bind ?_)
  rintro _ _ ⟨hinputs, rfl⟩
  refine (Yields.haltIf fun _ => trivial).bind ?_
  rintro _ _ ⟨-, rfl⟩
  refine Yields.view ((Yields.haltIf fun _ => trivial).bind ?_)
  rintro _ _ ⟨-, rfl⟩
  exact ⟨rfl, not_lt.1 hinputs⟩

/-- A step that is done is one of an operation. -/
theorem exists_op_of_step {byte : UInt8} {child? : Option Frame} {a' : Activity}
    (h : step byte a = .ok child? a') : ∃ op : Opcode, op.byte = byte := by
  cases hop : Opcode.ofByte? byte with
  | none =>
    rw [step, hop] at h
    cases h
  | some op => exact ⟨op, Opcode.byte_of_ofByte? hop⟩

/-- A step that is done has paid for its operation and executed it. -/
theorem step_eq_ok {op : Opcode} {child? : Option Frame} {a' : Activity}
    (h : step op.byte a = .ok child? a') :
    ∃ info, op.info? = some info ∧ info.inputs ≤ a.frame.stack.size ∧
      execute op (paid info a) = .ok child? a' := by
  have hstep : (step op.byte).Yields a (fun child? a' => ∃ info, op.info? = some info ∧
      info.inputs ≤ a.frame.stack.size ∧ execute op (paid info a) = .ok child? a')
      fun _ _ => True := by
    unfold step
    rw [Opcode.ofByte?_byte]
    dsimp only
    cases hinfo : op.info? with
    | none => trivial
    | some info =>
      refine (begin_yields info a).bind ?_
      rintro _ _ ⟨rfl, hinputs⟩
      unfold Yields
      cases hexecute : execute op (paid info a) with
      | ok child? a' => exact ⟨info, rfl, hinputs, hexecute⟩
      | error e a' => trivial
  rwa [Yields, h] at hstep

end Exec
end Gasometer
