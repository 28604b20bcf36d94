import Gasometer.Proofs.StackEffects
import Gasometer.Proofs.Steps

/-!
# Operations of a fixed price

Arithmetic, comparisons, queries and moves of stack items cost what their table says and nothing
more. In a sound state they are never stopped either, if their operands stand on the stack, their
results find room there, and their price can be paid.
-/
namespace Gasometer

/-- Operations that cost nothing besides their static price, go on with the next operation, and open
no frame. -/
def Opcode.IsFlat : Opcode → Prop
  | .unary _ | .binary _ | .ternary _ | .query _ | .calldataload | .blockhash | .pop | .jumpdest
  | .push _ | .dup _ | .swap _ => True
  | _ => False

/-- A sound state with this much gas and at least `n` items on the stack. -/
structure Activity.Steady (k : Scale) (gas : Int) (n : Nat) (a : Activity) : Prop where
  sound : a.Sound k
  gas : a.frame.gas = gas
  height : n ≤ a.frame.stack.items.length

namespace Activity.Steady
open Exec

variable {k : Scale} {gas : Int} {n : Nat} {a : Activity} {x : Int}

/-- A steady state after the stack was replaced. -/
theorem stack (h : a.Steady k gas n) {t : Stack} {m : Nat}
    (ht : ∀ x ∈ t.items, k.numbers.Holds x) (hm : m ≤ t.items.length) :
    Steady k gas m { a with frame := { a.frame with stack := t } } where
  sound := ⟨{ h.sound.frame with stack := ht }, h.sound.world⟩
  gas := h.gas
  height := hm

theorem pop (h : a.Steady k gas (n + 1)) :
    Exec.pop.Yields a (fun x a' => k.numbers.Holds x ∧ a'.Steady k gas n) fun _ _ => False := by
  obtain ⟨x, rest, hitems⟩ := List.exists_cons_of_length_pos (Nat.zero_lt_of_lt h.height)
  have hholds := h.sound.frame.stack
  have hheight := h.height
  rw [hitems, List.forall_mem_cons] at hholds
  rw [hitems, List.length_cons] at hheight
  have hpop : a.frame.stack.pop? = some (x, { items := rest }) := Stack.pop?_eq_some.2 hitems
  unfold Exec.pop
  refine Yields.get ?_
  rw [hpop]
  exact ⟨hholds.1, h.stack hholds.2 (Nat.le_of_succ_le_succ hheight)⟩

theorem push (h : a.Steady k gas n) (hx : k.numbers.Holds x) :
    (Exec.push x).Yields a (fun _ a' => a'.Steady k gas (n + 1)) fun _ _ => False :=
  h.stack (List.forall_mem_cons.2 ⟨hx, h.sound.frame.stack⟩) (Nat.succ_le_succ h.height)

theorem query (h : a.Steady k gas n) (hpc : k.numbers.Holds ((a.frame.pc : Int) - 1)) (q : Query) :
    (Exec.query q).Yields a (fun x a' => k.numbers.Holds x ∧ a'.Steady k gas n)
      fun _ _ => False := by
  obtain ⟨x, hx, hholds⟩ := h.sound.query hpc q
  unfold Yields
  rw [hx]
  exact ⟨hholds, h⟩

theorem calldataload (h : a.Steady k gas 1) :
    Exec.calldataload.Yields a (fun _ a' => a'.Steady k gas 1) fun _ _ => False := by
  refine h.pop.bind ?_
  rintro offset a ⟨ho, h⟩
  refine Yields.view ?_
  obtain ⟨bytes, hb, hsize⟩ :=
    Bytes.padded_ok a.frame.context.input ho.nonneg (show (0 : Int) ≤ 32 by decide) (by decide)
  rw [hb, attempt_ok, pure_bind]
  exact h.push (.of_lt (Int.natCast_nonneg _) (Bytes.toNat_lt_of_size_le (by rw [hsize]; decide)))

theorem blockhash (h : a.Steady k gas 1) :
    Exec.blockhash.Yields a (fun _ a' => a'.Steady k gas 1) fun _ _ => False := by
  refine h.pop.bind ?_
  rintro number a ⟨-, h⟩
  exact Yields.view (h.push (h.sound.frame.context.block.hashOf number))

theorem dup (h : a.Steady k gas n) {i : Nat} (hi : i < n) :
    (Exec.dup i).Yields a (fun _ a' => a'.frame.gas = gas) fun _ _ => False := by
  have hlt : i < a.frame.stack.items.length := hi.trans_le h.height
  have hget : a.frame.stack.get? i = some a.frame.stack.items[i] := List.getElem?_eq_getElem hlt
  unfold Exec.dup
  refine Yields.view ?_
  rw [hget]
  have hpushed := h.push (h.sound.frame.stack _ (List.getElem_mem hlt))
  exact hpushed.mono fun _ _ h => h.gas

theorem swap (h : a.Steady k gas n) {i : Nat} (hi : i < n) :
    (Exec.swap i).Yields a (fun _ a' => a'.frame.gas = gas) fun _ _ => False := by
  obtain ⟨t, -, -, -, -, ht, -⟩ := Stack.exchange?_of_lt (hi.trans_le h.height)
  unfold Exec.swap
  refine Yields.view ?_
  rw [ht]
  exact h.gas

/-- An operation of a fixed price costs nothing more and is not stopped. -/
theorem execute {op : Opcode} {info : OpcodeInfo} (hinfo : op.info? = some info)
    (hflat : op.IsFlat) (h : a.Steady k gas info.inputs)
    (hpc : k.numbers.Holds ((a.frame.pc : Int) - 1)) :
    (Exec.execute op).Yields a (fun child? a' => child? = none ∧ a'.frame.gas = gas)
      fun _ _ => False := by
  cases op with
  | unary op =>
    cases hinfo
    refine h.pop.bind ?_
    rintro x a ⟨hx, h⟩
    exact (h.push (Numbers.holds_unary op hx)).bind fun _ a h => ⟨rfl, h.gas⟩
  | binary op =>
    cases hinfo
    refine h.pop.bind ?_
    rintro x a ⟨hx, h⟩
    refine h.pop.bind ?_
    rintro y a ⟨hy, h⟩
    obtain ⟨r, hr, hholds⟩ := Numbers.binary_ok op hx hy
    rw [hr, attempt_ok, pure_bind]
    exact (h.push hholds).bind fun _ a h => ⟨rfl, h.gas⟩
  | ternary op =>
    cases hinfo
    refine h.pop.bind ?_
    rintro x a ⟨-, h⟩
    refine h.pop.bind ?_
    rintro y a ⟨-, h⟩
    refine h.pop.bind ?_
    rintro z a ⟨hz, h⟩
    exact (h.push (Numbers.holds_ternary op x y hz)).bind fun _ a h => ⟨rfl, h.gas⟩
  | query q =>
    cases hinfo
    refine (h.query hpc q).bind ?_
    rintro x a ⟨hx, h⟩
    exact (h.push hx).bind fun _ a h => ⟨rfl, h.gas⟩
  | calldataload => cases hinfo; exact h.calldataload.bind fun _ a h => ⟨rfl, h.gas⟩
  | blockhash => cases hinfo; exact h.blockhash.bind fun _ a h => ⟨rfl, h.gas⟩
  | pop =>
    cases hinfo
    refine h.pop.bind ?_
    rintro x a ⟨-, h⟩
    exact ⟨rfl, h.gas⟩
  | jumpdest => exact ⟨rfl, h.gas⟩
  | push i => exact ⟨rfl, h.gas⟩
  | dup i => cases hinfo; exact (h.dup (Nat.lt_succ_self _)).bind fun _ a h => ⟨rfl, h⟩
  | swap i => cases hinfo; exact (h.swap (Nat.lt_succ_self _)).bind fun _ a h => ⟨rfl, h⟩
  | _ => exact hflat.elim

end Activity.Steady

/-- The static price and the numbers of items of these operations are small. -/
theorem Opcode.IsFlat.bounds {op : Opcode} {info : OpcodeInfo} (h : op.IsFlat)
    (hinfo : op.info? = some info) :
    info.inputs ≤ 17 ∧ info.outputs ≤ info.inputs + 1 ∧ info.outputs ≤ 17 ∧ 1 ≤ info.gas ∧
      info.gas ≤ 20 := by
  have hgas : 1 ≤ Gas.veryLow ∧ Gas.veryLow ≤ 20 := by decide
  cases op with
  | binary op => cases op <;> cases hinfo <;> decide
  | query q => cases q <;> cases hinfo <;> decide
  | dup n | swap n | push n =>
    have := n.isLt
    cases hinfo
    exact ⟨by dsimp only; omega, by dsimp only; omega, by dsimp only; omega, hgas⟩
  | unary | ternary | calldataload | blockhash | pop | jumpdest => cases hinfo; decide
  | _ => exact h.elim

/-- Whether an operation with these properties can be begun with so many items on the stack and so
much gas. -/
structure OpcodeInfo.CanBegin (info : OpcodeInfo) (height : Nat) (gas : Int) : Prop where
  inputs : info.inputs ≤ height
  room : height + info.outputs ≤ Exec.maxItems + info.inputs
  gas : info.gas ≤ gas

namespace Exec

variable {op : Opcode} {info : OpcodeInfo} {a : Activity}

theorem begin_ok (h : info.CanBegin a.frame.stack.items.length a.frame.gas) :
    (begin_ info).Yields a (fun _ a' => a' = paid info a) fun _ _ => False := by
  obtain ⟨hinputs, hroom, hgas⟩ := h
  rw [← a.frame.stack.size_eq] at hinputs hroom
  unfold begin_
  refine Yields.view ((Yields.haltIf hinputs.not_gt).bind ?_)
  rintro _ _ ⟨-, rfl⟩
  refine (Yields.haltIf hroom.not_gt).bind ?_
  rintro _ _ ⟨-, rfl⟩
  refine Yields.view ((Yields.haltIf hgas.not_gt).bind ?_)
  rintro _ _ ⟨-, rfl⟩
  rfl

/-- A step that can be begun does what its operation does, if this is not stopped. -/
theorem step_ok {done : Option Frame → Activity → Prop} (hinfo : op.info? = some info)
    (hbegin : info.CanBegin a.frame.stack.items.length a.frame.gas)
    (h : (execute op).Yields (paid info a) done fun _ _ => False) :
    ∃ child? a', step op.byte a = .ok child? a' ∧ done child? a' := by
  have hstep : (step op.byte).Yields a done fun _ _ => False := by
    unfold step
    rw [Opcode.ofByte?_byte]
    simp only [hinfo]
    refine (begin_ok hbegin).bind ?_
    rintro _ _ rfl
    exact h
  unfold Yields at hstep
  cases hok : step op.byte a with
  | ok child? a' =>
    rw [hok] at hstep
    exact ⟨child?, a', rfl, hstep⟩
  | error e a' =>
    rw [hok] at hstep
    exact hstep.elim

end Exec

/-- Paying keeps a state sound. -/
theorem Activity.Sound.paid {k : Scale} {op : Opcode} {info : OpcodeInfo} {a : Activity}
    (h : a.Sound k) (hinfo : op.info? = some info) (hgas : info.gas ≤ a.frame.gas) :
    (Exec.paid info a).Sound k where
  frame := { h.frame.spend (Int.sub_nonneg_of_le hgas)
    (Int.sub_le_self _ (Opcode.gas_nonneg hinfo)) with }
  world := h.world

end Gasometer
