import Gasometer.Proofs.Calls

/-!
# What a step does

A step either goes on in its frame, or leaves the code, or opens a frame, or is stopped. If it goes
on, it has cost something, and its results stand in the place of its operands. The only faults are
those that the scale excuses.
-/
namespace Gasometer

def Stepped (k : Scale) (a₀ : Activity) (rest : List Int) (outputs : Nat) (child? : Option Frame)
    (a : Activity) : Prop :=
  match child? with
  | none => Stage k.raised a₀ rest outputs 1 a ∨ Left k.raised a₀ a
  | some child => Opens k a₀ child a

theorem Opcode.gas_nonneg {op : Opcode} {info : OpcodeInfo} (h : op.info? = some info) :
    0 ≤ info.gas := by
  cases op with
  | binary op => cases op <;> cases h <;> decide
  | query q => cases q <;> cases h <;> decide
  | call kind => cases kind <;> cases h <;> decide
  | push _ | dup _ | swap _ => cases h; exact (show 0 ≤ Gas.veryLow by decide)
  | log _ => cases h; exact (show 0 ≤ Gas.log by decide)
  | invalid => cases h
  | _ => cases h; decide

theorem Left.raised {k : Scale} {a₀ a : Activity} (h : Left k a₀ a) : Left k.raised a₀ a :=
  { h with sound := h.sound.raised }

namespace Stage
open Exec

variable {k : Scale} {a₀ a : Activity} {rest : List Int} {h : Nat} {n : Int}

theorem goes_on (s : Stage k a₀ rest h n a) (hn : 1 ≤ n) : Stepped k a₀ rest h none a :=
  .inl (s.raised.of_le (by decide) hn)

theorem of_mayOpen {child? : Option Frame} (s : MayOpen k a₀ rest n child? a) (hn : 1 ≤ n) :
    Stepped k a₀ rest 1 child? a := by
  cases child? with
  | none => exact .inl (Stage.of_le s (by decide) hn)
  | some child => exact s

theorem begin_ (hs : a.Sound k) {info : OpcodeInfo} (hgas : 0 ≤ info.gas) :
    (Exec.begin_ info).Yields a
      (fun _ a' => Stage k a (a.frame.stack.items.drop info.inputs) info.inputs info.gas a' ∧
        a'.frame.pc = a.frame.pc + 1)
      (Broken k a) := by
  refine Yields.view ?_
  have s₀ : Stage k a (a.frame.stack.items.drop 0) 0 0 a := Stage.begin hs (Nat.zero_le _)
  refine (s₀.haltIf _ (by decide)).bind ?_
  rintro _ _ ⟨hinputs, rfl⟩
  have s := Stage.begin hs (not_lt.1 hinputs)
  refine (s.haltIf _ (by decide)).bind ?_
  rintro _ _ ⟨-, rfl⟩
  refine Yields.view ?_
  refine (s.haltIf _ (by decide)).bind ?_
  rintro _ _ ⟨hpaid, rfl⟩
  have hstake := a.frame.stake_pay info.gas
  have hleft := Int.sub_nonneg_of_le (not_lt.1 hpaid)
  exact ⟨{ s with
    sound := ⟨{ hs.frame.spend hleft (Int.sub_le_self _ hgas) with }, hs.world⟩
    paid := hgas
    gas := by dsimp only; omega
    stake := by
      show Frame.stake { a.frame with gas := a.frame.gas - info.gas } + info.gas ≤ a.frame.stake
      dsimp only
      omega }, rfl⟩

theorem execute {op : Opcode} {info : OpcodeInfo} (hinfo : op.info? = some info)
    (s : Stage k a₀ rest info.inputs info.gas a)
    (hpc : k.numbers.Holds ((a.frame.pc : Int) - 1))
    (hroom : k.numbers = .word → (k.nonce : Int) < Address.nonceLimit) :
    (Exec.execute op).Yields a (Stepped k a₀ rest info.outputs) (Broken k a₀) := by
  cases op with
  | stop =>
    cases hinfo
    exact (s.leave Bytes.held_empty (.inl rfl)).bind fun _ a hl => .inr hl.raised
  | unary op =>
    cases hinfo
    refine s.pop.bind ?_
    rintro x a ⟨hx, s⟩
    exact (s.push (Numbers.holds_unary op hx)).bind fun _ a s => s.goes_on (by decide)
  | binary op =>
    have hprice : 1 ≤ info.gas := by cases op <;> cases hinfo <;> decide
    cases hinfo
    refine s.pop.bind ?_
    rintro x a ⟨hx, s⟩
    refine s.pop.bind ?_
    rintro y a ⟨hy, s⟩
    obtain ⟨r, hr, hholds⟩ := Numbers.binary_ok op hx hy
    rw [hr, attempt_ok, pure_bind]
    exact (s.push hholds).bind fun _ a s => s.goes_on hprice
  | ternary op =>
    cases hinfo
    refine s.pop.bind ?_
    rintro x a ⟨-, s⟩
    refine s.pop.bind ?_
    rintro y a ⟨-, s⟩
    refine s.pop.bind ?_
    rintro z a ⟨hz, s⟩
    exact (s.push (Numbers.holds_ternary op x y hz)).bind fun _ a s => s.goes_on (by decide)
  | exp => cases hinfo; exact s.exp.bind fun _ a s => s.goes_on (by decide)
  | keccak256 => cases hinfo; exact s.keccak256.bind fun _ a s => s.goes_on (by decide)
  | query q =>
    have hprice : 1 ≤ info.gas := by cases q <;> cases hinfo <;> decide
    cases hinfo
    refine (s.query hpc q).bind ?_
    rintro x a ⟨hx, s⟩
    exact (s.push hx).bind fun _ a s => s.goes_on hprice
  | calldataload => cases hinfo; exact s.calldataload.bind fun _ a s => s.goes_on (by decide)
  | accountQuery q => cases hinfo; exact (s.accountQuery q).bind fun _ a s => s.goes_on (by decide)
  | copy source => cases hinfo; exact (s.copy source).bind fun _ a s => s.goes_on (by decide)
  | extcodecopy => cases hinfo; exact s.extcodecopy.bind fun _ a s => s.goes_on (by decide)
  | blockhash => cases hinfo; exact s.blockhash.bind fun _ a s => s.goes_on (by decide)
  | pop =>
    cases hinfo
    refine s.pop.bind ?_
    rintro _ a ⟨-, s⟩
    exact s.goes_on (by decide)
  | mload => cases hinfo; exact s.mload.bind fun _ a s => s.goes_on (by decide)
  | mstore => cases hinfo; exact s.mstore.bind fun _ a s => s.goes_on (by decide)
  | mstore8 => cases hinfo; exact s.mstore8.bind fun _ a s => s.goes_on (by decide)
  | sload => cases hinfo; exact s.sload.bind fun _ a s => s.goes_on (by decide)
  | sstore => cases hinfo; exact s.sstore.bind fun _ a s => s.goes_on (by decide)
  | jump => cases hinfo; exact s.jump.bind fun _ a s => s.goes_on (by decide)
  | jumpi => cases hinfo; exact s.jumpi.bind fun _ a s => s.goes_on (by decide)
  | jumpdest => cases hinfo; exact s.goes_on (by decide)
  | push i =>
    cases hinfo
    exact (s.pushData i.isLt).bind fun _ a s => s.goes_on (show 1 ≤ Gas.veryLow by decide)
  | dup i =>
    cases hinfo
    exact (s.dup (Nat.lt_succ_self _)).bind fun _ a s => s.goes_on (show 1 ≤ Gas.veryLow by decide)
  | swap i =>
    cases hinfo
    exact (s.swap (Nat.lt_succ_self _)).bind fun _ a s => s.goes_on (show 1 ≤ Gas.veryLow by decide)
  | log topics =>
    cases hinfo
    exact s.log.bind fun _ a s => s.goes_on (show 1 ≤ Gas.log by decide)
  | ret => cases hinfo; exact (s.leaveWithMemory (.inl rfl)).bind fun _ a hl => .inr hl.raised
  | revert => cases hinfo; exact (s.leaveWithMemory (.inr rfl)).bind fun _ a hl => .inr hl.raised
  | invalid => cases hinfo
  | selfdestruct => cases hinfo; exact s.selfdestruct.bind fun _ a hl => .inr hl.raised
  | create =>
    cases hinfo
    exact (s.create false (by decide) hroom).mono fun _ a s => of_mayOpen s (by decide)
  | create2 =>
    cases hinfo
    exact (s.create true (by decide) hroom).mono fun _ a s => of_mayOpen s (by decide)
  | call kind =>
    cases kind <;> cases hinfo <;>
      exact (Stage.call _ s).mono fun _ a s => of_mayOpen s (by decide)

/-- One step of the code, from a sound state in which the code is not at its end. -/
theorem step (hs : a.Sound k) (hpc : a.frame.pc ≤ a.frame.context.code.size)
    (hroom : k.numbers = .word → (k.nonce : Int) < Address.nonceLimit) (byte : UInt8) :
    (Exec.step byte).Yields a (fun child? a' => ∃ rest outputs, Stepped k a rest outputs child? a')
      (Broken k a) := by
  have s₀ : Stage k a (a.frame.stack.items.drop 0) 0 0 a := Stage.begin hs (Nat.zero_le _)
  have hplace : k.numbers.Holds (a.frame.pc : Int) :=
    hs.frame.context.code.of_le (Int.natCast_nonneg _) (by exact_mod_cast hpc)
  unfold Exec.step
  cases Opcode.ofByte? byte with
  | none => exact s₀.halt (show HaltReason.invalidOperation ≠ .internalError by decide)
  | some op =>
    cases hinfo : op.info? with
    | none =>
      simp only [hinfo]
      exact s₀.halt (by decide)
    | some info =>
      simp only [hinfo]
      refine (begin_ hs (Opcode.gas_nonneg hinfo)).bind ?_
      rintro _ a' ⟨s, hnext⟩
      have hback : ((a'.frame.pc : Int) - 1) = a.frame.pc := by omega
      rw [← hback] at hplace
      exact (execute hinfo s hplace hroom).mono fun _ _ h => ⟨_, _, h⟩

end Stage
end Gasometer
