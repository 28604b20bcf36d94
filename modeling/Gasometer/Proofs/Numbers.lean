import Gasometer.Machine.Step
import Mathlib.Tactic.Linarith
import Mathlib.Tactic.SplitIfs

/-!
# The numbers of a run

Two kinds of runs are told apart by the numbers that stand in them. In a natural run no number is
negative. In a run of words every number lies below `2 ^ 256` as well. Both kinds are closed under
the arithmetic of the machine, which meets no fault there.
-/
namespace Gasometer

/-- Which numbers may stand on a stack. -/
inductive Numbers
  | natural
  | word
  deriving DecidableEq, Repr

namespace Numbers

def Holds : Numbers → Int → Prop
  | natural, x => 0 ≤ x
  | word, x => 0 ≤ x ∧ x < Word.ceiling

variable {n : Numbers} {a b c x y : Int}

theorem Holds.nonneg (h : n.Holds x) : 0 ≤ x := by
  cases n with
  | natural => exact h
  | word => exact h.1

theorem Holds.of_lt (h₀ : 0 ≤ x) (h₁ : x < Word.ceiling) : n.Holds x := by
  cases n with
  | natural => exact h₀
  | word => exact ⟨h₀, h₁⟩

/-- What lies below a number of the run is one, too. -/
theorem Holds.of_le (hy : n.Holds y) (h₀ : 0 ≤ x) (h₁ : x ≤ y) : n.Holds x := by
  cases n with
  | natural => exact h₀
  | word => exact ⟨h₀, h₁.trans_lt hy.2⟩

theorem holds_zero : n.Holds 0 := .of_lt le_rfl (by decide)

theorem holds_one : n.Holds 1 := .of_lt (by decide) (by decide)

theorem holds_wrap (x : Int) : n.Holds (Word.wrap x) :=
  .of_lt (Word.wrap_nonneg x) (Word.wrap_lt x)

theorem holds_ite_wrap (p : Prop) [Decidable p] (x : Int) :
    n.Holds (if p then 0 else Word.wrap x) := by
  split_ifs
  · exact holds_zero
  · exact holds_wrap x

theorem holds_ofBool (b : Bool) : n.Holds (Word.ofBool b) := by
  cases b with
  | false => exact holds_zero
  | true => exact holds_one

/-- Operations on bits that keep to the bits of their arguments. -/
theorem holds_bits {f : Nat → Nat → Nat}
    (hf : ∀ i j : Nat, i < 2 ^ 256 → j < 2 ^ 256 → f i j < 2 ^ 256)
    {i j : Nat} (hi : n.Holds i) (hj : n.Holds j) : n.Holds (f i j : Nat) := by
  cases n with
  | natural => exact Int.natCast_nonneg _
  | word =>
    have hi' : (i : Int) < 2 ^ 256 := hi.2
    have hj' : (j : Int) < 2 ^ 256 := hj.2
    have hij := hf i j (by exact_mod_cast hi') (by exact_mod_cast hj')
    refine ⟨Int.natCast_nonneg _, ?_⟩
    unfold Word.ceiling
    exact_mod_cast hij

theorem holds_and (ha : n.Holds a) (hb : n.Holds b) : n.Holds (Word.and a b) := by
  obtain ⟨i, rfl⟩ := Int.eq_ofNat_of_zero_le ha.nonneg
  obtain ⟨j, rfl⟩ := Int.eq_ofNat_of_zero_le hb.nonneg
  exact holds_bits (fun _ _ _ h => Nat.and_lt_two_pow _ h) ha hb

theorem holds_or (ha : n.Holds a) (hb : n.Holds b) : n.Holds (Word.or a b) := by
  obtain ⟨i, rfl⟩ := Int.eq_ofNat_of_zero_le ha.nonneg
  obtain ⟨j, rfl⟩ := Int.eq_ofNat_of_zero_le hb.nonneg
  exact holds_bits (fun _ _ => Nat.or_lt_two_pow) ha hb

theorem holds_xor (ha : n.Holds a) (hb : n.Holds b) : n.Holds (Word.xor a b) := by
  obtain ⟨i, rfl⟩ := Int.eq_ofNat_of_zero_le ha.nonneg
  obtain ⟨j, rfl⟩ := Int.eq_ofNat_of_zero_le hb.nonneg
  exact holds_bits (fun _ _ => Nat.xor_lt_two_pow) ha hb

theorem holds_not (ha : n.Holds a) : n.Holds (Word.not a) :=
  holds_xor (.of_lt (by decide) (by decide)) ha

theorem holds_div (ha : n.Holds a) (hb : 0 ≤ b) : n.Holds (Word.div a b) := by
  unfold Word.div
  split_ifs with h
  · exact holds_zero
  · rw [Int.fdiv_eq_ediv_of_nonneg _ hb]
    exact ha.of_le (Int.ediv_nonneg ha.nonneg hb) (Int.ediv_le_self b ha.nonneg)

/-- The remainder lies below the divisor, whatever is divided. -/
theorem holds_mod (a : Int) (hb : n.Holds b) : n.Holds (Word.mod a b) := by
  unfold Word.mod
  split_ifs with h
  · exact holds_zero
  · rw [Int.fmod_eq_emod_of_nonneg _ hb.nonneg]
    have hpos : 0 < b := lt_of_le_of_ne hb.nonneg (Ne.symm h)
    exact hb.of_le (Int.emod_nonneg _ h) (Int.emod_lt_of_pos _ hpos).le

theorem holds_byte (i x : Int) : n.Holds (Word.byte i x) := by
  unfold Word.byte
  split_ifs with h
  · exact holds_zero
  · refine .of_lt (Int.emod_nonneg _ (by decide)) ?_
    exact (Int.emod_lt_of_pos _ (by decide)).trans (by decide)

/-- The quotient by a power of two. -/
theorem holds_ediv_two_pow (ha : n.Holds a) (k : Nat) : n.Holds (a / 2 ^ k) :=
  ha.of_le (Int.ediv_nonneg ha.nonneg (by positivity)) (Int.ediv_le_self _ ha.nonneg)

theorem signExtend_ok (ha : n.Holds a) (hx : n.Holds x) :
    ∃ r, Word.signExtend a x = .ok r ∧ n.Holds r := by
  have h₀ := ha.nonneg
  unfold Word.signExtend
  by_cases h : 31 ≤ a
  · exact ⟨x, if_pos h, hx⟩
  · have hsign : ¬ a * 8 + 7 < 0 := by omega
    have hbit : (a * 8 + 7).toNat ≤ 255 := by omega
    have hpos : (0 : Int) < 2 ^ (a * 8 + 7).toNat := by positivity
    have hle : (2 : Int) ^ (a * 8 + 7).toNat ≤ 2 ^ 255 := pow_le_pow_right₀ (by decide) hbit
    have hlow := Int.emod_nonneg x hpos.ne'
    have hhigh := Int.emod_lt_of_pos x hpos
    simp only [h, hsign, if_false]
    generalize (2 : Int) ^ (a * 8 + 7).toNat = low at *
    split_ifs
    · exact ⟨_, rfl, .of_lt (by unfold Word.ceiling; omega) (by omega)⟩
    · exact ⟨_, rfl, .of_lt hlow (by unfold Word.ceiling; omega)⟩

theorem shl_ok (ha : n.Holds a) (x : Int) : ∃ r, Word.shl a x = .ok r ∧ n.Holds r := by
  unfold Word.shl
  by_cases h : 256 ≤ a
  · exact ⟨0, if_pos h, holds_zero⟩
  · simp only [h, ha.nonneg.not_gt, if_false]
    exact ⟨_, rfl, holds_wrap _⟩

theorem shr_ok (ha : n.Holds a) (hx : n.Holds x) : ∃ r, Word.shr a x = .ok r ∧ n.Holds r := by
  unfold Word.shr
  by_cases h : 256 ≤ a
  · exact ⟨0, if_pos h, holds_zero⟩
  · simp only [h, ha.nonneg.not_gt, if_false]
    exact ⟨_, rfl, holds_ediv_two_pow hx _⟩

theorem sar_ok (ha : n.Holds a) (x : Int) : ∃ r, Word.sar a x = .ok r ∧ n.Holds r := by
  unfold Word.sar
  by_cases h : 256 ≤ a
  · simp only [h, if_true]
    split_ifs
    · exact ⟨0, rfl, holds_zero⟩
    · exact ⟨_, rfl, .of_lt (by decide) (by decide)⟩
  · simp only [h, ha.nonneg.not_gt, if_false]
    exact ⟨_, rfl, holds_wrap _⟩

theorem powMod_lt {m : Nat} (hm : 0 < m) (b e : Nat) : Word.powMod m b e < m := by
  fun_induction Word.powMod m b e with
  | case1 => exact Nat.mod_lt _ hm
  | case2 => exact Nat.mod_lt _ hm
  | case3 _ _ _ _ _ ih => exact ih

theorem exp_ok (a : Int) (hb : n.Holds b) : ∃ r, Word.exp a b = .ok r ∧ n.Holds r := by
  unfold Word.exp
  rw [if_pos hb.nonneg]
  refine ⟨_, rfl, .of_lt (Int.natCast_nonneg _) ?_⟩
  have h := powMod_lt (m := 2 ^ 256) (by positivity) (Word.wrap a).toNat b.toNat
  unfold Word.ceiling
  exact_mod_cast h

theorem holds_unary (op : Unary) (ha : n.Holds a) : n.Holds (Exec.unary op a) := by
  cases op with
  | iszero => exact holds_ofBool _
  | not => exact holds_not ha

theorem binary_ok (op : Binary) (ha : n.Holds a) (hb : n.Holds b) :
    ∃ r, Exec.binary op a b = .ok r ∧ n.Holds r := by
  cases op with
  | add | mul | sub => exact ⟨_, rfl, holds_wrap _⟩
  | div => exact ⟨_, rfl, holds_div ha hb.nonneg⟩
  | mod => exact ⟨_, rfl, holds_mod a hb⟩
  | sdiv => exact ⟨_, rfl, holds_ite_wrap _ _⟩
  | smod => exact ⟨_, rfl, holds_ite_wrap _ _⟩
  | signextend => exact signExtend_ok ha hb
  | lt | gt | slt | sgt | eq => exact ⟨_, rfl, holds_ofBool _⟩
  | and => exact ⟨_, rfl, holds_and ha hb⟩
  | or => exact ⟨_, rfl, holds_or ha hb⟩
  | xor => exact ⟨_, rfl, holds_xor ha hb⟩
  | byte => exact ⟨_, rfl, holds_byte _ _⟩
  | shl => exact shl_ok ha b
  | shr => exact shr_ok ha hb
  | sar => exact sar_ok ha b

theorem holds_ternary (op : Ternary) (a b : Int) (hc : n.Holds c) :
    n.Holds (Exec.ternary op a b c) := by
  cases op with
  | addmod => exact holds_mod (a + b) hc
  | mulmod => exact holds_mod (a * b) hc

end Numbers
end Gasometer
