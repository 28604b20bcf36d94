import Gasometer.Bytes
import Mathlib.Tactic.Linarith
import Mathlib.Tactic.SplitIfs

/-!
# Sizes of byte strings

A byte string of `n` bytes spells a number below `256 ^ n`. Ranges that lie inside a string keep its
size when they are replaced, and reading past the end is padded to the size that was asked for. The
only faults are requests for more bytes than can be held.
-/
namespace Gasometer

/-- Whether a fault is a request for more bytes than can be addressed or held. -/
def Fault.IsShortage (fault : Fault) : Prop := fault = .exhausted ∨ fault = .sizeRange

namespace Bytes

variable {bs new : Bytes} {size start stop offset : Int}

theorem foldl_toNat_lt (l : List UInt8) (n : Nat) :
    l.foldl (fun n b => n * 256 + b.toNat) n < (n + 1) * 256 ^ l.length := by
  induction l generalizing n with
  | nil => simp
  | cons b r ih =>
    have hb : b.toNat < 256 := b.toNat_lt
    calc r.foldl (fun n b => n * 256 + b.toNat) (n * 256 + b.toNat)
        < (n * 256 + b.toNat + 1) * 256 ^ r.length := ih _
      _ ≤ ((n + 1) * 256) * 256 ^ r.length := Nat.mul_le_mul_right _ (by omega)
      _ = (n + 1) * 256 ^ (b :: r).length := by
        rw [List.length_cons, Nat.pow_succ, Nat.mul_assoc, Nat.mul_comm 256]

theorem toNat_lt (bs : Bytes) : bs.toNat < 256 ^ bs.size := by
  have h := foldl_toNat_lt bs.toList 0
  rw [Array.foldl_toList] at h
  simpa [toNat] using h

/-- A string of at most 32 bytes spells a word. -/
theorem toNat_lt_of_size_le (h : bs.size ≤ 32) : (bs.toNat : Int) < 2 ^ 256 := by
  have hpow : 256 ^ bs.size ≤ 256 ^ 32 := Nat.pow_le_pow_right (by decide) h
  have hlt : bs.toNat < 256 ^ 32 := (toNat_lt bs).trans_le hpow
  exact_mod_cast hlt

theorem ofInt_ok (h₀ : 0 ≤ size) (h₁ : size < 2 ^ 256) :
    ∃ r, ofInt 32 size = .ok r ∧ r.size = 32 := by
  have hwidth : widthOf size.toNat ≤ 32 := by
    unfold widthOf
    split_ifs with hz
    · decide
    · have := (Nat.log2_lt hz).2 (show size.toNat < 2 ^ 256 by omega)
      omega
  refine ⟨_, ?_, size_ofNat 32 size.toNat⟩
  rw [ofInt, if_neg h₀.not_gt, if_neg hwidth.not_gt]

theorem size_ofInt {width : Nat} {n : Int} {r : Bytes} (h : ofInt width n = .ok r) :
    r.size = width := by
  unfold ofInt at h
  split_ifs at h
  cases h
  exact size_ofNat width _

theorem ofInt_ne_cutOff (width : Nat) (n : Int) : ofInt width n ≠ .error .cutOff := by
  unfold ofInt
  split_ifs <;> simp

theorem zeros_ok (h₀ : 0 ≤ size) (h₁ : size ≤ maxSize) :
    ∃ r, zeros size = .ok r ∧ r.size = size.toNat := by
  refine ⟨Array.replicate size.toNat 0, ?_, by simp⟩
  have hrange : ¬ 2 ^ 63 ≤ size := by unfold maxSize at h₁; omega
  rw [zeros, if_neg h₀.not_gt, if_neg hrange, if_neg h₁.not_gt]

theorem zeros_error {fault : Fault} (h₀ : 0 ≤ size) (h : zeros size = .error fault) :
    fault.IsShortage ∧ maxSize < size := by
  unfold zeros at h
  split_ifs at h with _ hrange hmax
  · omega
  · cases h
    exact ⟨.inr rfl, by unfold maxSize; omega⟩
  · cases h
    exact ⟨.inl rfl, hmax⟩

theorem checkSize_ok {u : Unit} (h : checkSize size = .ok u) : size ≤ maxSize := by
  unfold checkSize at h
  split_ifs at h with hmax
  exact not_lt.1 hmax

theorem checkSize_error {fault : Fault} (h : checkSize size = .error fault) :
    fault.IsShortage ∧ maxSize < size := by
  unfold checkSize at h
  split_ifs at h with hmax
  cases h
  exact ⟨.inl rfl, hmax⟩

theorem bound_le (size : Nat) (i : Int) : bound size i ≤ size := by
  unfold bound
  split_ifs <;> omega

theorem bound_of_le {size : Nat} {i : Int} (h₀ : 0 ≤ i) (h₁ : i ≤ size) :
    bound size i = i.toNat := by
  unfold bound
  rw [if_neg h₀.not_gt]
  omega

theorem size_slice (bs : Bytes) (start stop : Int) :
    (bs.slice start stop).size = bound bs.size stop - bound bs.size start := by
  have := bound_le bs.size stop
  rw [slice, Array.size_extract]
  omega

theorem size_slice_le (bs : Bytes) (start stop : Int) : (bs.slice start stop).size ≤ bs.size := by
  have := bound_le bs.size stop
  rw [size_slice]
  omega

/-- A slice is not longer than its range. -/
theorem size_slice_le_range (bs : Bytes) (h₀ : 0 ≤ offset) (h₁ : 0 ≤ size) :
    ((bs.slice offset (offset + size)).size : Int) ≤ size := by
  rw [size_slice]
  unfold bound
  split_ifs <;> omega

theorem size_slice_zero {n : Int} (h₀ : 0 ≤ n) (h₁ : n ≤ bs.size) :
    ((bs.slice 0 n).size : Int) = n := by
  rw [size_slice, bound_of_le h₀ h₁, bound_of_le le_rfl (by omega)]
  omega

theorem size_foldl_set (new : Bytes) (a : Nat) (l : List Nat) (bs : Bytes) :
    (l.foldl (fun m i => m.setIfInBounds (a + i) (new.getD i 0)) bs).size = bs.size := by
  induction l generalizing bs with
  | nil => rfl
  | cons i r ih => rw [List.foldl_cons, ih, Array.size_setIfInBounds]

/-- Replacing a range by as many bytes keeps the size. -/
theorem size_splice (h₀ : 0 ≤ start) (h₁ : start ≤ stop) (h₂ : stop ≤ bs.size)
    (hnew : (new.size : Int) = stop - start) : (bs.splice start stop new).size = bs.size := by
  unfold splice
  rw [bound_of_le h₀ (h₁.trans h₂), bound_of_le (h₀.trans h₁) h₂]
  rw [if_pos (by omega)]
  exact size_foldl_set ..

theorem padded_ok (bs : Bytes) (h₀ : 0 ≤ offset) (h₁ : 0 ≤ size) (h₂ : size ≤ maxSize) :
    ∃ r, bs.padded offset size = .ok r ∧ r.size = size.toNat := by
  unfold padded
  by_cases hend : (bs.size : Int) ≤ offset
  · obtain ⟨r, hr, hs⟩ := zeros_ok h₁ h₂
    exact ⟨r, by rw [if_pos hend, hr], hs⟩
  · have hchunk := size_slice_le_range bs h₀ h₁
    have hrest : 0 ≤ size - ((bs.slice offset (offset + size)).size : Int) := by omega
    obtain ⟨r, hr, hs⟩ := zeros_ok hrest (by omega)
    refine ⟨bs.slice offset (offset + size) ++ r, ?_, ?_⟩
    · simp only [if_neg hend, hr]; rfl
    · rw [Array.size_append]; omega

end Bytes
end Gasometer
