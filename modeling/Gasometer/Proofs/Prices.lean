import Gasometer.Gas
import Gasometer.Proofs.ByteStrings

/-!
# The price of memory

The price of a memory grows with its size, so what an expansion costs is never negative. A memory
that exceeds every byte string would cost more than `2 ^ 61`.
-/
namespace Gasometer.Gas

variable {size words words' : Int}

theorem wordsFor_nonneg (h : 0 ≤ size) : 0 ≤ wordsFor size := by
  unfold wordsFor; omega

theorem le_wordsFor (size : Int) : size ≤ wordsFor size * 32 := by
  unfold wordsFor; omega

/-- A size beyond a number of words needs more words. -/
theorem lt_wordsFor (h : words * 32 < size) : words < wordsFor size := by
  unfold wordsFor; omega

theorem memoryCost_mono (h₀ : 0 ≤ words) (h : words ≤ words') :
    memoryCost words ≤ memoryCost words' := by
  have hsquare : words * words ≤ words' * words' := by nlinarith
  unfold memoryCost
  omega

theorem memoryCost_nonneg (h : 0 ≤ words) : 0 ≤ memoryCost words := by
  simpa [memoryCost] using memoryCost_mono le_rfl h

def shortagePrice : Int := 2 ^ 61

theorem shortagePrice_lt (h : Bytes.maxSize < words * 32) : shortagePrice < memoryCost words := by
  have hwords : 2 ^ 35 < words := by unfold Bytes.maxSize at h; omega
  have hsquare : 2 ^ 35 * 2 ^ 35 ≤ words * words := by nlinarith
  unfold memoryCost shortagePrice
  omega

end Gasometer.Gas
