import Gasometer.Proofs.MemoryAccesses
import Gasometer.Proofs.OperandStacks

/-!
# Words as vectors of bits

A word is the number of a vector of 256 bits, and the operations on words are those on vectors. The
machine computes on integers without a bound, with signs put on and taken off again, with divisions
that round down and with remainders; each of these comes to one operation on vectors.
-/
namespace Gasometer
namespace Word

variable {x y n s : BitVec 256}

def ofBits (x : BitVec 256) : Int := x.toNat

def bits (w : Int) : BitVec 256 := BitVec.ofInt 256 w

theorem ceiling_eq : ceiling = ((2 ^ 256 : Nat) : Int) := by decide

theorem ofBits_nonneg (x : BitVec 256) : 0 ≤ ofBits x := Int.natCast_nonneg _

theorem ofBits_lt (x : BitVec 256) : ofBits x < ceiling := by
  rw [ceiling_eq]
  exact Int.ofNat_lt.2 x.isLt

theorem ofBits_injective (h : ofBits x = ofBits y) : x = y :=
  BitVec.eq_of_toNat_eq (Int.ofNat.inj h)

@[simp] theorem ofBits_eq_zero : ofBits x = 0 ↔ x = 0 :=
  ⟨fun h => ofBits_injective h, fun h => by simp [h, ofBits]⟩

theorem ofNat_le_ofBits {k : Nat} [k.AtLeastTwo] :
    ofNat(k) ≤ ofBits x ↔ ofNat(k) ≤ x.toNat := Nat.ofNat_le_cast

/-- Only the lowest 256 bits of an integer count for the bits of a word. -/
theorem wrap_eq (i : Int) : wrap i = ofBits (bits i) := by
  have h₀ := wrap_nonneg i
  unfold wrap at *
  rw [ceiling_eq] at *
  rw [ofBits, bits, BitVec.toNat_ofInt, Int.toNat_of_nonneg h₀]

@[simp] theorem bits_ofBits (x : BitVec 256) : bits (ofBits x) = x := by
  simp [bits, ofBits]

/-- Every number of a word has bits. -/
theorem ofBits_bits {w : Int} (h₀ : 0 ≤ w) (h₁ : w < ceiling) : ofBits (bits w) = w := by
  rw [← wrap_eq, wrap_of_lt h₀ h₁]

/-- The sign of a word is its highest bit. -/
theorem toSigned_ofBits (x : BitVec 256) : toSigned (ofBits x) = x.toInt := by
  have hsign : signBit = 2 ^ 255 := by decide
  have hlt : x.toNat < 2 ^ 256 := x.isLt
  rw [BitVec.toInt_eq_toNat_cond, toSigned, ceiling_eq, ofBits, hsign]
  split_ifs <;> omega

@[simp] theorem toSigned_eq_zero : toSigned (ofBits x) = 0 ↔ x = 0 := by
  rw [toSigned_ofBits, ← BitVec.toInt_inj, BitVec.toInt_ofNat]
  rfl

theorem ofBool_eq (b : Bool) : ofBool b = ofBits (if b then 1 else 0) := by
  cases b <;> rfl

theorem wrap_add : wrap (ofBits x + ofBits y) = ofBits (x + y) := by
  rw [wrap_eq, bits, BitVec.ofInt_add]
  exact congrArg ofBits (congrArg₂ _ (bits_ofBits x) (bits_ofBits y))

theorem wrap_mul : wrap (ofBits x * ofBits y) = ofBits (x * y) := by
  rw [wrap_eq, bits, BitVec.ofInt_mul]
  exact congrArg ofBits (congrArg₂ _ (bits_ofBits x) (bits_ofBits y))

theorem wrap_sub : wrap (ofBits x - ofBits y) = ofBits (x - y) := by
  rw [Int.sub_eq_add_neg, wrap_eq, bits, BitVec.ofInt_add, BitVec.ofInt_neg, BitVec.sub_eq_add_neg]
  exact congrArg ofBits (congrArg₂ _ (bits_ofBits x) (congrArg _ (bits_ofBits y)))

theorem div_ofBits : div (ofBits x) (ofBits y) = ofBits (if y = 0 then 0 else x / y) := by
  simp only [div, ofBits_eq_zero]
  split_ifs
  · rfl
  · rw [Int.fdiv_eq_ediv_of_nonneg _ (ofBits_nonneg y)]
    simp [ofBits]

theorem mod_ofBits : mod (ofBits x) (ofBits y) = ofBits (if y = 0 then 0 else x % y) := by
  simp only [mod, ofBits_eq_zero]
  split_ifs
  · rfl
  · rw [Int.fmod_eq_emod_of_nonneg _ (ofBits_nonneg y)]
    simp [ofBits]

/-- The only quotient of signed words that is none is that of the least one by minus one, which
comes back to the least one. -/
theorem sdiv_ofBits : sdiv (ofBits x) (ofBits y) = ofBits (if y = 0 then 0 else x.sdiv y) := by
  simp only [sdiv, toSigned_eq_zero]
  split_ifs
  · rfl
  · rw [toSigned_ofBits, toSigned_ofBits, wrap_eq, bits]
    refine congrArg ofBits (BitVec.eq_of_toInt_eq ?_)
    rw [BitVec.toInt_ofInt, BitVec.toInt_sdiv]

theorem smod_ofBits : smod (ofBits x) (ofBits y) = ofBits (if y = 0 then 0 else x.srem y) := by
  simp only [smod, toSigned_eq_zero]
  split_ifs
  · rfl
  · rw [toSigned_ofBits, toSigned_ofBits, wrap_eq, bits, ← BitVec.toInt_srem, BitVec.ofInt_toInt]

/-- A remainder by a word needs no wrapping, whatever is divided. -/
theorem mod_natCast (k : Nat) :
    mod k (ofBits n) = ofBits (if n = 0 then 0 else BitVec.ofNat 256 (k % n.toNat)) := by
  simp only [mod, ofBits_eq_zero]
  split_ifs with h
  · rfl
  · have hpos : 0 < n.toNat := Nat.pos_of_ne_zero fun h₀ => h (BitVec.eq_of_toNat_eq h₀)
    have hlt : k % n.toNat < 2 ^ 256 := (Nat.mod_lt _ hpos).trans n.isLt
    rw [Int.fmod_eq_emod_of_nonneg _ (ofBits_nonneg n), ofBits, ofBits, BitVec.toNat_ofNat,
      Nat.mod_eq_of_lt hlt, Int.natCast_mod]

theorem addmod_ofBits : addmod (ofBits x) (ofBits y) (ofBits n) =
    ofBits (if n = 0 then 0 else BitVec.ofNat 256 ((x.toNat + y.toNat) % n.toNat)) :=
  mod_natCast (x.toNat + y.toNat)

theorem mulmod_ofBits : mulmod (ofBits x) (ofBits y) (ofBits n) =
    ofBits (if n = 0 then 0 else BitVec.ofNat 256 ((x.toNat * y.toNat) % n.toNat)) :=
  mod_natCast (x.toNat * y.toNat)

/-- Squaring comes to the power. -/
theorem powMod_eq (m b e : Nat) : powMod m b e = b ^ e % m := by
  fun_induction powMod m b e with
  | case1 => simp
  | case2 b e he half hodd ih =>
    have hsplit : b ^ e = b * (b * b) ^ (e / 2) := by
      rw [← Nat.pow_two, ← Nat.pow_mul, ← Nat.pow_succ']
      congr 1
      omega
    rw [show half = (b * b) ^ (e / 2) % m by rw [Nat.pow_mod]; exact ih, hsplit, Nat.mul_mod_mod]
  | case3 b e he half hodd ih =>
    have hsplit : b ^ e = (b * b) ^ (e / 2) := by
      rw [← Nat.pow_two, ← Nat.pow_mul]
      congr 1
      omega
    rw [show half = (b * b) ^ (e / 2) % m by rw [Nat.pow_mod]; exact ih, hsplit]

theorem exp_ofBits :
    exp (ofBits x) (ofBits y) = .ok (ofBits (BitVec.ofNat 256 (x.toNat ^ y.toNat))) := by
  have hbase : (wrap (ofBits x)).toNat = x.toNat := by
    rw [wrap_of_lt (ofBits_nonneg x) (ofBits_lt x)]
    rfl
  rw [exp, if_pos (ofBits_nonneg y), hbase, powMod_eq, ofBits, ofBits, Int.toNat_natCast,
    BitVec.toNat_ofNat]

/-- A number of `k + 1` bits with its sign carried on: its lowest `k` bits, and the sign in all the
places above them. -/
theorem toNat_carried {k : Nat} (hk : k < 256) (x : BitVec 256) :
    ((x.setWidth (k + 1)).signExtend 256).toNat =
      if x.toNat / 2 ^ k % 2 = 1 then x.toNat % 2 ^ k + (2 ^ 256 - 2 ^ k) else x.toNat % 2 ^ k := by
  have hsign : (x.setWidth (k + 1)).msb = decide (x.toNat / 2 ^ k % 2 = 1) := by
    rw [BitVec.msb_setWidth, ← BitVec.testBit_toNat, Nat.testBit_eq_decide_div_mod_eq]
    simp
  have hwidth : 2 ^ (k + 1) ≤ 2 ^ 256 := Nat.pow_le_pow_right (by decide) hk
  have hlow : x.toNat % 2 ^ (k + 1) = x.toNat % 2 ^ k + 2 ^ k * (x.toNat / 2 ^ k % 2) := by
    rw [Nat.pow_succ, Nat.mod_mul]
  have hlt : x.toNat % 2 ^ (k + 1) < 2 ^ 256 := (Nat.mod_lt _ (by positivity)).trans_le hwidth
  rw [BitVec.toNat_signExtend, BitVec.toNat_setWidth, BitVec.toNat_setWidth, Nat.mod_eq_of_lt hlt,
    hlow, hsign]
  by_cases h : x.toNat / 2 ^ k % 2 = 1
  · rw [if_pos (decide_eq_true h), if_pos h, h]
    rw [Nat.pow_succ] at *
    omega
  · have h₀ : x.toNat / 2 ^ k % 2 = 0 := by omega
    simp [h₀]

/-- The sign of the lowest bytes of a word, carried on to the highest bit. -/
def extendByte (b x : BitVec 256) : BitVec 256 :=
  if 31 ≤ b.toNat then x else (x.setWidth (8 * b.toNat + 8)).signExtend 256

theorem signExtend_ofBits : signExtend (ofBits s) (ofBits x) = .ok (ofBits (extendByte s x)) := by
  simp only [signExtend, extendByte, ofNat_le_ofBits]
  by_cases h : 31 ≤ s.toNat
  · rw [if_pos h, if_pos h]
  have hbit : (ofBits s * 8 + 7).toNat = 8 * s.toNat + 7 := by unfold ofBits; omega
  have hnonneg : ¬ ofBits s * 8 + 7 < 0 := by unfold ofBits; omega
  have hle : 8 * s.toNat + 7 < 256 := by omega
  rw [if_neg h, if_neg h, if_neg hnonneg, hbit]
  have hlow : (2 : Int) ^ (8 * s.toNat + 7) = ((2 ^ (8 * s.toNat + 7) : Nat) : Int) := by simp
  have hpow : 2 ^ (8 * s.toNat + 7) ≤ 2 ^ 256 := Nat.pow_le_pow_right (by decide) hle.le
  rw [ceiling_eq, ofBits, ofBits, toNat_carried hle, hlow]
  generalize 2 ^ (8 * s.toNat + 7) = low at *
  have hsign : ((x.toNat : Int) / low % 2 = 1) ↔ x.toNat / low % 2 = 1 := by norm_cast
  by_cases hx : x.toNat / low % 2 = 1
  · rw [if_pos (hsign.2 hx), if_pos hx]
    congr 1
    rw [Nat.cast_add, Nat.cast_sub hpow, Int.natCast_mod]
  · rw [if_neg (hsign.not.2 hx), if_neg hx]
    norm_cast

theorem byte_ofBits : byte (ofBits s) (ofBits x) =
    ofBits (if 32 ≤ s.toNat then 0 else (x.extractLsb' (8 * (31 - s.toNat)) 8).setWidth 256) := by
  simp only [byte, ofNat_le_ofBits]
  split_ifs with h
  · rfl
  · have hplace : (248 - ofBits s * 8).toNat = 8 * (31 - s.toNat) := by unfold ofBits; omega
    have hlt : x.toNat >>> (8 * (31 - s.toNat)) % 2 ^ 8 < 2 ^ 256 :=
      (Nat.mod_lt _ (by decide)).trans (by decide)
    rw [hplace]
    simp only [ofBits, BitVec.toNat_setWidth, BitVec.extractLsb'_toNat, Nat.mod_eq_of_lt hlt]
    simp

theorem not_shift_neg (s : BitVec 256) : ¬ ofBits s < 0 := (ofBits_nonneg s).not_gt

theorem shl_ofBits : shl (ofBits s) (ofBits x) = .ok (ofBits (x <<< s.toNat)) := by
  simp only [shl, ofNat_le_ofBits, if_neg (not_shift_neg s)]
  split_ifs with h
  · rw [BitVec.shiftLeft_eq_zero h]
    rfl
  · rw [wrap, ceiling_eq]
    simp [ofBits, Nat.shiftLeft_eq]

theorem shr_ofBits : shr (ofBits s) (ofBits x) = .ok (ofBits (x >>> s.toNat)) := by
  simp only [shr, ofNat_le_ofBits, if_neg (not_shift_neg s)]
  split_ifs with h
  · rw [BitVec.ushiftRight_eq_zero h]
    rfl
  · simp [ofBits, Nat.shiftRight_eq_div_pow]

theorem sar_ofBits : sar (ofBits s) (ofBits x) = .ok (ofBits (x.sshiftRight s.toNat)) := by
  simp only [sar, ofNat_le_ofBits, if_neg (not_shift_neg s), toSigned_ofBits]
  by_cases h : 256 ≤ s.toNat
  · have hsign := BitVec.msb_eq_toInt (x := x)
    rw [if_pos h]
    cases hm : x.msb with
    | false =>
      have hnonneg : 0 ≤ x.toInt := by simpa [hm] using hsign
      rw [if_pos hnonneg, BitVec.sshiftRight_eq_of_msb_false hm, BitVec.ushiftRight_eq_zero h]
      rfl
    | true =>
      have hneg : x.toInt < 0 := by simpa [hm] using hsign
      rw [if_neg hneg.not_ge, BitVec.sshiftRight_eq_of_msb_true hm, BitVec.ushiftRight_eq_zero h]
      rfl
  · rw [if_neg h, wrap_eq, bits]
    have hshift : x.toInt / 2 ^ (ofBits s).toNat = (x.sshiftRight s.toNat).toInt := by
      rw [BitVec.toInt_sshiftRight, Int.shiftRight_eq_div_pow]
      simp [ofBits]
    rw [hshift, BitVec.ofInt_toInt]

theorem and_ofBits : Word.and (ofBits x) (ofBits y) = ofBits (x &&& y) := by
  simp [ofBits, Word.and]

theorem or_ofBits : Word.or (ofBits x) (ofBits y) = ofBits (x ||| y) := by
  simp [ofBits, Word.or]

theorem xor_ofBits : Word.xor (ofBits x) (ofBits y) = ofBits (x ^^^ y) := by
  simp [ofBits, Word.xor]

theorem not_ofBits : Word.not (ofBits x) = ofBits (~~~x) := by
  have hones : ceiling - 1 = ofBits (BitVec.allOnes 256) := by decide
  rw [Word.not, hones, xor_ofBits, BitVec.allOnes_xor]

end Word

/-! The operations on vectors of bits. -/

def Unary.reference : Unary → BitVec 256 → BitVec 256
  | .iszero, x => if x = 0 then 1 else 0
  | .not, x => ~~~x

/-- The binary operations. A divisor of zero gives zero; a shift by 256 or more leaves nothing but
the sign. -/
def Binary.reference : Binary → BitVec 256 → BitVec 256 → BitVec 256
  | .add, x, y => x + y
  | .mul, x, y => x * y
  | .sub, x, y => x - y
  | .div, x, y => if y = 0 then 0 else x / y
  | .sdiv, x, y => if y = 0 then 0 else x.sdiv y
  | .mod, x, y => if y = 0 then 0 else x % y
  | .smod, x, y => if y = 0 then 0 else x.srem y
  | .signextend, b, x => Word.extendByte b x
  | .lt, x, y => if x.ult y then 1 else 0
  | .gt, x, y => if y.ult x then 1 else 0
  | .slt, x, y => if x.slt y then 1 else 0
  | .sgt, x, y => if y.slt x then 1 else 0
  | .eq, x, y => if x = y then 1 else 0
  | .and, x, y => x &&& y
  | .or, x, y => x ||| y
  | .xor, x, y => x ^^^ y
  | .byte, i, x =>
    if 32 ≤ i.toNat then 0 else (x.extractLsb' (8 * (31 - i.toNat)) 8).setWidth 256
  | .shl, s, x => x <<< s.toNat
  | .shr, s, x => x >>> s.toNat
  | .sar, s, x => x.sshiftRight s.toNat

/-- The ternary operations: sum and product are taken whole before the division. -/
def Ternary.reference : Ternary → BitVec 256 → BitVec 256 → BitVec 256 → BitVec 256
  | .addmod, x, y, n => if n = 0 then 0 else BitVec.ofNat 256 ((x.toNat + y.toNat) % n.toNat)
  | .mulmod, x, y, n => if n = 0 then 0 else BitVec.ofNat 256 ((x.toNat * y.toNat) % n.toNat)

/-- The power, taken whole before it is cut to its lowest 256 bits. -/
def Word.power (x y : BitVec 256) : BitVec 256 := BitVec.ofNat 256 (x.toNat ^ y.toNat)

/-! The operations on vectors at their limits. -/

theorem Binary.reference_zero {op : Binary} (h : op ∈ [div, sdiv, mod, smod]) (x : BitVec 256) :
    op.reference x 0 = 0 := by
  simp only [List.mem_cons, List.not_mem_nil, or_false] at h
  rcases h with rfl | rfl | rfl | rfl <;> simp [reference]

theorem Ternary.reference_zero (op : Ternary) (x y : BitVec 256) : op.reference x y 0 = 0 := by
  cases op <;> simp [reference]

/-- The signed remainder has the sign of the dividend. -/
theorem Binary.toInt_smod {x y : BitVec 256} (h : y ≠ 0) :
    (smod.reference x y).toInt = x.toInt.tmod y.toInt := by
  rw [reference, if_neg h, BitVec.toInt_srem]

/-- A shift by 256 or more leaves nothing but the sign. -/
theorem Binary.reference_shift {s : BitVec 256} (h : 256 ≤ s.toNat) (x : BitVec 256) :
    shl.reference s x = 0 ∧ shr.reference s x = 0 ∧
      sar.reference s x = if x.msb then BitVec.allOnes 256 else 0 := by
  refine ⟨BitVec.shiftLeft_eq_zero h, BitVec.ushiftRight_eq_zero h, ?_⟩
  cases hsign : x.msb with
  | false =>
    exact (BitVec.sshiftRight_eq_of_msb_false hsign).trans (BitVec.ushiftRight_eq_zero h)
  | true =>
    rw [reference, BitVec.sshiftRight_eq_of_msb_true hsign, BitVec.ushiftRight_eq_zero h]
    rfl

namespace Exec
open Word

variable {x y n : BitVec 256}

theorem unary_ofBits (op : Unary) : unary op (ofBits x) = ofBits (op.reference x) := by
  cases op with
  | iszero => simp [unary, Unary.reference, ofBool_eq]
  | not => exact not_ofBits

theorem binary_ofBits (op : Binary) :
    binary op (ofBits x) (ofBits y) = .ok (ofBits (op.reference x y)) := by
  have hlt : ∀ {x y : BitVec 256}, decide (ofBits x < ofBits y) = x.ult y := by
    intro x y
    simp [ofBits, BitVec.ult]
  have hslt : ∀ {x y : BitVec 256},
      decide (toSigned (ofBits x) < toSigned (ofBits y)) = x.slt y := by
    intro x y
    rw [toSigned_ofBits, toSigned_ofBits, BitVec.slt]
  cases op with
  | add => exact congrArg _ wrap_add
  | mul => exact congrArg _ wrap_mul
  | sub => exact congrArg _ wrap_sub
  | div => exact congrArg _ div_ofBits
  | sdiv => exact congrArg _ sdiv_ofBits
  | mod => exact congrArg _ mod_ofBits
  | smod => exact congrArg _ smod_ofBits
  | signextend => exact signExtend_ofBits
  | lt | gt => rw [binary, hlt, ofBool_eq]; rfl
  | slt | sgt => rw [binary, hslt, ofBool_eq]; rfl
  | eq => simp [binary, Binary.reference, ofBool_eq, ofBits, BitVec.toNat_inj]
  | and => exact congrArg _ and_ofBits
  | or => exact congrArg _ or_ofBits
  | xor => exact congrArg _ xor_ofBits
  | byte => exact congrArg _ byte_ofBits
  | shl => exact shl_ofBits
  | shr => exact shr_ofBits
  | sar => exact sar_ofBits

theorem ternary_ofBits (op : Ternary) :
    ternary op (ofBits x) (ofBits y) (ofBits n) = ofBits (op.reference x y n) := by
  cases op with
  | addmod => exact addmod_ofBits
  | mulmod => exact mulmod_ofBits

/-- What it is for an operation to pay what its operands cost, to replace them by this word and to
change nothing else. Only the price of a power can be too high. -/
def Answers (op : Opcode) (a : Activity) (w : Int) (rest : List Int) : Prop :=
  (execute op).Yields a
    (fun child? b => child? = none ∧
      b = (a.mapFrame fun f => { f with gas := f.gas - op.surcharge a }).withItems (w :: rest))
    fun e _ => op = .exp ∧ e = .halt .insufficientGas ∧ a.frame.gas < op.surcharge a

theorem Answers.of_free {op : Opcode} {a : Activity} {w : Int} {rest : List Int}
    (hfree : op.surcharge a = 0) (hx : execute op a = .ok none (a.withItems (w :: rest))) :
    Answers op a w rest := by
  rw [Answers, Yields, hx, hfree, Activity.mapFrame, Int.sub_zero]
  exact ⟨rfl, rfl⟩

theorem useGas_yields {amount : Int} {a : Activity} {stopped : Stop → Activity → Prop}
    (h : a.frame.gas < amount → stopped (.halt .insufficientGas) a) :
    (useGas amount).Yields a
      (fun _ b => b = a.mapFrame fun f => { f with gas := f.gas - amount }) stopped := by
  unfold useGas
  refine Yields.view ((Yields.haltIf h).bind ?_)
  rintro _ _ ⟨-, rfl⟩
  exact rfl

theorem answers_unary (op : Unary) (a : Activity) (rest : List Int) :
    Answers (.unary op) (a.withItems (ofBits x :: rest)) (ofBits (op.reference x)) rest := by
  rw [← unary_ofBits]
  exact .of_free rfl rfl

theorem answers_binary (op : Binary) (a : Activity) (rest : List Int) :
    Answers (.binary op) (a.withItems (ofBits x :: ofBits y :: rest)) (ofBits (op.reference x y))
      rest := by
  refine .of_free rfl ?_
  show (attempt (binary op (ofBits x) (ofBits y)) >>= _) (a.withItems rest) = _
  rw [binary_ofBits]
  rfl

theorem answers_ternary (op : Ternary) (a : Activity) (rest : List Int) :
    Answers (.ternary op) (a.withItems (ofBits x :: ofBits y :: ofBits n :: rest))
      (ofBits (op.reference x y n)) rest := by
  rw [← ternary_ofBits]
  exact .of_free rfl rfl

theorem answers_exp (a : Activity) (rest : List Int) :
    Answers .exp (a.withItems (ofBits x :: ofBits y :: rest)) (ofBits (power x y)) rest := by
  unfold Answers execute
  rw [yields_bind]
  unfold Exec.exp
  refine Yields.pop (Yields.pop ?_)
  rw [exp_ofBits]
  refine (useGas_yields fun h => ⟨rfl, rfl, h⟩).bind ?_
  rintro _ _ rfl
  exact ⟨rfl, rfl⟩

/-- Arithmetic and the operations on bits are those on vectors of 256 bits, for all operands. At
their limits, these are as they should be: a divisor of zero gives zero, the quotient of the least
signed word by minus one is the least one, a signed remainder has the sign of the dividend, and a
shift by 256 or more leaves nothing but the sign. -/
theorem arithmetic_on_vectors :
    (∀ (a : Activity) (rest : List Int) (x y n : Int), (0 ≤ x ∧ x < ceiling) →
      (0 ≤ y ∧ y < ceiling) → (0 ≤ n ∧ n < ceiling) →
      (∀ op : Unary, a.frame.stack.items = x :: rest →
        Answers (.unary op) a (ofBits (op.reference (bits x))) rest) ∧
      (∀ op : Binary, a.frame.stack.items = x :: y :: rest →
        Answers (.binary op) a (ofBits (op.reference (bits x) (bits y))) rest) ∧
      (∀ op : Ternary, a.frame.stack.items = x :: y :: n :: rest →
        Answers (.ternary op) a (ofBits (op.reference (bits x) (bits y) (bits n))) rest) ∧
      (a.frame.stack.items = x :: y :: rest →
        Answers .exp a (ofBits (power (bits x) (bits y))) rest)) ∧
    (∀ op ∈ [Binary.div, .sdiv, .mod, .smod], ∀ x, op.reference x 0 = 0) ∧
    (∀ (op : Ternary) (x y : BitVec 256), op.reference x y 0 = 0) ∧
    Binary.sdiv.reference (BitVec.intMin 256) (-1) = BitVec.intMin 256 ∧
    (∀ x y : BitVec 256, y ≠ 0 →
      (Binary.smod.reference x y).toInt = x.toInt.tmod y.toInt) ∧
    ∀ s x : BitVec 256, 256 ≤ s.toNat → Binary.shl.reference s x = 0 ∧
      Binary.shr.reference s x = 0 ∧
      Binary.sar.reference s x = if x.msb then BitVec.allOnes 256 else 0 := by
  refine ⟨?_, fun op => Binary.reference_zero, Ternary.reference_zero, ?_,
    fun x y => Binary.toInt_smod, fun s x h => Binary.reference_shift h x⟩
  · intro a rest x y n hx hy hn
    have hbits (items : List Int) (h : a.frame.stack.items = items) (op : Opcode) (r : BitVec 256)
        (hr : Answers op (a.withItems items) (ofBits r) rest) : Answers op a (ofBits r) rest := by
      rwa [Activity.withItems_of_items h] at hr
    have hx' := ofBits_bits hx.1 hx.2
    have hy' := ofBits_bits hy.1 hy.2
    have hn' := ofBits_bits hn.1 hn.2
    refine ⟨fun op h => ?_, fun op h => ?_, fun op h => ?_, fun h => ?_⟩
    · rw [← hx'] at h
      exact hbits _ h _ _ (answers_unary op a rest)
    · rw [← hx', ← hy'] at h
      exact hbits _ h _ _ (answers_binary op a rest)
    · rw [← hx', ← hy', ← hn'] at h
      exact hbits _ h _ _ (answers_ternary op a rest)
    · rw [← hx', ← hy'] at h
      exact hbits _ h _ _ (answers_exp a rest)
  · rw [Binary.reference, if_neg (by decide)]
    exact BitVec.intMin_sdiv_neg_one

/-- The least signed word divided by minus one, over a word that stays. -/
theorem sdiv_least_by_minus_one :
    let a := (default : Activity).withItems [signBit, ceiling - 1, 7]
    (0 ≤ signBit ∧ signBit < ceiling) ∧ (0 ≤ ceiling - 1 ∧ ceiling - 1 < ceiling) ∧
      a.frame.stack.items = [signBit, ceiling - 1, 7] ∧
      Answers (.binary .sdiv) a
        (ofBits (Binary.sdiv.reference (bits signBit) (bits (ceiling - 1)))) [7] ∧
      ofBits (Binary.sdiv.reference (bits signBit) (bits (ceiling - 1))) = signBit :=
  ⟨by decide, by decide, rfl,
    (arithmetic_on_vectors.1 _ [7] signBit (ceiling - 1) 0 (by decide) (by decide) (by decide)).2.1
      .sdiv rfl, by decide⟩

end Exec
end Gasometer
