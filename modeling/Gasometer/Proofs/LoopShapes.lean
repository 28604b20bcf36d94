import Gasometer.Proofs.Drafts

/-!
# How loops use their limits

The numbers of copies and of passes of a loop are as great as they can be: one copy more would not
fit into the room or the gas, or is not wanted, and one pass more would not be paid for. Neither is
greater than that, unless it is one.
-/
namespace Gasometer
open Assembly Text

-- Powers are those of the core library, also where Mathlib offers its own.
attribute [local instance (high)] instPowNat

/-- An operand that can be measured: a natural number, or the mnemonic of an operation. -/
def StepOperand.IsKnown : StepOperand → Prop
  | .number n => 0 ≤ n
  | .mnemonic text => ∃ op, Opcode.ofMnemonic text = .ok op

/-- A step of this operation that can be measured. Its numbers of results and its estimate of gas
are any, and it may end its frame. -/
structure Step.IsMeasured (s : Step) (op : Opcode) : Prop where
  spelled : Opcode.Names s.mnemonic.toList op
  operands : ∀ o ∈ s.operands, o.IsKnown
  data : ∀ v, s.immediate? = some v → ∃ n, op = .push n
  preamble : s.preamble = [] ∨ s.preamble = Catalog.returnDataPreamble

namespace LoopProgram

variable {s : Step} {op : Opcode}

/-- Whether a shape makes the most of a limit of gas, of room for the bodies and of the number of
copies, for bodies of this price and size. A pass costs 26 besides its bodies. -/
structure Shape.Exhausts (shape : Shape) (gasLimit room maxUnroll gas size : Int) : Prop where
  one_le_unroll : 1 ≤ shape.unroll
  unroll_le : shape.unroll ≤ max 1 maxUnroll
  one_le_outer : 1 ≤ shape.outer
  outer_le : shape.outer ≤ 2 ^ (32 : Nat) - 1
  unroll_fits : shape.unroll = 1 ∨
    shape.unroll * size ≤ room ∧ shape.unroll * gas ≤ gasLimit
  outer_fits : shape.outer = 1 ∨ shape.outer * (shape.unroll * gas + 26) ≤ gasLimit
  outer_greatest : shape.outer = 2 ^ (32 : Nat) - 1 ∨
    gasLimit < (shape.outer + 1) * (shape.unroll * gas + 26)
  unroll_greatest : shape.unroll = max 1 maxUnroll ∨
    room < (shape.unroll + 1) * size ∨ gasLimit < (shape.unroll + 1) * gas

/-- The shape for a body makes the most of its limits. -/
theorem shapeOf_exhausts {limits : Limits} {maxUnroll : Int}
    (hmax : limits.maxUnroll = max 1 maxUnroll) (room size gas : Int) :
    (shapeOf limits room size gas).Exhausts limits.gasLimit room maxUnroll (max 1 gas)
      (max 1 size) := by
  set shape := shapeOf limits room size gas
  have hgas : 0 < max 1 gas := by omega
  have hsize : 0 < max 1 size := by omega
  have hpass : 0 < shape.unroll * max 1 gas + 26 := by
    have := Int.mul_pos shape.one_le_unroll hgas
    omega
  have hunroll : shape.unroll =
      max 1 (min limits.maxUnroll (min (room / max 1 size) (limits.gasLimit / max 1 gas))) := rfl
  have houter : shape.outer =
      min (max 1 (limits.gasLimit / (shape.unroll * max 1 gas + 26))) maxPasses := rfl
  have hpasses : maxPasses = 2 ^ (32 : Nat) - 1 := rfl
  exact
    { one_le_unroll := shape.one_le_unroll
      unroll_le := by omega
      one_le_outer := shape.one_le_outer
      outer_le := by omega
      unroll_fits := by
        rw [← Int.le_ediv_iff_mul_le hsize, ← Int.le_ediv_iff_mul_le hgas]
        omega
      outer_fits := by
        rw [← Int.le_ediv_iff_mul_le hpass]
        omega
      outer_greatest := by
        rw [← Int.ediv_lt_iff_lt_mul hpass]
        omega
      unroll_greatest := by
        rw [← Int.ediv_lt_iff_lt_mul hsize, ← Int.ediv_lt_iff_lt_mul hgas]
        omega }

/-! What a shape is made from. -/

theorem operandGas_of_isKnown {o : StepOperand} (h : o.IsKnown) :
    ∃ gas, operandGas o = .ok gas := by
  cases o with
  | number v => exact ⟨3, rfl⟩
  | mnemonic text =>
    obtain ⟨op, hop⟩ := h
    refine ⟨Step.priceOf op, ?_⟩
    rw [operandGas, Step.lookUp_eq_ok_iff.2 hop]
    rfl

theorem opcode_of_isMeasured (h : s.IsMeasured op) : s.opcode = .ok op :=
  Step.lookUp_eq_ok_iff.2 h.spelled.ofMnemonic

theorem pops_of_isMeasured (h : s.IsMeasured op) : ∃ pops, s.pops = .ok pops := by
  unfold Step.pops
  cases s.outputs? with
  | some n => exact ⟨n, rfl⟩
  | none => exact ⟨Step.resultsOf op, by rw [opcode_of_isMeasured h]; rfl⟩

theorem bodyGas_of_isMeasured (h : s.IsMeasured op) : ∃ gas, bodyGas s = .ok gas := by
  obtain ⟨gases, hgases⟩ := mapM_ok fun o ho => operandGas_of_isKnown (h.operands o ho)
  obtain ⟨pops, hpops⟩ := pops_of_isMeasured h
  rw [bodyGas, hgases, Step.staticGas, opcode_of_isMeasured h, hpops]
  exact ⟨_, rfl⟩

theorem bodySize_of_isMeasured (h : s.IsMeasured op) : ∃ size, bodySize s = .ok size := by
  obtain ⟨size, hsize⟩ := operationSize_of_names h.spelled h.data
  obtain ⟨pops, hpops⟩ := pops_of_isMeasured h
  rw [bodySize, hsize, hpops]
  exact ⟨_, rfl⟩

/-- The size of what is run beforehand is that of its code. -/
theorem preambleSize_eq_size (h : s.preamble = [] ∨ s.preamble = Catalog.returnDataPreamble) :
    ∃ code, assemble ("\n".intercalate s.preamble) = .ok code ∧
      preambleSize s = .ok (code.size : Int) := by
  rcases h with h | h
  · refine ⟨#[], by rw [h]; decide +kernel, ?_⟩
    rw [preambleSize, h]
    rfl
  · refine ⟨#[0x60, 0x20, 0x60, 0x00, 0x60, 0x00, 0x60, 0x00, 0x62, 0x0c, 0xa1, 0x1e, 0x5a, 0xfa,
      0x50], by rw [h]; decide +kernel, ?_⟩
    rw [preambleSize, h]
    rfl

/-- The limits are accepted, whatever number of copies is asked for. -/
theorem create_ok {gasLimit sizeLimit : Int} (hgas : 1 ≤ gasLimit) (hsize : 18 ≤ sizeLimit)
    (maxUnroll : Int) (dialect : Dialect) :
    Limits.create gasLimit sizeLimit maxUnroll dialect.name =
      .ok ⟨gasLimit, sizeLimit, max 1 maxUnroll, dialect⟩ := by
  have hdialect : Dialect.ofName? dialect.name = some dialect := by cases dialect <;> decide
  have hbytes : (loopBytes : Int) = 17 := rfl
  rw [Limits.create, if_neg (by omega), if_neg (by omega), hdialect]

/-- For every step that can be measured and under all limits that are accepted, there is a shape. It
makes the most of the limits: of the gas, of the bytes that are left besides those of what is run
beforehand and the seventeen of the loop, and of the number of copies. -/
theorem loopShape_exhausts (h : s.IsMeasured op) {gasLimit sizeLimit : Int} (hgas : 1 ≤ gasLimit)
    (hsize : 18 ≤ sizeLimit) (maxUnroll : Int) (dialect : Dialect) :
    ∃ limits shape gas size code,
      Limits.create gasLimit sizeLimit maxUnroll dialect.name = .ok limits ∧
      loopShape limits s = .ok shape ∧
      bodyGas s = .ok gas ∧ bodySize s = .ok size ∧
      assemble ("\n".intercalate s.preamble) = .ok code ∧
      shape.Exhausts gasLimit (sizeLimit - 17 - code.size) maxUnroll (max 1 gas) (max 1 size) := by
  obtain ⟨gas, hbodyGas⟩ := bodyGas_of_isMeasured h
  obtain ⟨size, hbodySize⟩ := bodySize_of_isMeasured h
  obtain ⟨code, hcode, hpreamble⟩ := preambleSize_eq_size h.preamble
  let limits : Limits := ⟨gasLimit, sizeLimit, max 1 maxUnroll, dialect⟩
  refine ⟨limits, shapeOf limits (sizeLimit - 17 - code.size) size gas, gas, size, code,
    create_ok hgas hsize maxUnroll dialect, ?_, hbodyGas, hbodySize, hcode,
    shapeOf_exhausts rfl _ _ _⟩
  rw [loopShape, hpreamble, hbodyGas, hbodySize]
  rfl

/-- No room is left besides the call, so the copies are not repeated, and the gas pays for three
passes. -/
theorem loopShape_exhausts_returnDataSize :
    returnDataSize.IsMeasured (.query .returndatasize) ∧
      ∃ limits shape, Limits.create 100 18 64 "asm" = .ok limits ∧
        loopShape limits returnDataSize = .ok shape ∧
        bodyGas returnDataSize = .ok 4 ∧ bodySize returnDataSize = .ok 2 ∧
        shape.Exhausts 100 (-14) 64 4 2 ∧ shape.unroll = 1 ∧ shape.outer = 3 := by
  have hmeasured : returnDataSize.IsMeasured (.query .returndatasize) :=
    { spelled := .name (by decide)
      operands := by rintro o ⟨⟩
      data := by rintro v ⟨⟩
      preamble := .inr rfl }
  have hbodyGas : bodyGas returnDataSize = .ok 4 := by decide +kernel
  have hbodySize : bodySize returnDataSize = .ok 2 := by decide +kernel
  have hpreamble : (assemble ("\n".intercalate returnDataSize.preamble)).toOption.map (·.size) =
      some 15 := by decide +kernel
  obtain ⟨limits, shape, gas, size, code, hlimits, hshape, hgas, hsize, hcode, hexhausts⟩ :=
    loopShape_exhausts hmeasured (by decide : (1 : Int) ≤ 100) (by decide : (18 : Int) ≤ 18) 64
      .asm
  obtain rfl : 4 = gas := Except.ok.inj (hbodyGas.symm.trans hgas)
  obtain rfl : 2 = size := Except.ok.inj (hbodySize.symm.trans hsize)
  have hroom : code.size = 15 := by simpa [hcode, Except.toOption] using hpreamble
  rw [hroom] at hexhausts
  replace hexhausts : shape.Exhausts 100 (-14) 64 4 2 := hexhausts
  have hunroll : shape.unroll = 1 := by
    have := hexhausts.one_le_unroll
    have := hexhausts.unroll_fits
    omega
  have houter : shape.outer = 3 := by
    have := hexhausts.outer_fits
    have := hexhausts.outer_greatest
    rw [hunroll] at *
    omega
  exact ⟨hmeasured, limits, shape, hlimits, hshape, hbodyGas, hbodySize, hexhausts, hunroll, houter⟩

end LoopProgram
end Gasometer
