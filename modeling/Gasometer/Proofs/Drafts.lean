import Gasometer.Proofs.LoopSources

/-!
# Drafts

A program can be written for every step whose parts can be written, whatever the limits. In assembly
nothing else is needed. A Yul program embeds the body of a step for which Yul has no function, and
there is no program if the assembler refuses this body. It refuses none in the catalog.
-/
namespace Gasometer
open Assembly Text

-- Powers are those of the core library, also where Mathlib offers its own.
attribute [local instance (high)] instPowNat

variable {s : Step} {op : Opcode} {info : OpcodeInfo}

namespace LoopProgram

variable {limits : Limits} {lines : List String} {e : CompilationError}

/-- A step whose parts can be written and measured. -/
structure Sketched (s : Step) : Prop where
  opcode : ∃ op, s.opcode = .ok op
  operands : ∀ o ∈ s.operands, (∃ line, operandLine o = .ok line) ∧ ∃ gas, operandGas o = .ok gas
  operation : ∃ size, operationSize s = .ok size
  preamble : ∃ size, preambleSize s = .ok size

def Refused (s : Step) (e : CompilationError) : Prop :=
  hasYulFunction s = .ok false ∧ ∃ lines, bodyLines s = .ok lines ∧
    compile ("\n".intercalate lines) = .error e

namespace Sketched

theorem isTerminal (h : Sketched s) : ∃ terminal, s.isTerminal = .ok terminal := by
  obtain ⟨op, hop⟩ := h.opcode
  exact ⟨op.isTerminating, by rw [Step.isTerminal, hop]; rfl⟩

theorem pops (h : Sketched s) : ∃ pops, s.pops = .ok pops := by
  unfold Step.pops
  cases s.outputs? with
  | some n => exact ⟨n, rfl⟩
  | none =>
    obtain ⟨op, hop⟩ := h.opcode
    exact ⟨Step.resultsOf op, by rw [hop]; rfl⟩

theorem hasYulFunction (h : Sketched s) : ∃ b, hasYulFunction s = .ok b := by
  unfold LoopProgram.hasYulFunction
  split_ifs
  · exact ⟨false, rfl⟩
  · obtain ⟨op, hop⟩ := h.opcode
    exact ⟨hasFunction op, by rw [hop]; rfl⟩

theorem bodyLines (h : Sketched s) : ∃ lines, bodyLines s = .ok lines := by
  obtain ⟨operands, hoperands⟩ := mapM_ok fun o ho => (h.operands o (List.mem_reverse.1 ho)).1
  obtain ⟨terminal, hterminal⟩ := h.isTerminal
  obtain ⟨pops, hpops⟩ := h.pops
  rw [LoopProgram.bodyLines, hoperands, hterminal, hpops]
  cases terminal <;> exact ⟨_, rfl⟩

theorem loopShape (h : Sketched s) (limits : Limits) :
    ∃ shape, loopShape limits s = .ok shape := by
  obtain ⟨op, hop⟩ := h.opcode
  obtain ⟨pops, hpops⟩ := h.pops
  obtain ⟨gases, hgases⟩ := mapM_ok fun o ho => (h.operands o ho).2
  obtain ⟨operation, hoperation⟩ := h.operation
  obtain ⟨preamble, hpreamble⟩ := h.preamble
  have hgas : ∃ gas, bodyGas s = .ok gas := by
    rw [bodyGas, hgases, Step.staticGas, hop, hpops]
    exact ⟨_, rfl⟩
  have hsize : ∃ size, bodySize s = .ok size := by
    rw [bodySize, hoperation, hpops]
    exact ⟨_, rfl⟩
  obtain ⟨gas, hgas⟩ := hgas
  obtain ⟨size, hsize⟩ := hsize
  rw [LoopProgram.loopShape, hpreamble, hgas, hsize]
  exact ⟨_, rfl⟩

end Sketched

/-! Whether a program can be written. -/

/-- The statement for a step without a function in Yul is its embedded body. -/
theorem yulStatement_eq_verbatim (hfunction : hasYulFunction s = .ok false)
    (hlines : bodyLines s = .ok lines) : yulStatement s = verbatim lines := by
  rw [yulStatement, hfunction, hlines]
  rfl

theorem yulStatement_of_refused (h : Refused s e) : yulStatement s = .error (.compilation e) := by
  obtain ⟨hfunction, lines, hlines, hrefused⟩ := h
  rw [yulStatement_eq_verbatim hfunction hlines, verbatim, hrefused]
  rfl

/-- A step has a statement in Yul, or its body is refused. -/
theorem yulStatement_cases (h : Sketched s) :
    (∃ statement, yulStatement s = .ok statement) ∨ ∃ e, Refused s e := by
  obtain ⟨b, hfunction⟩ := h.hasYulFunction
  cases b with
  | false =>
    obtain ⟨lines, hlines⟩ := h.bodyLines
    cases hcode : compile ("\n".intercalate lines) with
    | error e => exact .inr ⟨e, hfunction, lines, hlines, hcode⟩
    | ok code =>
      left
      rw [yulStatement_eq_verbatim hfunction hlines, verbatim, hcode]
      exact ⟨_, rfl⟩
  | true =>
    obtain ⟨pops, hpops⟩ := h.pops
    obtain ⟨terminal, hterminal⟩ := h.isTerminal
    left
    rw [yulStatement, hfunction, hpops, hterminal]
    dsimp only [bind, Except.bind]
    rw [if_pos rfl]
    split_ifs <;> exact ⟨_, rfl⟩

/-- A program in assembly can be written. -/
theorem Sketched.assembly (h : Sketched s) (limits : Limits) : ∃ d, assembly limits s = .ok d := by
  obtain ⟨lines, hlines⟩ := h.bodyLines
  obtain ⟨terminal, hterminal⟩ := h.isTerminal
  obtain ⟨shape, hshape⟩ := h.loopShape limits
  rw [LoopProgram.assembly, hterminal, hlines, hshape]
  cases terminal <;> exact ⟨_, rfl⟩

/-- A program in Yul can be written if what it embeds can be assembled. -/
theorem Sketched.yul (h : Sketched s) (hbody : ∀ e, ¬ Refused s e)
    (hpreamble : s.preamble ≠ [] → ∃ code, compile ("\n".intercalate s.preamble) = .ok code)
    (limits : Limits) : ∃ d, yul limits s = .ok d := by
  obtain ⟨statement, hstatement⟩ :=
    (yulStatement_cases h).resolve_right fun ⟨e, hrefused⟩ => hbody e hrefused
  obtain ⟨terminal, hterminal⟩ := h.isTerminal
  obtain ⟨shape, hshape⟩ := h.loopShape limits
  rw [LoopProgram.yul, hterminal, hstatement, hshape]
  by_cases hempty : s.preamble = []
  · rw [hempty]
    cases terminal <;> exact ⟨_, rfl⟩
  · obtain ⟨code, hcode⟩ := hpreamble hempty
    rw [if_neg (by simpa using hempty), verbatim, hcode]
    cases terminal <;> exact ⟨_, rfl⟩

/-- A program can be written unless the body of the step is embedded and refused. -/
theorem Sketched.draft (h : Sketched s)
    (hbody : limits.dialect = .yul → ∀ e, ¬ Refused s e)
    (hpreamble : s.preamble ≠ [] → ∃ code, compile ("\n".intercalate s.preamble) = .ok code) :
    ∃ d, draft limits s = .ok d := by
  unfold LoopProgram.draft
  cases hdialect : limits.dialect with
  | asm => exact h.assembly limits
  | yul => exact h.yul (hbody hdialect) hpreamble limits

/-- No Yul program can be written for a step whose body is refused. -/
theorem Sketched.draft_of_refused (h : Sketched s) (hdialect : limits.dialect = .yul)
    (hpreamble : s.preamble = []) (hrefused : Refused s e) :
    LoopProgram.draft limits s = .error (.compilation e) := by
  obtain ⟨terminal, hterminal⟩ := h.isTerminal
  obtain ⟨shape, hshape⟩ := h.loopShape limits
  rw [LoopProgram.draft, hdialect]
  show LoopProgram.yul limits s = _
  rw [LoopProgram.yul, hpreamble, hterminal, hshape, yulStatement_of_refused hrefused]
  cases terminal <;> rfl

/-! Steps whose operands are numbers. -/

end LoopProgram

/-- A step of this operation with natural numbers of moderate length as operands, data only for a
push, and nothing to run beforehand. -/
structure Step.IsNumeric (s : Step) (op : Opcode) : Prop where
  spelled : Opcode.Names s.mnemonic.toList op
  operands : ∀ o ∈ s.operands, ∃ n : Nat, o = .number n ∧ n < 10 ^ (4000 : Nat)
  data : ∀ v, s.immediate? = some v → 0 ≤ v ∧ op.width ≠ 0
  preamble : s.preamble = []

namespace LoopProgram

theorem decimal?_of_lt {n : Nat} (h : n < 10 ^ (4000 : Nat)) :
    Text.decimal? n = .ok (decimal n) := by
  refine decimal?_of_length (le_trans ?_ (by decide : 4000 ≤ maxDigits))
  exact (Nat.length_toDigits_le_iff (by decide) (by decide)).2 h

/-- Words are of moderate length. -/
theorem ceiling_le : (2 : Nat) ^ (256 : Nat) ≤ 10 ^ (4000 : Nat) := by
  have hbase : (2 : Nat) ^ (256 : Nat) ≤ 10 ^ (256 : Nat) := Nat.pow_le_pow_left (by decide) _
  have hexponent : (10 : Nat) ^ (256 : Nat) ≤ 10 ^ (4000 : Nat) := by
    apply Nat.pow_le_pow_right
    · decide
    · decide
  exact hbase.trans hexponent

/-- An operation can be measured if only a push is given data. -/
theorem operationSize_of_names (hname : Opcode.Names s.mnemonic.toList op)
    (hdata : ∀ v, s.immediate? = some v → ∃ n, op = .push n) :
    ∃ size, operationSize s = .ok size := by
  unfold operationSize
  cases hv : s.immediate? with
  | none => exact ⟨1, rfl⟩
  | some v =>
    obtain ⟨n, rfl⟩ := hdata v hv
    cases hname with
    | name hupper =>
      dsimp only
      rw [parseInt_width hupper]
      exact ⟨_, rfl⟩

/-- Such a step can be written and measured. -/
theorem sketched_of_isNumeric (h : s.IsNumeric op) : Sketched s where
  opcode := ⟨op, Step.lookUp_eq_ok_iff.2 (h.spelled.ofMnemonic)⟩
  operands o ho := by
    obtain ⟨n, rfl, hn⟩ := h.operands o ho
    refine ⟨⟨"PUSH " ++ decimal n, ?_⟩, 3, rfl⟩
    rw [operandLine, decimal?_of_lt hn]
    rfl
  operation := operationSize_of_names h.spelled fun v hv =>
    Opcode.exists_push_of_width (h.data v hv).2
  preamble := by
    rw [preambleSize, h.preamble]
    exact ⟨_, rfl⟩

/-- A step that a loop repeats can be written and measured. -/
theorem sketched_of_isLoopable (h : s.IsLoopable op info) : Sketched s where
  opcode := ⟨op, h.opcode⟩
  operands o ho := by
    obtain ⟨line, -, hline, -⟩ := operandLine_ok (h.bare o ho)
    exact ⟨⟨line, hline⟩, operandGas_ok (h.bare o ho)⟩
  operation := operationSize_ok h.data
  preamble := preambleSize_ok h

/-! Fragments. -/

/-- Lines that ask for a segment can be assembled without anything around them. -/
theorem WritesSegment.compile {ls : List String} {q : List Statement} {n m : Nat}
    (h : WritesSegment ls q n m) : ∃ code, compile ("\n".intercalate ls) = .ok code := by
  rw [compile_ok_iff]
  refine ⟨q, h.writes.spells, ?_, fun s hs => (h.isSegment.inline s hs).fits _ _⟩
  rw [Loop.labelNames_of_inline h.isSegment.inline]
  exact .nil

/-- Whatever the limits, a program can be written for a step that a loop repeats. -/
theorem draft_of_isLoopable (limits : Limits) (h : s.IsLoopable op info) :
    ∃ d, draft limits s = .ok d := by
  -- Both the body and the preamble are segments of the source in assembly.
  refine (sketched_of_isLoopable h).draft (fun _ e hrefused => ?_) fun _ => ?_
  · obtain ⟨-, lines, hlines, hcode⟩ := hrefused
    obtain ⟨ls, body, hls, -, hbody⟩ := bodyLines_ok h
    obtain rfl : lines = ls := Except.ok.inj (hlines.symm.trans hls)
    obtain ⟨code, hok⟩ := hbody.compile
    rw [hok] at hcode
    cases hcode
  · obtain ⟨head, hhead, -⟩ := preamble_ok h
    exact hhead.compile

end LoopProgram

/-! The catalog. -/

def StepOperand.isBare : StepOperand → Bool
  | .number n => 0 ≤ n && n < 2 ^ (256 : Nat)
  | .mnemonic text => (Opcode.ofName? text).any fun op =>
      op.width == 0 && op.info?.any fun info => info.inputs == 0 && info.outputs == 1

namespace Step

def hasData (s : Step) : Opcode → Bool
  | .push n => s.immediate?.any fun v => 0 ≤ v && v < 256 ^ (n.val + 1)
  | _ => s.immediate?.isNone

def isLoopable (s : Step) : Bool :=
  (Opcode.ofName? s.mnemonic).any fun op => op.info?.any fun info =>
    !op.isTerminating && op != .jump && op != .jumpi && s.operands.length == info.inputs &&
      s.outputs?.getD (resultsOf op) == info.outputs && s.operands.all (·.isBare) &&
      s.hasData op && (s.name.toList ++ s.category.toList).all (! isLineBreak ·) &&
      (s.preamble == [] || s.preamble == Catalog.returnDataPreamble)

/-- Checks that Yul has a function for the operation of a step, which is given by its name, and that
its operands are words. -/
def isCall (s : Step) : Bool :=
  (Opcode.ofName? s.mnemonic).any fun op => LoopProgram.hasFunction op && s.immediate?.isNone &&
    s.preamble == [] && s.operands.all fun
      | .number n => 0 ≤ n && n < 2 ^ (256 : Nat)
      | .mnemonic _ => false

theorem opcode_of_name (h : op.name = s.mnemonic) : s.opcode = .ok op :=
  lookUp_eq_ok_iff.2 (h ▸ op.ofMnemonic_name)

theorem isBare_of {o : StepOperand} (h : o.isBare = true) : o.IsBare := by
  cases o with
  | number n => simpa [StepOperand.isBare, StepOperand.IsBare] using h
  | mnemonic text =>
    simp only [StepOperand.isBare, Option.any_eq_true, Bool.and_eq_true, beq_iff_eq] at h
    obtain ⟨op, hop, hwidth, info, hinfo, hin, hout⟩ := h
    obtain rfl := Opcode.ofName?_eq_some_iff.1 hop
    exact ⟨op, info, op.ofMnemonic_name, hwidth, hinfo, hin, hout⟩

theorem hasData_of (hname : op.name = s.mnemonic) (h : s.hasData op = true) : s.HasData op := by
  cases op with
  | push n =>
    simp only [hasData, Option.any_eq_true, Bool.and_eq_true, decide_eq_true_eq] at h
    exact ⟨by rw [← hname, Opcode.upper_name], h⟩
  | _ => exact Option.isNone_iff_eq_none.1 h

theorem isLoopable_of (h : s.isLoopable = true) : ∃ op info, s.IsLoopable op info := by
  simp only [isLoopable, Option.any_eq_true, Bool.and_eq_true, Bool.or_eq_true, beq_iff_eq,
    bne_iff_ne, List.all_eq_true, Bool.not_eq_true'] at h
  obtain ⟨op, hop, info, hinfo, h⟩ := h
  obtain ⟨⟨⟨⟨⟨⟨⟨⟨hgoes, hjump⟩, hjumpi⟩, hcount⟩, houtputs⟩, hbare⟩, hdata⟩, htitle⟩,
    hpreamble⟩ := h
  have hname := Opcode.ofName?_eq_some_iff.1 hop
  refine ⟨op, info,
    { opcode := opcode_of_name hname
      known := hinfo
      goesOn := hgoes
      noJump := ⟨hjump, hjumpi⟩
      operands := hcount
      pops := ?_
      bare := fun o ho => isBare_of (hbare o ho)
      data := hasData_of hname hdata
      title := htitle
      preamble := hpreamble }⟩
  unfold Step.pops
  cases hs : s.outputs? with
  | some n => simpa [hs] using houtputs
  | none =>
    rw [hs] at houtputs
    dsimp only
    rw [opcode_of_name hname]
    exact congrArg Except.ok houtputs

theorem isNumeric_of (h : s.isCall = true) :
    ∃ op, s.IsNumeric op ∧ LoopProgram.hasYulFunction s = .ok true := by
  simp only [isCall, Option.any_eq_true, Bool.and_eq_true, beq_iff_eq, List.all_eq_true,
    Option.isNone_iff_eq_none] at h
  obtain ⟨op, hop, ⟨⟨hfunction, hdata⟩, hpreamble⟩, hoperands⟩ := h
  have hname := Opcode.ofName?_eq_some_iff.1 hop
  refine ⟨op,
    { spelled := .name ?_
      operands := fun o ho => ?_
      data := ?_
      preamble := hpreamble }, ?_⟩
  · rw [← hname, Opcode.upper_name]
  · have hword := hoperands o ho
    cases o with
    | mnemonic text => cases hword
    | number n =>
      simp only [Bool.and_eq_true, decide_eq_true_eq] at hword
      obtain ⟨h₀, h₁⟩ := hword
      lift n to Nat using h₀
      exact ⟨n, rfl, lt_of_lt_of_le (by exact_mod_cast h₁) LoopProgram.ceiling_le⟩
  · rw [hdata]
    rintro v ⟨⟩
  · rw [LoopProgram.hasYulFunction, hdata, opcode_of_name hname]
    exact congrArg Except.ok hfunction

/-- A loop can repeat every step of the catalog, but for the ends of a frame, which Yul can call. -/
theorem isLoopable_or_isCall : ∀ s ∈ Catalog.steps, s.isLoopable = true ∨ s.isCall = true := by
  decide +kernel

end Step

namespace LoopProgram

/-- Whatever the limits, a program can be written for every step of the catalog. -/
theorem draft_of_mem_catalog (limits : Limits) (h : s ∈ Catalog.steps) :
    ∃ d, draft limits s = .ok d := by
  rcases Step.isLoopable_or_isCall s h with h | h
  · obtain ⟨op, info, hloopable⟩ := Step.isLoopable_of h
    exact draft_of_isLoopable limits hloopable
  · obtain ⟨op, hnumeric, hfunction⟩ := Step.isNumeric_of h
    refine (sketched_of_isNumeric hnumeric).draft (fun _ e hrefused => ?_) fun hne => ?_
    · rw [hrefused.1] at hfunction
      cases hfunction
    · exact absurd hnumeric.preamble hne

end LoopProgram
end Gasometer
