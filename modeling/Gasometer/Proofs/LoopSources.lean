import Gasometer.Proofs.Loops
import Gasometer.Proofs.SourceLines
import Gasometer.Step.Catalog

/-!
# Sources of loops

For every step that is given what it takes, the source that is written for it is that of a loop,
whose body is one execution of the step and whose numbers of passes and of copies are those of the
shape. So it can be assembled, and a run of it that does not end with a halt executes the step as
often as the source says.
-/
namespace Gasometer
open Assembly Text

-- Powers are those of the core library, also where Mathlib offers its own.
attribute [local instance (high)] instPowNat

/-! Steps that are repeated. -/

theorem Step.lookUp_eq_ok_iff {mnemonic : String} {op : Opcode} :
    lookUp mnemonic = .ok op ↔ Opcode.ofMnemonic mnemonic = .ok op := by
  unfold lookUp
  cases Opcode.ofMnemonic mnemonic <;> simp [Except.mapError]

/-- An operand that puts one item on the stack: a word, or an operation that needs no other. -/
def StepOperand.IsBare : StepOperand → Prop
  | .number n => 0 ≤ n ∧ n < 2 ^ (256 : Nat)
  | .mnemonic text => ∃ op info, Opcode.ofMnemonic text = .ok op ∧ op.width = 0 ∧
      op.info? = some info ∧ info.inputs = 0 ∧ info.outputs = 1

/-- A push has data of its width, and no other operation has any. -/
def Step.HasData (s : Step) : Opcode → Prop
  | .push n => upper s.mnemonic.toList = (Opcode.push n).name.toList ∧
      ∃ v, s.immediate? = some v ∧ 0 ≤ v ∧ v < 256 ^ (n.val + 1)
  | _ => s.immediate? = none

/-- A step of this operation that a loop repeats: it is given what it takes, and what it leaves is
dropped. -/
structure Step.IsLoopable (s : Step) (op : Opcode) (info : OpcodeInfo) : Prop where
  opcode : s.opcode = .ok op
  known : op.info? = some info
  goesOn : op.isTerminating = false
  noJump : op ≠ .jump ∧ op ≠ .jumpi
  operands : s.operands.length = info.inputs
  pops : s.pops = .ok (info.outputs : Int)
  bare : ∀ o ∈ s.operands, o.IsBare
  data : s.HasData op
  title : ∀ c ∈ s.name.toList ++ s.category.toList, isLineBreak c = false
  preamble : s.preamble = [] ∨ s.preamble = Catalog.returnDataPreamble

theorem Opcode.isPlain_of_outputs {op : Opcode} {info : OpcodeInfo} (hinfo : op.info? = some info)
    (hwidth : op.width = 0) (hout : info.outputs = 1) : op.IsPlain := by
  cases op with
  | push n => cases hwidth
  | jump | jumpi | stop | ret | revert | selfdestruct => cases hinfo; cases hout
  | invalid => cases hinfo
  | _ => rfl

namespace LoopProgram

variable {line : String} {ls ls' : List String} {p p' : List Statement} {s : Step} {op : Opcode}
  {info : OpcodeInfo}

structure WritesSegment (ls : List String) (q : List Statement) (n m : Nat) : Prop where
  writes : Writes ls q
  isSegment : IsSegment q n m

theorem WritesSegment.nil (n : Nat) : WritesSegment [] [] n n := ⟨.nil, .nil n⟩

theorem WritesSegment.append {q r : List Statement} {n m k : Nat} (h : WritesSegment ls q n m)
    (h' : WritesSegment ls' r m k) : WritesSegment (ls ++ ls') (q ++ r) n k :=
  ⟨h.writes.append h'.writes, h.isSegment.append h'.isSegment⟩

theorem writesSegment_decimal {v : Int} (h : 0 ≤ v ∧ v < 2 ^ (256 : Nat)) (n : Nat) :
    WritesSegment ["PUSH " ++ decimal v] [.push none (.number v)] n (n + 1) :=
  ⟨writes_decimal h.1 h.2, isSegment_push ⟨h.1, h.2, by simp⟩ n⟩

theorem writesSegment_mnemonic (h : Opcode.ofMnemonic line = .ok op) (hwidth : op.width = 0)
    (hinfo : op.info? = some info) (hplain : op.IsPlain) (n : Nat) :
    WritesSegment [line] [.plain op] (info.inputs + n) (info.outputs + n) :=
  ⟨writes_mnemonic h hwidth, isSegment_plain hinfo hplain hwidth n⟩

/-- Each operand is a line and a statement. -/
theorem operandLines_forall₂ {P : StepOperand → Statement → Prop} {os : List StepOperand}
    (h : ∀ o ∈ os, ∃ line st, operandLine o = .ok line ∧ Writes [line] [st] ∧ P o st) :
    ∃ ls q, os.mapM operandLine = .ok ls ∧ Writes ls q ∧ List.Forall₂ P os q := by
  induction os with
  | nil => exact ⟨[], [], rfl, .nil, .nil⟩
  | cons o os ih =>
    rw [List.forall_mem_cons] at h
    obtain ⟨line, st, hline, hfirst, hst⟩ := h.1
    obtain ⟨ls, q, hls, hrest, hq⟩ := ih h.2
    refine ⟨line :: ls, st :: q, ?_, hfirst.append hrest, .cons hst hq⟩
    rw [List.mapM_cons, hline, hls]
    rfl

def PutsItem (st : Statement) : Prop := ∀ n, IsSegment [st] n (n + 1)

/-- So many statements put so many items on the stack. -/
theorem isSegment_of_putsItem {os : List StepOperand} {q : List Statement}
    (h : List.Forall₂ (fun _ st => PutsItem st) os q) (n : Nat) :
    IsSegment q n (n + os.length) := by
  induction h generalizing n with
  | nil => exact .nil n
  | cons hst _ ih =>
    rw [List.length_cons, Nat.add_comm (List.length _), ← Nat.add_assoc]
    exact (hst n).append (ih (n + 1))

theorem putsItem_number {v : Int} (h : 0 ≤ v ∧ v < 2 ^ (256 : Nat)) :
    PutsItem (.push none (.number v)) := isSegment_push ⟨h.1, h.2, by simp⟩

/-- The line of a number. -/
theorem operandLine_number {v : Int} (h : 0 ≤ v ∧ v < 2 ^ (256 : Nat)) :
    operandLine (.number v) = .ok ("PUSH " ++ decimal v) := by
  rw [operandLine, decimal?_ok h.1 h.2]
  rfl

/-- An operand puts one item on the stack. -/
theorem operandLine_ok {o : StepOperand} (h : o.IsBare) :
    ∃ line st, operandLine o = .ok line ∧ Writes [line] [st] ∧ PutsItem st := by
  cases o with
  | number v =>
    exact ⟨_, _, operandLine_number h, writes_decimal h.1 h.2, putsItem_number h⟩
  | mnemonic text =>
    obtain ⟨op, ⟨inputs, outputs, gas, width⟩, hop, hwidth, hinfo, rfl, rfl⟩ := h
    have hplain := Opcode.isPlain_of_outputs hinfo hwidth rfl
    refine ⟨text, .plain op, rfl, writes_mnemonic hop hwidth, fun n => ?_⟩
    have hsegment := isSegment_plain hinfo hplain hwidth n
    rwa [Nat.zero_add, Nat.add_comm] at hsegment

theorem operandLines_ok {os : List StepOperand} (h : ∀ o ∈ os, o.IsBare) (n : Nat) :
    ∃ ls q, os.mapM operandLine = .ok ls ∧ WritesSegment ls q n (n + os.length) := by
  obtain ⟨ls, q, hls, hwrites, hq⟩ := operandLines_forall₂ fun o ho => operandLine_ok (h o ho)
  exact ⟨ls, q, hls, hwrites, isSegment_of_putsItem hq n⟩

/-- The operation of a step is a push with data that fits it, or an operation without data. -/
theorem data_cases (h : s.HasData op) :
    (∃ n v : Nat, ∃ hn : n < 32, op = .push ⟨n, hn⟩ ∧
      upper s.mnemonic.toList = (Opcode.push ⟨n, hn⟩).name.toList ∧
      s.immediate? = some (v : Int) ∧ v < 256 ^ (n + 1)) ∨
    (op.width = 0 ∧ s.immediate? = none) := by
  cases op with
  | push n =>
    obtain ⟨hname, v, hv, h₀, h₁⟩ := h
    lift v to Nat using h₀
    exact .inl ⟨n, v, n.isLt, rfl, hname, hv, by exact_mod_cast h₁⟩
  | _ => exact .inr ⟨rfl, h⟩

theorem isPlain_of_isLoopable (h : s.IsLoopable op info) (hwidth : op.width = 0) : op.IsPlain := by
  have hgoes := h.goesOn
  cases op with
  | push n => cases hwidth
  | jump => exact absurd rfl h.noJump.1
  | jumpi => exact absurd rfl h.noJump.2
  | _ => exact hgoes

/-- A push with its data. -/
theorem writes_operation_push {n v : Nat} {w b : List Char} (hn : n < 32)
    (hmnemonic : s.mnemonic.toList = w ++ b) (hname : upper w = (Opcode.push ⟨n, hn⟩).name.toList)
    (hb : ∀ c ∈ b, isBlank c = true ∧ isLineBreak c = false)
    (hv : s.immediate? = some (v : Int)) (hlt : v < 256 ^ (n + 1)) :
    Writes [operationLine s] [.push (some (n + 1)) (.number v)] ∧
      (Target.number v).Fits [] ∅ (some (n + 1)) := by
  have hline :
      operationLine s = String.ofList (w ++ (b ++ ' ' :: '0' :: 'x' :: hexDigits 0 v)) := by
    rw [operationLine, hv]
    simp [← String.toList_inj, hex, hexDigits, hmnemonic]
  have hceiling : v < 2 ^ (256 : Nat) := by
    rw [show (2 : Nat) ^ (256 : Nat) = 256 ^ 32 from rfl]
    exact lt_of_lt_of_le hlt (Nat.pow_le_pow_right (by decide) hn)
  have hword : IsPlainWord w := Opcode.Names.isPlainWord (.name hname)
  refine ⟨?_, Int.natCast_nonneg v, by exact_mod_cast hceiling, ?_⟩
  · rw [hline]
    exact writes_hex 0 (saysPush_of_upper hname) hword hb
  · rintro _ ⟨⟩
    exact ⟨by omega, hlt⟩

/-- The operation of a step. -/
theorem operationLine_ok (h : s.IsLoopable op info) :
    ∃ st, WritesSegment [operationLine s] [st] info.inputs info.outputs := by
  have hknown := h.known
  rcases data_cases h.data with ⟨n, v, hn, rfl, hname, hv, hlt⟩ | ⟨hwidth, hnone⟩
  · obtain ⟨hwrites, hfits⟩ :=
      writes_operation_push hn (List.append_nil _).symm hname (by simp) hv hlt
    cases hknown
    exact ⟨_, hwrites, isSegment_push hfits 0⟩
  · have hop := Step.lookUp_eq_ok_iff.1 h.opcode
    rw [operationLine, hnone]
    have hplain := isPlain_of_isLoopable h hwidth
    exact ⟨_, writesSegment_mnemonic hop hwidth hknown hplain 0⟩

theorem writesSegment_pop (n : Nat) : WritesSegment ["POP"] [.plain .pop] (n + 1) n :=
  ⟨writes_mnemonic (Opcode.ofMnemonic_name .pop) rfl, isSegment_pop n⟩

theorem writesSegment_pops (n : Nat) :
    WritesSegment (List.replicate n "POP") (List.replicate n (.plain .pop)) n 0 := by
  induction n with
  | zero => exact .nil 0
  | succ n ih => exact (writesSegment_pop n).append ih

theorem isTerminal_eq (hop : s.opcode = .ok op) (hgoes : op.isTerminating = false) :
    s.isTerminal = .ok false := by
  rw [Step.isTerminal, hop, ← hgoes]
  rfl

/-- The lines of a body ask for statements that leave the stack as it was. -/
theorem bodyLines_ok (h : s.IsLoopable op info) :
    ∃ ls body, bodyLines s = .ok ls ∧ body ≠ [] ∧ WritesSegment ls body 0 0 := by
  obtain ⟨ls, q, hls, hoperands⟩ := operandLines_ok
    (fun o ho => h.bare o (List.mem_reverse.1 ho)) 0
  obtain ⟨st, hoperation⟩ := operationLine_ok h
  rw [List.length_reverse, h.operands, Nat.zero_add] at hoperands
  refine ⟨ls ++ [operationLine s] ++ List.replicate info.outputs "POP",
    q ++ [st] ++ List.replicate info.outputs (.plain .pop), ?_, by simp,
    (hoperands.append hoperation).append (writesSegment_pops _)⟩
  rw [bodyLines, hls, isTerminal_eq h.opcode h.goesOn, h.pops]
  rfl

/-! The shape. -/

theorem mapM_ok {α β : Type} {f : α → Except Problem β} {as : List α}
    (h : ∀ a ∈ as, ∃ b, f a = .ok b) : ∃ bs, as.mapM f = .ok bs := by
  induction as with
  | nil => exact ⟨[], rfl⟩
  | cons a as ih =>
    rw [List.forall_mem_cons] at h
    obtain ⟨b, hb⟩ := h.1
    obtain ⟨bs, hbs⟩ := ih h.2
    refine ⟨b :: bs, ?_⟩
    rw [List.mapM_cons, hb, hbs]
    rfl

theorem operandGas_ok {o : StepOperand} (h : o.IsBare) : ∃ gas, operandGas o = .ok gas := by
  cases o with
  | number v => exact ⟨3, rfl⟩
  | mnemonic text =>
    obtain ⟨op, -, hop, -⟩ := h
    refine ⟨Step.priceOf op, ?_⟩
    rw [operandGas, Step.lookUp_eq_ok_iff.2 hop]
    rfl

theorem bodyGas_ok (h : s.IsLoopable op info) : ∃ gas, bodyGas s = .ok gas := by
  obtain ⟨gases, hgases⟩ := mapM_ok fun o ho => operandGas_ok (h.bare o ho)
  have hgas : s.staticGas = .ok (Step.priceOf op) := by rw [Step.staticGas, h.opcode]; rfl
  refine ⟨gases.sum + Step.priceOf op + s.gasHint + 2 * info.outputs, ?_⟩
  rw [bodyGas, hgases, hgas, h.pops]
  rfl

theorem operationSize_ok (h : s.HasData op) : ∃ size, operationSize s = .ok size := by
  unfold operationSize
  rcases data_cases h with ⟨n, v, hn, rfl, hname, hv, -⟩ | ⟨-, hnone⟩
  · rw [hv]
    dsimp only
    rw [parseInt_width hname]
    exact ⟨_, rfl⟩
  · rw [hnone]
    exact ⟨1, rfl⟩

theorem bodySize_ok (h : s.IsLoopable op info) : ∃ size, bodySize s = .ok size := by
  obtain ⟨size, hsize⟩ := operationSize_ok h.data
  refine ⟨(s.operands.map operandSize).sum + size + info.outputs, ?_⟩
  rw [bodySize, hsize, h.pops]
  rfl

theorem preambleSize_ok (h : s.IsLoopable op info) : ∃ size, preambleSize s = .ok size := by
  unfold preambleSize
  rcases h.preamble with hp | hp <;> rw [hp] <;> exact ⟨_, rfl⟩

/-- Whatever the limits, a step has a shape, whose counter has four bytes. -/
theorem loopShape_ok (limits : Limits) (h : s.IsLoopable op info) :
    ∃ shape, loopShape limits s = .ok shape ∧ shape.outer ≤ maxPasses := by
  obtain ⟨preamble, hpreamble⟩ := preambleSize_ok h
  obtain ⟨gas, hgas⟩ := bodyGas_ok h
  obtain ⟨size, hsize⟩ := bodySize_ok h
  refine ⟨shapeOf limits (limits.sizeLimit - loopBytes - preamble) size gas, ?_, min_le_right _ _⟩
  rw [loopShape, hpreamble, hgas, hsize]
  rfl

/-! The whole source. -/

/-- The call of the returning contract leaves the stack as it was. -/
theorem writesSegment_returnDataPreamble : ∃ head,
    WritesSegment Catalog.returnDataPreamble head 0 0 ∧ span head < 256 := by
  have hsize := writesSegment_decimal (v := 32) (by decide) 0
  have hzero := writesSegment_decimal (v := 0) (by decide)
  have hto := writesSegment_decimal (v := Fixture.returningNumber) (by decide) 4
  have hgas := Opcode.ofMnemonic_name (.query .gas)
  have hcall := Opcode.ofMnemonic_name (.call .staticcall)
  have hgas := writesSegment_mnemonic hgas rfl rfl rfl 5
  have hcall := writesSegment_mnemonic hcall rfl rfl rfl 0
  refine ⟨_, hsize.append <| (hzero 1).append <| (hzero 2).append <| (hzero 3).append <|
    hto.append <| hgas.append <| hcall.append (writesSegment_pop 0), ?_⟩
  decide

/-- What is run beforehand leaves the stack as it was. -/
theorem preamble_ok (h : s.IsLoopable op info) :
    ∃ head, WritesSegment s.preamble head 0 0 ∧ span head < 256 := by
  rcases h.preamble with hp | hp
  · rw [hp]
    exact ⟨[], .nil 0, by decide⟩
  · rw [hp]
    exact writesSegment_returnDataPreamble

/-- The name and the category stand in a remark. -/
theorem writes_title (h : ∀ c ∈ s.name.toList ++ s.category.toList, isLineBreak c = false) :
    Writes ["; " ++ remark s] [] := by
  have hwords : ∀ text ∈ ["cartevm benchmark: ", " (", ")"],
      text.toList.any isLineBreak = false := by decide
  have hremark : ∀ c ∈ (remark s).toList, isLineBreak c = false := by
    intro c hc
    unfold remark at hc
    simp only [String.toList_append, List.mem_append] at hc
    rcases hc with (((hc | hc) | hc) | hc) | hc
    · exact forall_mem_of_any (hwords "cartevm benchmark: " (by simp)) c hc
    · exact h c (List.mem_append_left _ hc)
    · exact forall_mem_of_any (hwords " (" (by simp)) c hc
    · exact h c (List.mem_append_right _ hc)
    · exact forall_mem_of_any (hwords ")" (by simp)) c hc
  exact writes_remark hremark

/-- The line that pushes the number of passes. -/
theorem writes_counter (outer : Int) :
    Writes [counterLine outer] [.push (some 4) (.number outer.toNat)] := by
  have hline : counterLine outer = String.ofList ("PUSH4".toList ++ ' ' :: '0' :: 'x' ::
      hexDigits 8 outer.toNat) := by simp [counterLine, ← String.toList_inj]
  have hpush : upper "PUSH4".toList = (Opcode.push 3).name.toList := by decide
  have hword : IsPlainWord "PUSH4".toList :=
    isPlainWord_of_isAlphanum (by decide) (List.all_eq_true.1 (by decide))
  rw [hline]
  exact writes_hex (b := []) 8 (saysPush_of_upper hpush) hword (by simp)

/-- The line of the label. -/
theorem writes_label : Writes ["loop:"] [.label "loop"] := by
  have hlines : Text.lines ("loop:".toList ++ ['\n']) = ["loop:".toList] := by decide
  have hwords : words (uncommented "loop:".toList) = ["loop".toList ++ [':']] := by decide
  have hname : IsLabelName "loop".toList := ⟨by decide, List.all_eq_true.1 (by decide)⟩
  rw [writes_singleton, hlines]
  exact .cons (by rw [hwords]; exact .label hname) .nil

/-- The end of a pass and of the program. -/
theorem writes_countDown : Writes countDown (Loop.countdown ++ Loop.ending) := by
  have hdecimal : "PUSH 1" = "PUSH " ++ decimal 1 := by decide
  have hone : Writes ["PUSH 1"] [.push none (.number 1)] := by
    rw [hdecimal]
    exact writes_decimal (by decide) (by decide)
  have hswap : Writes ["SWAP1"] [.plain (.swap 0)] :=
    writes_mnemonic (Opcode.ofMnemonic_name (.swap 0)) rfl
  have hsub : Writes ["SUB"] [.plain (.binary .sub)] :=
    writes_mnemonic (Opcode.ofMnemonic_name (.binary .sub)) rfl
  have hdup : Writes ["DUP1"] [.plain (.dup 0)] :=
    writes_mnemonic (Opcode.ofMnemonic_name (.dup 0)) rfl
  have hline : "PUSH @loop" = "PUSH " ++ "@loop" := by decide
  have hword : IsPlainWord "@loop".toList := ⟨⟨by decide, forall_mem_of_any (by decide)⟩, by simp⟩
  have hplace : Writes ["PUSH @loop"] [.push none (.label "loop")] := by
    rw [hline]
    exact writes_push_bare (.label "loop".toList) hword
  have hjump : Writes ["JUMPI"] [.plain .jumpi] :=
    writes_mnemonic (Opcode.ofMnemonic_name .jumpi) rfl
  have hpop : Writes ["POP"] [.plain .pop] :=
    writes_mnemonic (Opcode.ofMnemonic_name .pop) rfl
  have hstop : Writes ["STOP"] [.plain .stop] :=
    writes_mnemonic (Opcode.ofMnemonic_name .stop) rfl
  exact hone.append <| hswap.append <| hsub.append <| hdup.append <| hplace.append <|
    hjump.append <| hpop.append hstop

/-- A draft for this loop around a step. -/
structure IsLoopOf (d : Draft) (s : Step) (l : Loop) : Prop where
  source : Spells (Text.lines d.code.source.toList) l.program
  head : Writes s.preamble l.head
  body : ∃ ls, bodyLines s = .ok ls ∧ Writes ls l.body
  shape : ∃ shape, d.shape? = some shape ∧ shape.outer = l.outer ∧ shape.unroll = l.unroll
  totalLoops : d.code.totalLoops = l.outer * l.unroll

/-- Such a draft is assembled to the program of the loop. -/
theorem IsLoopOf.compiles {d : Draft} {l : Loop} (h : IsLoopOf d s l) :
    ∃ code : Bytes, Assembly.compile d.code.source = .ok code.toHex ∧
      code.toList = encode l.program := by
  have hassemble : assemble d.code.source = .ok (encode l.program).toArray :=
    assemble_eq_ok_iff.2 ⟨l.program, h.source, l.admissible _, rfl⟩
  exact ⟨_, compile_eq_ok_iff.2 ⟨_, hassemble, rfl⟩, rfl⟩

/-- A source with this body and this shape is that of a loop. -/
theorem assembly_of_body {limits : Limits} {ls : List String} {head body : List Statement}
    {shape : Shape} (hterminal : s.isTerminal = .ok false)
    (htitle : ∀ c ∈ s.name.toList ++ s.category.toList, isLineBreak c = false)
    (hhead : WritesSegment s.preamble head 0 0) (hspan : span head < 256)
    (hls : bodyLines s = .ok ls) (hbody : WritesSegment ls body 0 0) (hne : body ≠ [])
    (hshape : loopShape limits s = .ok shape) (hmax : shape.outer ≤ maxPasses) :
    ∃ d l, assembly limits s = .ok d ∧ IsLoopOf d s l ∧ l.head = head ∧ l.body = body ∧
      d.shape? = some shape := by
  have houter := shape.one_le_outer
  have hunroll := shape.one_le_unroll
  unfold maxPasses at hmax
  let l : Loop :=
    { head := head
      body := body
      outer := shape.outer.toNat
      unroll := shape.unroll.toNat
      isSegment_head := hhead.isSegment
      isSegment_body := hbody.isSegment
      span_head_lt := hspan
      body_ne_nil := hne
      outer_pos := by omega
      outer_lt := by omega }
  have hcounter : Writes [counterLine shape.outer] [.push (some 4) (.number l.outer)] :=
    writes_counter shape.outer
  have hsource := (writes_title htitle).append <| hhead.writes.append <| hcounter.append <|
    writes_label.append <| (hbody.writes.replicate l.unroll).append writes_countDown
  let lines := ("; " ++ remark s) :: s.preamble ++ [counterLine shape.outer, "loop:"] ++
    copies shape.unroll ls ++ countDown
  have hlines : Writes lines l.program := by
    simpa [lines, copies, l, Loop.program, Loop.prologue, Loop.pass, Loop.copies] using hsource
  have houter : shape.outer = l.outer := (Int.toNat_of_nonneg (by omega)).symm
  have hunroll : shape.unroll = l.unroll := (Int.toNat_of_nonneg (by omega)).symm
  refine ⟨looped lines .asm shape, l, ?_, ⟨?_, hhead.writes, ⟨ls, hls, hbody.writes⟩,
    ⟨shape, rfl, houter, hunroll⟩, ?_⟩, rfl, rfl, rfl⟩
  · rw [assembly, hterminal, hshape, hls]
    rfl
  · have hjoin : Text.lines (joinLines lines).toList = textLines lines :=
      lines_joinLines (by simp [lines])
    change Spells (Text.lines (joinLines lines).toList) l.program
    rw [hjoin]
    exact hlines
  · change shape.outer * shape.unroll = _
    rw [houter, hunroll]

/-- The source of a step is that of a loop. -/
theorem assembly_ok (limits : Limits) (h : s.IsLoopable op info) :
    ∃ d l, assembly limits s = .ok d ∧ IsLoopOf d s l := by
  obtain ⟨head, hhead, hspan⟩ := preamble_ok h
  obtain ⟨ls, body, hls, hne, hbody⟩ := bodyLines_ok h
  obtain ⟨shape, hshape, hmax⟩ := loopShape_ok limits h
  obtain ⟨d, l, hd, hloop, -⟩ := assembly_of_body (isTerminal_eq h.opcode h.goesOn) h.title hhead
    hspan hls hbody hne hshape hmax
  exact ⟨d, l, hd, hloop⟩

/-- The source of a step that is given what it takes can be assembled, whatever the limits. In every
run of it that does not end with a halt, the first frame goes through the course of the loop: it
ends normally at the last stop, has come to the label once in each pass, and has executed the body
as often as the source says. -/
theorem assembly_executes (limits : Limits) (h : s.IsLoopable op info) :
    ∃ (d : Draft) (l : Loop) (code : Bytes), assembly limits s = .ok d ∧ IsLoopOf d s l ∧
      Assembly.compile d.code.source = .ok code.toHex ∧ code.toList = encode l.program ∧
      ∀ {σ : Type} (m : Meter) (see : Observer σ) (seen : σ) (world : World)
          (gasLimit elapsed : Int),
        let result := (m.launch see code world gasLimit seen).result (m.initialGas gasLimit) elapsed
        let visits := (m.launch .trail code world gasLimit {}).seen.visits
        result.status ≠ .exceptionalHalt →
          result.status = .normal ∧ visits = l.course ∧
            visits.getLast? = some (code.size - 1, Opcode.stop.byte) ∧
            visits.countP (fun v => v.1 = l.place) = l.outer ∧
            (visits.countP (fun v => l.IsStart v) : Int) = d.code.totalLoops := by
  obtain ⟨d, l, hd, hloop⟩ := assembly_ok limits h
  obtain ⟨code, hcompile, hcode⟩ := hloop.compiles
  have hsize : code.size = span l.program := by
    rw [← Array.length_toList, hcode, encode, length_encode, span]
  refine ⟨d, l, code, hd, hloop, hcompile, hcode, ?_⟩
  intro σ m see seen world gasLimit elapsed result visits hstatus
  have hsame : result = (m.launch .trail code world gasLimit {}).result (m.initialGas gasLimit)
      elapsed := m.launch_result_eq see .trail code world gasLimit seen {} _ elapsed
  rw [hsame] at hstatus ⊢
  obtain ⟨hnormal, hvisits⟩ := m.launch_loop hcode world gasLimit elapsed hstatus
  have hcourse : visits = l.course := hvisits
  rw [hcourse, hsize, hloop.totalLoops, l.countP_label, l.countP_starts]
  exact ⟨hnormal, rfl, l.getLast?_course, rfl, Int.natCast_mul _ _⟩

/-- A step that needs the call of its preamble. -/
def returnDataSize : Step :=
  { Catalog.step "RETURNDATASIZE" "environment" [] with preamble := Catalog.returnDataPreamble }

def twoByTwo : Limits := { gasLimit := 100, maxUnroll := 2 }

def returnDataSizeLoop : Bytes :=
  #[0x60, 0x20, 0x60, 0x00, 0x60, 0x00, 0x60, 0x00, 0x62, 0x0c, 0xa1, 0x1e, 0x5a, 0xfa, 0x50, 0x63,
    0x00, 0x00, 0x00, 0x02, 0x5b, 0x3d, 0x50, 0x3d, 0x50, 0x60, 0x01, 0x90, 0x03, 0x80, 0x61, 0x00,
    0x14, 0x57, 0x50, 0x00]

theorem isLoopable_returnDataSize :
    returnDataSize.IsLoopable (.query .returndatasize) ⟨0, 1, Gas.base, 0⟩ := by
  have hopcode : returnDataSize.opcode = .ok (.query .returndatasize) :=
    Step.lookUp_eq_ok_iff.2 (Opcode.ofMnemonic_name (.query .returndatasize))
  exact
    { opcode := hopcode
      known := rfl
      goesOn := rfl
      noJump := by decide
      operands := rfl
      pops := by rw [Step.pops, hopcode]; rfl
      bare := by rintro o ⟨⟩
      data := rfl
      title := forall_mem_of_any (by decide)
      preamble := .inr rfl }

/-- After a call of the returning contract the step is executed four times. -/
theorem assembly_executes_returnDataSize :
    let world := Fixture.world returnDataSizeLoop
    ∃ (d : Draft) (l : Loop),
      returnDataSize.IsLoopable (.query .returndatasize) ⟨0, 1, Gas.base, 0⟩ ∧
      assembly twoByTwo returnDataSize = .ok d ∧
      Assembly.compile d.code.source = .ok returnDataSizeLoop.toHex ∧
      ((({} : Meter).launch .blind returnDataSizeLoop world 100 ()).result
        (({} : Meter).initialGas 100) 0).status = .normal ∧
      (({} : Meter).launch .trail returnDataSizeLoop world 100 {}).seen.visits.countP
        (fun v => l.IsStart v) = 4 := by
  intro world
  have hnormal : ((({} : Meter).launch .blind returnDataSizeLoop world 100 ()).result
      (({} : Meter).initialGas 100) 0).status = .normal := by decide +kernel
  have hcode : (assembly twoByTwo returnDataSize).toOption.map
      (fun d => ((Assembly.assemble d.code.source).toOption, d.code.totalLoops)) =
      some (some returnDataSizeLoop, 4) := by decide +kernel
  obtain ⟨d, l, code, hd, hloop, hcompile, hbytes, hruns⟩ :=
    assembly_executes twoByTwo isLoopable_returnDataSize
  have hassemble := assemble_eq_ok_iff.2 ⟨l.program, hloop.source, l.admissible _, hbytes⟩
  simp only [hd, hassemble, Except.toOption, Option.map_some, Option.some.injEq, Prod.mk.injEq]
    at hcode
  obtain ⟨rfl, htotal⟩ := hcode
  obtain ⟨-, -, -, -, hcount⟩ := hruns {} .blind () world 100 0 (by rw [hnormal]; decide)
  rw [htotal] at hcount
  exact ⟨d, l, isLoopable_returnDataSize, hd, hcompile, hnormal, by exact_mod_cast hcount⟩

end LoopProgram
end Gasometer
