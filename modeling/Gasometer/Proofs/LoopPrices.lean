import Gasometer.Proofs.LoopSources
import Gasometer.Proofs.SteadyRuns

/-!
# Prices of loops

The price of a loop is told from its step, without running it: that of the body for each of its
copies, twenty-six for the end of each pass, and five for the rest. If the operation of the step is
one of a fixed price, then a run uses just as much gas. It starts with a multiple of the gas limit
that is always enough, also where a single pass costs more than the limit.
-/
namespace Gasometer
open Assembly Text

-- Powers are those of the core library, also where Mathlib offers its own.
attribute [local instance (high)] instPowNat

namespace Loop

/-- A loop whose statements have fixed prices and find room on the stack. -/
structure IsFlat (l : Loop) : Prop where
  head : ∀ s ∈ l.head, s.IsFlat
  body : ∀ s ∈ l.body, s.IsFlat
  head_room : l.head.length ≤ Exec.maxItems
  body_room : 1 + l.body.length ≤ Exec.maxItems

def passPrice (l : Loop) : Int := l.unroll * Assembly.price l.body + 26

def price (l : Loop) : Int := Assembly.price l.head + 5 + l.outer * l.passPrice

theorem passPrice_nonneg (l : Loop) : 0 ≤ l.passPrice := by
  have := Int.mul_nonneg (Int.natCast_nonneg l.unroll) (price_nonneg l.body)
  unfold passPrice
  omega

theorem isOperation_program (l : Loop) : ∀ s ∈ l.program, s.IsOperation := by
  intro s hs
  obtain hs | rfl | hs | hs | hs := mem_program.1 hs
  · exact (l.isSegment_prologue.inline s hs).isOperation
  · trivial
  · exact (l.isSegment_copies.inline s hs).isOperation
  · simp only [countdown, List.mem_cons, List.not_mem_nil, or_false] at hs
    obtain rfl | rfl | rfl | rfl | rfl | rfl := hs
    · exact isOperation_of_fits [] ∅ (fits_one [] ∅)
    · rfl
    · rfl
    · rfl
    · exact ⟨by decide, by decide⟩
    · rfl
  · simp only [ending, List.mem_cons, List.not_mem_nil, or_false] at hs
    obtain rfl | rfl := hs <;> rfl

end Loop

namespace Arrives

variable {rules : CreationRules} {scale : Scale} {m : Machine} {c : Context} {gas : Int}
  {before after : List Statement} {l : Loop} {k : Nat}

/-- The end of a pass lowers the counter and leads back to the label unless it is zero. -/
theorem countdown (hs : m.Starts rules scale) (hcode : c.code.bytes.toList = encode l.program)
    (hk : k < 256 ^ 4) (hp : l.program = before ++ (Loop.countdown ++ after)) (hgas : 25 ≤ gas)
    (h : Arrives rules m c (span before) [((k + 1 : Nat) : Int)] gas) :
    Arrives rules m c (if k = 0 then span (before ++ Loop.countdown) else l.place) [(k : Int)]
      (gas - 25) := by
  have hdest : c.code.isJumpDest l.place = true := by
    have hsplit : l.program = l.prologue ++ .label "loop" :: (l.copies ++
        (Loop.countdown ++ Loop.ending)) := by simp [Loop.program, Loop.pass]
    exact isJumpDest_label hsplit hcode l.isOperation_program
  simp only [Loop.countdown, List.cons_append, List.nil_append] at hp
  have hp₁ := hp.trans (List.append_cons ..)
  have hp₂ := hp₁.trans (List.append_cons ..)
  have hp₃ := hp₂.trans (List.append_cons ..)
  have hp₄ := hp₃.trans (List.append_cons ..)
  have hp₅ := hp₄.trans (List.append_cons ..)
  have hswap : (Opcode.swap 0).info? = some ⟨2, 2, 3, 0⟩ := rfl
  have hdiff : (Opcode.binary .sub).info? = some ⟨2, 1, 3, 0⟩ := rfl
  have hdup : (Opcode.dup 0).info? = some ⟨1, 2, 3, 0⟩ := rfl
  have hjump : Opcode.jumpi.info? = some ⟨2, 0, 10, 0⟩ := rfl
  have hlow : Gas.veryLow = 3 := rfl
  have hmax : Exec.maxItems = 1024 := rfl
  have h₁ := h.pushes hs hcode hp (isOperation_of_fits [] ∅ (Loop.fits_one [] ∅))
    (Loop.fits_one _ ∅) (by simp [hmax]) (by omega)
  have h₂ := h₁.advances hs hcode hp₁ hswap ⟨by simp, by simp [hmax], by dsimp only; omega⟩
    fun _ ha => ha.swap
  have h₃ := h₂.advances hs hcode hp₂ hdiff ⟨by simp, by simp [hmax], by dsimp only; omega⟩
    fun _ ha => ha.sub
  have hone : ((Target.number 1).value l.program : Int) = 1 := rfl
  rw [hone, Loop.wrap_pred hk] at h₃
  have h₄ := h₃.advances hs hcode hp₃ hdup ⟨by simp, by simp [hmax], by dsimp only; omega⟩
    fun _ ha => ha.dup
  have h₅ := h₄.pushes hs hcode hp₄ ⟨by decide, by decide⟩ (l.fits_loop ∅) (by simp [hmax])
    (by dsimp only; omega)
  rw [l.value_loop] at h₅
  have h₆ := h₅.goes hs (byte_at hcode hp₅) hjump ⟨by simp, by simp [hmax], by dsimp only; omega⟩
    (fun _ ha => ha.jumpi) (by simp [hdest])
  have hleft : gas - 3 - 3 - 3 - 3 - 3 - 10 = gas - 25 := by omega
  simpa [hlow, hleft, Loop.countdown, Statement.size, Statement.dataWidth, Nat.add_assoc] using h₆

/-- A pass runs all copies of the body and lowers the counter. -/
theorem pass (hs : m.Starts rules scale) (hflat : l.IsFlat)
    (hcode : c.code.bytes.toList = encode l.program) (hk : k < 256 ^ 4) (hgas : l.passPrice ≤ gas)
    (h : Arrives rules m c l.place [((k + 1 : Nat) : Int)] gas) :
    Arrives rules m c (if k = 0 then span (l.prologue ++ l.pass) else l.place) [(k : Int)]
      (gas - l.passPrice) := by
  have hbody : 0 ≤ (l.unroll : Int) * Assembly.price l.body :=
    Int.mul_nonneg (Int.natCast_nonneg _) (price_nonneg _)
  have hdest : Gas.jumpdest = 1 := rfl
  have hmax : Exec.maxItems = 1024 := rfl
  have hp : l.program = l.prologue ++ ((.label "loop" :: l.copies) ++
      (Loop.countdown ++ Loop.ending)) := by simp [Loop.program, Loop.pass]
  unfold Loop.passPrice at hgas ⊢
  have hlabel := h.label hs hcode hp (by simp [hmax]) (by omega)
  rw [List.cons_append, List.append_cons] at hp
  have hcopies := hlabel.copies hs hcode hp l.isSegment_body hflat.body
    (by simpa using hflat.body_room) (by omega)
  rw [← Loop.copies] at hcopies
  rw [← List.append_assoc] at hp
  have hend := hcopies.countdown hs hcode hk hp (by omega)
  have hleft : gas - 1 - l.unroll * Assembly.price l.body - 25 =
      gas - (l.unroll * Assembly.price l.body + 26) := by omega
  simpa [Loop.pass, hdest, hleft] using hend

/-- A counter makes so many passes. -/
theorem allPasses (hs : m.Starts rules scale) (hflat : l.IsFlat)
    (hcode : c.code.bytes.toList = encode l.program) (hk : k + 1 < 256 ^ 4)
    (hgas : ((k + 1 : Nat) : Int) * l.passPrice ≤ gas)
    (h : Arrives rules m c l.place [((k + 1 : Nat) : Int)] gas) :
    Arrives rules m c (span (l.prologue ++ l.pass)) [0]
      (gas - ((k + 1 : Nat) : Int) * l.passPrice) := by
  induction k generalizing gas with
  | zero => simpa using h.pass hs hflat hcode (by decide) (by simpa using hgas)
  | succ k ih =>
    have hrest : 0 ≤ ((k + 1 : Nat) : Int) * l.passPrice :=
      Int.mul_nonneg (Int.natCast_nonneg _) l.passPrice_nonneg
    rw [Nat.cast_succ (k + 1), Int.add_mul, Int.one_mul] at hgas ⊢
    have hnext : Arrives rules m c l.place [((k + 1 : Nat) : Int)] (gas - l.passPrice) := by
      simpa using h.pass hs hflat hcode (k := k + 1) (by omega) (by omega)
    have hend := ih (by omega) (by omega) hnext
    rwa [Int.sub_sub, Int.add_comm l.passPrice] at hend

/-- A run of a loop of a fixed price that can be paid comes to the last stop. -/
theorem loop (hs : m.Starts rules scale) (hflat : l.IsFlat)
    (hcode : c.code.bytes.toList = encode l.program) (hgas : l.price ≤ gas)
    (h : Arrives rules m c 0 [] gas) :
    ∃ b : Activity, Reaches rules m (b.atop []) ∧ b.frame.context = c ∧
      b.frame.status = .returned ∧ b.frame.gas = gas - l.price := by
  obtain ⟨k, hk⟩ : ∃ k, l.outer = k + 1 := ⟨l.outer - 1, by have := l.outer_pos; omega⟩
  have hlt := l.outer_lt
  have hpasses : 0 ≤ (l.outer : Int) * l.passPrice :=
    Int.mul_nonneg (Int.natCast_nonneg _) l.passPrice_nonneg
  have hlow : Gas.veryLow = 3 := rfl
  have hmax : Exec.maxItems = 1024 := rfl
  unfold Loop.price at hgas ⊢
  -- The head leaves nothing on the stack, and then the counter is pushed.
  have hhead : l.program = [] ++ (l.head ++ (.push (some 4) (.number l.outer) ::
      (l.pass ++ Loop.ending))) := by simp [Loop.program, Loop.prologue]
  have hfirst := price_nonneg l.head
  have h₁ := h.keeps hs hcode hhead l.isSegment_head hflat.head
    (by simpa using hflat.head_room) (by omega)
  have h₂ := h₁.pushes hs hcode hhead (isOperation_of_fits [] ∅ (l.fits_outer [] ∅))
    (l.fits_outer _ ∅) (by simp [hmax]) (by omega)
  have hcounter : Target.value l.program (.number l.outer) = k + 1 := hk
  rw [hcounter] at h₂
  rw [hk] at hgas hpasses ⊢
  have h₃ := h₂.allPasses hs hflat hcode (by omega) (by omega)
  have hpop : l.program = (l.prologue ++ l.pass) ++ .plain .pop :: [.plain .stop] := by
    simp [Loop.program, Loop.ending]
  have hstop := hpop.trans (List.append_cons ..)
  rw [← List.append_nil [0]] at h₃
  have hdrop : Assembly.price [.plain .pop] = 2 := rfl
  obtain ⟨top, htop, h₄⟩ := h₃.segment hs hcode hpop (isSegment_pop 0)
    (List.forall_mem_singleton.2 trivial) rfl (by simp [hmax]) (by omega)
  obtain rfl := List.length_eq_zero_iff.1 htop
  obtain ⟨b, hreach, hcontext, hstatus, hleft⟩ := h₄.stop hs (byte_at hcode hstop) (by simp)
  refine ⟨b, hreach, hcontext, hstatus, hleft.trans ?_⟩
  omega

end Arrives

/-! Launches. -/

/-- A call that returns keeps the gas that is left. -/
theorem Round.result_gasUsed_of_returned {σ : Type} {rules : CreationRules} {b : Activity}
    {gas elapsed : Int} {r : Round σ} (hfault : r.fault = none)
    (hframe : r.frame = (b.finish rules).frame) (hstatus : b.frame.status = .returned)
    (hkind : b.frame.context.kind = .messageCall) :
    (r.result gas elapsed).gasUsed = gas - b.frame.gas := by
  have hkept : (b.finish rules).frame.gas = b.frame.gas := by
    simp [Activity.finish, hstatus, Activity.accept, hkind, Activity.settle, Activity.mapFrame]
  rw [result, hfault, hframe, ← hkept]

/-- A launch begins at the beginning of its code. -/
theorem Meter.arrives (m : Meter) (code : Bytes) (world : World) (gasLimit : Int) :
    Arrives {} (m.opening code world gasLimit) (m.initialFrame code world gasLimit).context 0 []
      (m.initialGas gasLimit) := by
  let a := m.activity code world gasLimit
  have hstart : a.start {} = a.begin_ (a.world.touch a.frame.context.address) :=
    Activity.start_of_value_zero {} rfl rfl
  have hmove : Move {} (a.atop []) ((a.start {}).atop []) := .start [] rfl
  refine ⟨a.start {}, ?_, ?_, .single hmove⟩ <;> rw [hstart]
  · exact ⟨rfl, rfl, rfl, rfl⟩
  · rfl

/-- A launch of a loop of a fixed price that can be paid ends normally and uses just that. -/
theorem Meter.launch_flat {σ : Type} {m : Meter} {l : Loop} {code : Bytes} {world : World}
    {gasLimit : Int} (hcode : code.toList = encode l.program) (hflat : l.IsFlat)
    (hblock : m.block.Sound .natural) (hworld : world.IsNatural)
    (hgas : l.price ≤ m.initialGas gasLimit) (see : Observer σ) (seen : σ) (elapsed : Int) :
    ((m.launch see code world gasLimit seen).result (m.initialGas gasLimit) elapsed).status =
        .normal ∧
      ((m.launch see code world gasLimit seen).result (m.initialGas gasLimit) elapsed).gasUsed =
        l.price := by
  have hhead := price_nonneg l.head
  have hpasses : 0 ≤ (l.outer : Int) * l.passPrice :=
    Int.mul_nonneg (Int.natCast_nonneg _) l.passPrice_nonneg
  have henough : 0 ≤ m.initialGas gasLimit := by
    unfold Loop.price at hgas
    omega
  obtain ⟨k, -, hs⟩ := starts_natural code hblock hworld henough
  have hbytes :
      (m.initialFrame code world gasLimit).context.code.bytes.toList = encode l.program := by
    simpa [initialFrame] using hcode
  obtain ⟨b, hreach, hcontext, hreturned, hleft⟩ :=
    (m.arrives code world gasLimit).loop hs hflat hbytes hgas
  have hkind : b.frame.context.kind = .messageCall := by rw [hcontext]; rfl
  obtain ⟨hfault, hframe⟩ := (m.launch_concludes see code world gasLimit seen).of_isLeft
    (launch_ne_cutOff see seen hblock hworld) hreach (by rw [hreturned]; trivial)
  refine ⟨Round.result_status_of_returned hfault hframe hreturned hkind, ?_⟩
  have hused : ((m.launch see code world gasLimit seen).result (m.initialGas gasLimit)
      elapsed).gasUsed = m.initialGas gasLimit - b.frame.gas :=
    Round.result_gasUsed_of_returned hfault hframe hreturned hkind
  rw [hleft] at hused
  exact hused.trans (by omega)

/-! Steps. -/

/-- A push has data of its width, and no other operation has any. Blanks that break no line may
follow the mnemonic of a push; none come before it, where its width would not be found. -/
def Step.HasPaddedData (s : Step) : Opcode → Prop
  | .push n => (∃ w b, s.mnemonic.toList = w ++ b ∧ upper w = (Opcode.push n).name.toList ∧
      ∀ c ∈ b, isBlank c = true ∧ isLineBreak c = false) ∧
      ∃ v, s.immediate? = some v ∧ 0 ≤ v ∧ v < 256 ^ (n.val + 1)
  | _ => s.immediate? = none

/-- A step whose operation has a fixed price. It is given words, as many as it takes, what it leaves
is dropped, nothing is run beforehand, and nothing is added to its price. -/
structure Step.IsFlat (s : Step) (op : Opcode) (info : OpcodeInfo) : Prop where
  opcode : s.opcode = .ok op
  known : op.info? = some info
  flat : op.IsFlat
  operands : s.operands.length = info.inputs
  words : ∀ o ∈ s.operands, ∃ v, o = .number v ∧ 0 ≤ v ∧ v < 2 ^ (256 : Nat)
  pops : s.pops = .ok (info.outputs : Int)
  data : s.HasPaddedData op
  title : ∀ c ∈ s.name.toList ++ s.category.toList, isLineBreak c = false
  preamble : s.preamble = []
  gasHint : s.gasHint = 0

theorem Opcode.IsFlat.goesOn {op : Opcode} (h : op.IsFlat) : op.isTerminating = false := by
  cases op with
  | unary | binary | ternary | query | calldataload | blockhash | pop | jumpdest | push | dup
  | swap => rfl
  | _ => exact h.elim

theorem Opcode.IsFlat.isPlain {op : Opcode} (h : op.IsFlat) (hwidth : op.width = 0) :
    op.IsPlain := by
  cases op with
  | push n => cases hwidth
  | jump | jumpi => exact h.elim
  | _ => exact h.goesOn

/-- A step of a fixed price is one that a loop repeats, if its mnemonic is spelled exactly. -/
theorem Step.IsFlat.isLoopable {s : Step} {op : Opcode} {info : OpcodeInfo} (h : s.IsFlat op info)
    (hdata : s.HasData op) : s.IsLoopable op info where
  opcode := h.opcode
  known := h.known
  goesOn := h.flat.goesOn
  noJump := by constructor <;> rintro rfl <;> exact h.flat
  operands := h.operands
  pops := h.pops
  bare o ho := by
    obtain ⟨v, rfl, hv⟩ := h.words o ho
    exact hv
  data := hdata
  title := h.title
  preamble := .inl h.preamble

namespace LoopProgram

variable {s : Step} {op : Opcode} {info : OpcodeInfo} {limits : Limits}

/-- The operation of the step costs what its table says. -/
theorem operationLine_flat (h : s.IsFlat op info) :
    ∃ st, WritesSegment [operationLine s] [st] info.inputs info.outputs ∧ st.IsFlat ∧
      st.price = info.gas := by
  have hknown := h.known
  have hplain : op.width = 0 → s.immediate? = none →
      ∃ st, WritesSegment [operationLine s] [st] info.inputs info.outputs ∧ st.IsFlat ∧
        st.price = info.gas := by
    intro hwidth hnone
    have hop := Step.lookUp_eq_ok_iff.1 h.opcode
    rw [operationLine, hnone]
    refine ⟨.plain op, writesSegment_mnemonic hop hwidth hknown (h.flat.isPlain hwidth) 0,
      h.flat, ?_⟩
    simp [Statement.price, Step.priceOf, hknown]
  have hdata := h.data
  cases op with
  | push n =>
    obtain ⟨⟨w, b, hmnemonic, hname, hb⟩, v, hv, h₀, h₁⟩ := hdata
    lift v to Nat using h₀
    obtain ⟨hwrites, hfits⟩ :=
      writes_operation_push n.isLt hmnemonic hname hb hv (by exact_mod_cast h₁)
    cases hknown
    exact ⟨_, ⟨hwrites, isSegment_push hfits 0⟩, trivial, rfl⟩
  | _ => exact hplain rfl hdata

theorem price_of_forall₂ {os : List StepOperand} {q : List Statement}
    (h : List.Forall₂ (fun _ st => PutsItem st ∧ st.IsFlat ∧ st.price = 3) os q) :
    (∀ st ∈ q, st.IsFlat) ∧ price q = 3 * os.length := by
  induction h with
  | nil => exact ⟨by simp, rfl⟩
  | cons hst _ ih =>
    refine ⟨List.forall_mem_cons.2 ⟨hst.2.1, ih.1⟩, ?_⟩
    rw [price_cons, hst.2.2, ih.2, List.length_cons]
    omega

/-- The operands of the step are pushes. -/
theorem operandLines_flat (h : s.IsFlat op info) :
    ∃ ls q, s.operands.reverse.mapM operandLine = .ok ls ∧ WritesSegment ls q 0 info.inputs ∧
      (∀ st ∈ q, st.IsFlat) ∧ q.length = info.inputs ∧ price q = 3 * info.inputs := by
  have hline : ∀ o ∈ s.operands.reverse, ∃ line st, operandLine o = .ok line ∧
      Writes [line] [st] ∧ PutsItem st ∧ st.IsFlat ∧ st.price = 3 := by
    intro o ho
    obtain ⟨v, rfl, hv⟩ := h.words o (List.mem_reverse.1 ho)
    exact ⟨_, _, operandLine_number hv, writes_decimal hv.1 hv.2, putsItem_number hv, trivial, rfl⟩
  obtain ⟨ls, q, hls, hwrites, hq⟩ := operandLines_forall₂ hline
  have hsegment := isSegment_of_putsItem (hq.imp fun _ _ hst => hst.1) 0
  have hlength := hq.length_eq
  have hprices := price_of_forall₂ hq
  rw [List.length_reverse, h.operands] at hlength hsegment hprices
  rw [Nat.zero_add] at hsegment
  exact ⟨ls, q, hls, ⟨hwrites, hsegment⟩, hprices.1, hlength.symm, hprices.2⟩

/-- The body of the step costs what it is told to cost. -/
theorem body_flat (h : s.IsFlat op info) :
    ∃ ls body, bodyLines s = .ok ls ∧ WritesSegment ls body 0 0 ∧ (∀ st ∈ body, st.IsFlat) ∧
      body.length = info.inputs + 1 + info.outputs ∧
      price body = 3 * info.inputs + info.gas + 2 * info.outputs := by
  obtain ⟨ls, q, hls, hoperands, hqflat, hlength, hprice⟩ := operandLines_flat h
  obtain ⟨st, hoperation, hstflat, hstprice⟩ := operationLine_flat h
  have hdrops : price (List.replicate info.outputs (.plain .pop)) = 2 * info.outputs := by
    have hone : price [.plain .pop] = 2 := rfl
    have := price_replicate info.outputs [.plain .pop]
    rw [List.flatten_replicate_singleton, hone] at this
    omega
  refine ⟨ls ++ [operationLine s] ++ List.replicate info.outputs "POP",
    q ++ [st] ++ List.replicate info.outputs (.plain .pop), ?_,
    (hoperands.append hoperation).append (writesSegment_pops _), ?_, ?_, ?_⟩
  · rw [bodyLines, hls, isTerminal_eq h.opcode h.flat.goesOn, h.pops]
    rfl
  · intro st' hst'
    simp only [List.mem_append, List.mem_singleton] at hst'
    rcases hst' with (hst' | rfl) | hst'
    · exact hqflat st' hst'
    · exact hstflat
    · rw [List.eq_of_mem_replicate hst']
      trivial
  · simp [hlength, Nat.add_assoc, Nat.add_comm 1]
  · rw [price_append, price_append, hprice, hdrops, price_cons, price_nil, hstprice]
    omega

theorem bodyGas_flat (h : s.IsFlat op info) :
    bodyGas s = .ok (3 * info.inputs + info.gas + 2 * info.outputs) := by
  have hgases : ∀ os : List StepOperand,
      (∀ o ∈ os, ∃ v, o = .number v ∧ 0 ≤ v ∧ v < 2 ^ (256 : Nat)) →
      os.mapM operandGas = .ok (List.replicate os.length 3) := by
    intro os hos
    induction os with
    | nil => rfl
    | cons o os ih =>
      rw [List.forall_mem_cons] at hos
      obtain ⟨⟨v, rfl, -⟩, hos⟩ := hos
      rw [List.mapM_cons, ih hos]
      rfl
  rw [bodyGas, hgases _ h.words, Step.staticGas, h.opcode, h.pops, h.operands, h.gasHint]
  simp [bind, Except.bind, pure, Except.pure, Except.map, Step.priceOf, h.known]
  omega

/-- The shape is computed from the price of the body. -/
theorem exists_shapeOf {shape : Shape} (h : loopShape limits s = .ok shape) :
    ∃ room size gas, bodyGas s = .ok gas ∧ shape = shapeOf limits room size gas := by
  unfold loopShape at h
  cases hpreamble : preambleSize s with
  | error e => rw [hpreamble] at h; cases h
  | ok preamble =>
    cases hgas : bodyGas s with
    | error e => rw [hpreamble, hgas] at h; cases h
    | ok gas =>
      cases hsize : bodySize s with
      | error e => rw [hpreamble, hgas, hsize] at h; cases h
      | ok size =>
        rw [hpreamble, hgas, hsize] at h
        exact ⟨_, _, gas, rfl, (Except.ok.inj h).symm⟩

/-- As many times as fit, or once. -/
theorem mul_le_max {n x y : Int} (hx : 0 < x) (hn : n ≤ max 1 (y / x)) : n * x ≤ max x y := by
  rcases le_max_iff.1 hn with hone | hfit
  · have := Int.mul_le_mul_of_nonneg_right hone hx.le
    omega
  · have := Int.mul_le_mul_of_nonneg_right hfit hx.le
    have := Int.ediv_mul_le y hx.ne'
    omega

/-- What a loop costs is at most the gas limit, or what a single execution costs, and little
more. -/
theorem shapeOf_price_le {room size gas : Int} (hgas : 1 ≤ gas) :
    let shape := shapeOf limits room size gas
    shape.outer * (shape.unroll * gas + 26) ≤ max limits.gasLimit gas + 26 := by
  intro shape
  have hone : max 1 gas = gas := max_eq_right hgas
  have hunroll : shape.unroll ≤ max 1 (limits.gasLimit / gas) := by
    simp only [shape, shapeOf, hone]
    omega
  have hpos : 0 < shape.unroll * gas + 26 := by
    have := Int.mul_nonneg (Int.le_of_lt shape.one_le_unroll) (Int.le_of_lt hgas)
    omega
  have houter : shape.outer ≤ max 1 (limits.gasLimit / (shape.unroll * gas + 26)) := by
    have hpass : loopGas = 26 := rfl
    simp only [shape, shapeOf, hone, hpass]
    exact min_le_left _ _
  have hbodies := mul_le_max hgas hunroll
  have hpasses := mul_le_max hpos houter
  omega

/-- The price of a loop is told from its step. If the operation of the step has a fixed price, then
its program can be assembled, whatever the limits, and every launch of it with the gas limit that it
was made for ends normally and uses as much gas as the shape and the price of the body say: five for
the whole, twenty-six for each pass, and the price of the body for each execution. -/
theorem assembly_gas (hlimit : 1 ≤ limits.gasLimit) (h : s.IsFlat op info) :
    (s.HasData op → ∃ shape, loopShape limits s = .ok shape) ∧
      ∀ shape : Shape, loopShape limits s = .ok shape →
        ∃ (d : Draft) (gas : Int) (code : Bytes), assembly limits s = .ok d ∧
          d.shape? = some shape ∧ bodyGas s = .ok gas ∧
          Assembly.compile d.code.source = .ok code.toHex ∧
          ∀ {σ : Type} (block : Block) (see : Observer σ) (seen : σ) (world : World)
              (elapsed : Int), block.Sound .natural → world.IsNatural →
            let m : Meter := { gasMultiplier := 300, block := block }
            let result := (m.launch see code world limits.gasLimit seen).result
              (m.initialGas limits.gasLimit) elapsed
            result.status = .normal ∧
              result.gasUsed = 5 + shape.outer * (shape.unroll * gas + 26) := by
  refine ⟨fun hdata => ?_, fun shape hshape => ?_⟩
  · obtain ⟨shape, hshape, -⟩ := loopShape_ok limits (h.isLoopable hdata)
    exact ⟨shape, hshape⟩
  obtain ⟨hinputs, -, houtputs, hpositive, hgas⟩ := h.flat.bounds h.known
  have hbodyGas := bodyGas_flat h
  obtain ⟨room, size, gas, hgasOk, hshapeOf⟩ := exists_shapeOf hshape
  obtain rfl : gas = 3 * info.inputs + info.gas + 2 * info.outputs :=
    Except.ok.inj (hgasOk.symm.trans hbodyGas)
  have hmax : shape.outer ≤ maxPasses := by
    rw [hshapeOf]
    exact min_le_right _ _
  obtain ⟨ls, body, hls, hbody, hflat, hlength, hprice⟩ := body_flat h
  have hhead : WritesSegment s.preamble [] 0 0 := by
    rw [h.preamble]
    exact .nil 0
  obtain ⟨d, l, hd, hloop, hlhead, hlbody, hdshape⟩ := assembly_of_body
    (isTerminal_eq h.opcode h.flat.goesOn) h.title hhead (by decide) hls hbody
    (List.ne_nil_of_length_pos (by omega)) hshape hmax
  obtain ⟨shape', hshape', houter, hunroll⟩ := hloop.shape
  obtain rfl : shape = shape' := Option.some.inj (hdshape.symm.trans hshape')
  obtain ⟨code, hcompile, hcode⟩ := hloop.compiles
  have hlflat : l.IsFlat := by
    have hroom : Exec.maxItems = 1024 := rfl
    refine ⟨?_, ?_, ?_, ?_⟩
    · simp [hlhead]
    · rwa [hlbody]
    · simp [hlhead]
    · rw [hlbody]
      omega
  have htotal : l.price = 5 + shape.outer *
      (shape.unroll * (3 * info.inputs + info.gas + 2 * info.outputs) + 26) := by
    rw [Loop.price, Loop.passPrice, hlhead, hlbody, hprice, price_nil, houter, hunroll]
    omega
  refine ⟨d, _, code, hd, hdshape, hbodyGas, hcompile, ?_⟩
  intro σ block see seen world elapsed hblock hworld m result
  have henough : l.price ≤ m.initialGas limits.gasLimit := by
    have hmost : shape.outer * (shape.unroll * (3 * info.inputs + info.gas + 2 * info.outputs) + 26)
        ≤ max limits.gasLimit (3 * info.inputs + info.gas + 2 * info.outputs) + 26 := by
      rw [hshapeOf]
      exact shapeOf_price_le (by omega)
    rw [htotal]
    show _ ≤ limits.gasLimit * 300
    omega
  have hresult := Meter.launch_flat hcode hlflat hblock hworld henough see seen elapsed
  rw [htotal] at hresult
  exact hresult

def product : Step :=
  { name := "mulmod", category := "arithmetic", operands := [.number 300, .number 7, .number 10] }

theorem isFlat_product : product.IsFlat (.ternary .mulmod) ⟨3, 1, Gas.mid, 0⟩ := by
  have hopcode : product.opcode = .ok (.ternary .mulmod) :=
    Step.lookUp_eq_ok_iff.2 (by decide)
  exact
    { opcode := hopcode
      known := rfl
      flat := trivial
      operands := rfl
      words := by simp [product]
      pops := by rw [Step.pops, hopcode]; rfl
      data := rfl
      title := forall_mem_of_any (by decide)
      preamble := rfl
      gasHint := rfl }

/-- With these limits there is one pass over two copies, which costs 64. -/
theorem assembly_gas_product :
    1 ≤ twoByTwo.gasLimit ∧ product.IsFlat (.ternary .mulmod) ⟨3, 1, Gas.mid, 0⟩ ∧
      ∃ (d : Draft) (code : Bytes), assembly twoByTwo product = .ok d ∧
        Assembly.compile d.code.source = .ok code.toHex ∧
        let result := (({} : Meter).launch .blind code (Fixture.world code) 100 ()).result
          (({} : Meter).initialGas 100) 0
        result.status = .normal ∧ result.gasUsed = 5 + 1 * (2 * 19 + 26) := by
  have hlimit : 1 ≤ twoByTwo.gasLimit := by decide
  obtain ⟨hshapes, hprograms⟩ := assembly_gas hlimit isFlat_product
  obtain ⟨shape, hshape⟩ := hshapes rfl
  obtain ⟨d, gas, code, hd, -, hgas, hcompile, hruns⟩ := hprograms shape hshape
  have hnumbers : (loopShape twoByTwo product).toOption.map (fun s => (s.outer, s.unroll)) =
      some (1, 2) := by decide
  have hprice : (bodyGas product).toOption = some 19 := by decide
  rw [hshape] at hnumbers
  rw [hgas] at hprice
  obtain ⟨houter, hunroll⟩ : shape.outer = 1 ∧ shape.unroll = 2 := by
    simpa [Except.toOption] using hnumbers
  obtain rfl : gas = 19 := by simpa [Except.toOption] using hprice
  have hrun := hruns {} .blind () (Fixture.world code) 0 (Block.sound_default _)
    (Fixture.world_isNatural code)
  rw [houter, hunroll] at hrun
  exact ⟨hlimit, isFlat_product, d, code, hd, hcompile, hrun⟩

end LoopProgram
end Gasometer
