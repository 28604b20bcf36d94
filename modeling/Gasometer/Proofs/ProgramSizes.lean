import Gasometer.Proofs.Drafts

/-!
# Sizes of programs

How many bytes a program has is told from its step, without assembling it: those of what is run
beforehand, seventeen for the counter, the jump back and the end, and those of the body for each of
its copies. The assembler writes just as many. So a program keeps to the greatest size whenever a
single copy of its body does.
-/
namespace Gasometer
open Assembly Text

-- Powers are those of the core library, also where Mathlib offers its own.
attribute [local instance (high)] instPowNat

variable {s : Step} {op : Opcode} {line : String} {w : List Char} {n : Nat}

/-! Literals. -/

namespace Text

/-- A number without a sign and without needless zeros before it. -/
inductive Literal : List Char → Nat → Prop
  | zero : Literal ['0'] 0
  | decimal {c : Char} {r : List Char} {d n : Nat} (hc : digitOf? 10 c = some d) (hd : d ≠ 0)
      (h : Decimal (c :: r) n) : Literal (c :: r) n
  | hex {x : Char} {r : List Char} {n : Nat} (hx : x = 'x' ∨ x = 'X') (h : Spelled 16 r n) :
      Literal ('0' :: x :: r) n

theorem digitOf?_eq_some {base d : Nat} {c : Char} (h : digitOf? base c = some d) :
    digitValue? (plainChar c) = some d := (Option.filter_eq_some_iff.1 h).1

/-- A digit is no blank, and no comment begins with it. -/
theorem plain_of_digitOf? {base d : Nat} {c : Char} (h : digitOf? base c = some d) :
    isBlank c = false ∧ c ≠ ';' ∧ c ≠ '/' := by
  have hvalue := digitOf?_eq_some h
  have hblank : ∀ k ∈ blankCodes, digitValue? (plainChar (Char.ofNat k)) = none := by
    decide +kernel
  refine ⟨eq_false_of_ne_true fun hc => ?_, ?_, ?_⟩
  · obtain ⟨k, hk, rfl⟩ := exists_blankCode hc
    simp [hblank k hk] at hvalue
  all_goals
    rintro rfl
    revert hvalue
    simp [show digitValue? (plainChar ';') = none by decide,
      show digitValue? (plainChar '/') = none by decide]

theorem Digits.plain {base v u : Nat} (h : Digits base v w u) :
    ∀ c ∈ w, isBlank c = false ∧ c ≠ ';' ∧ c ≠ '/' := by
  induction h with
  | done => simp
  | digit hc _ ih => exact List.forall_mem_cons.2 ⟨plain_of_digitOf? hc, ih⟩
  | underscore hc _ ih =>
    exact List.forall_mem_cons.2 ⟨by decide, List.forall_mem_cons.2 ⟨plain_of_digitOf? hc, ih⟩⟩

theorem Spelled.plain {base : Nat} (h : Spelled base w n) :
    ∀ c ∈ w, isBlank c = false ∧ c ≠ ';' ∧ c ≠ '/' := by
  obtain ⟨hc, hr⟩ := h
  exact List.forall_mem_cons.2 ⟨plain_of_digitOf? hc, hr.plain⟩

/-- The only word of a text begins as the text does. -/
theorem IsWord.prefix_of_words {v r : List Char} (hv : IsWord v) (h : Text.words (v ++ r) = [w]) :
    v <+: w := by
  obtain ⟨b, u, heq, hb, hu⟩ := words_eq_cons h
  have hnil : b = [] := by
    obtain ⟨hne, hnot⟩ := hv
    obtain ⟨c, v, rfl⟩ := List.exists_cons_of_ne_nil hne
    rcases b with _ | ⟨d, b⟩
    · rfl
    · obtain rfl : c = d := (List.cons.inj heq).1
      have hblank := hb c (by simp)
      rw [hnot c (by simp)] at hblank
      cases hblank
  rw [hnil, List.nil_append] at heq
  rcases List.append_eq_append_iff.1 heq with ⟨t, rfl, -⟩ | ⟨t, rfl, rfl⟩
  · exact List.prefix_append v t
  · -- What would follow the word is blank and part of a word at once.
    have ht : t = [] := List.eq_nil_iff_forall_not_mem.2 fun c hc => by
      have hblank := words_eq_nil hu c (List.mem_append_left _ hc)
      rw [hv.2 c (List.mem_append_right _ hc)] at hblank
      cases hblank
    rw [ht, List.append_nil]

namespace Literal

theorem numeral (h : Literal w n) : Numeral w n := by
  cases h with
  | zero => exact .plain ⟨spelled_toDigits (.inl rfl) 0, by decide⟩
  | decimal _ _ h => exact .plain h
  | hex hx h => exact .hex hx h

theorem plain (h : Literal w n) : ∀ c ∈ w, isBlank c = false ∧ c ≠ ';' ∧ c ≠ '/' := by
  cases h with
  | zero => exact List.forall_mem_singleton.2 (by decide)
  | decimal _ _ h => exact h.1.plain
  | hex hx h =>
    have hmark : ∀ x, x = 'x' ∨ x = 'X' → isBlank x = false ∧ x ≠ ';' ∧ x ≠ '/' := by
      rintro x (rfl | rfl) <;> decide
    exact List.forall_mem_cons.2 ⟨by decide, List.forall_mem_cons.2 ⟨hmark _ hx, h.plain⟩⟩

theorem isPlainWord (h : Literal w n) : IsPlainWord w := by
  refine ⟨⟨?_, fun c hc => (h.plain c hc).1⟩, fun c hc => (h.plain c hc).2⟩
  cases h <;> simp

/-- The base of a literal can be read off it. -/
theorem parseInt_marked (h : Literal w n) : parseInt .marked (String.ofList w) = .ok (n : Int) := by
  have hblank : ∀ c ∈ (String.ofList w).toList, isBlank c = false := by
    rw [String.toList_ofList]
    exact fun c hc => (h.plain c hc).1
  cases h with
  | zero => rfl
  | @decimal c r d n hc hd h =>
    -- The first digit is neither a sign nor a zero.
    have hvalue := digitOf?_eq_some hc
    have hother : ∀ x ∈ ['-', '+', '0'], plainChar c ≠ x := by
      rintro x hx heq
      have hnone : ∀ x ∈ ['-', '+', '0'], digitValue? x = none ∨ digitValue? x = some 0 := by
        simp [digitValue?]
      rw [heq] at hvalue
      rcases hnone x hx with h | h <;> simp [h] at hvalue
      exact hd hvalue.symm
    simp only [List.forall_mem_cons] at hother
    have hsign : splitSign ((String.ofList (c :: r)).toList.map plainChar) =
        (false, (c :: r).map plainChar) := by
      simp [splitSign, hother]
    have hmark : splitMark .marked ((c :: r).map plainChar) =
        (10, true, (c :: r).map plainChar) := by
      simp [splitMark, hother]
    exact (parseInt_eq_ok_iff hblank (by simpa using hblank) hsign hmark).2
      ⟨n, h.1, fun _ => h.2, rfl⟩
  | @hex x r n hx h =>
    have hplain : plainChar x = x := by rcases hx with rfl | rfl <;> decide
    have hzero : plainChar '0' = '0' := by decide
    have hmarked : (markedBase? x).filter Base.marked.takesMark = some 16 := by
      rcases hx with rfl | rfl <;> decide
    have hsign : splitSign ((String.ofList ('0' :: x :: r)).toList.map plainChar) =
        (false, '0' :: x :: r.map plainChar) := by
      simp [hzero, hplain, splitSign]
    have hmark : splitMark .marked ('0' :: x :: r.map plainChar) =
        (16, true, r.map plainChar) := by
      obtain ⟨hc, -⟩ := h
      simp [splitMark, hmarked, plainChar_ne_underscore hc]
    exact (parseInt_eq_ok_iff hblank (fun c hc => (h.plain c hc).1) hsign hmark).2
      ⟨n, h, by simp, rfl⟩

end Literal
end Text

/-! Steps that can be written. -/

/-- An operand that is a word, or the mnemonic of an operation other than a push. -/
def StepOperand.IsWritable : StepOperand → Prop
  | .number n => 0 ≤ n ∧ n < 2 ^ (256 : Nat)
  | .mnemonic text => ∃ op, Opcode.ofMnemonic text = .ok op ∧ op.width = 0

/-- A line to be run beforehand: the mnemonic of an operation other than a push, or the push of a
literal without a width. -/
inductive IsPreambleLine : String → Prop
  | mnemonic {line : String} {op : Opcode} (h : Opcode.ofMnemonic line = .ok op)
      (hop : op.width = 0) : IsPreambleLine line
  | push {w : List Char} {n : Nat} (h : Literal w n) (hn : n < 2 ^ (256 : Nat)) :
      IsPreambleLine ("PUSH " ++ String.ofList w)

/-- A step of this operation that does not end its frame and for which a program can be assembled.
It need not leave the stack as it was. -/
structure Step.IsWritable (s : Step) (op : Opcode) : Prop where
  opcode : s.opcode = .ok op
  goesOn : op.isTerminating = false
  operands : ∀ o ∈ s.operands, o.IsWritable
  pops : ∃ n : Nat, s.pops = .ok (n : Int)
  data : s.HasData op
  title : ∀ c ∈ s.name.toList ++ s.category.toList, isLineBreak c = false
  preamble : ∀ line ∈ s.preamble, IsPreambleLine line

namespace LoopProgram

variable {ls ls' : List String} {q r : List Statement}

/-- Lines that ask for statements which mean the same in every program. -/
structure WritesInline (ls : List String) (q : List Statement) : Prop where
  writes : Writes ls q
  inline : ∀ st ∈ q, st.IsInline

namespace WritesInline

theorem nil : WritesInline [] [] := ⟨.nil, by simp⟩

theorem append (h : WritesInline ls q) (h' : WritesInline ls' r) :
    WritesInline (ls ++ ls') (q ++ r) :=
  ⟨h.writes.append h'.writes, List.forall_mem_append.2 ⟨h.inline, h'.inline⟩⟩

theorem replicate (h : WritesInline ls q) (n : Nat) :
    WritesInline (List.replicate n ls).flatten (List.replicate n q).flatten := by
  induction n with
  | zero => exact .nil
  | succ n ih => exact h.append ih

theorem plain (h : Opcode.ofMnemonic line = .ok op) (hop : op.width = 0) :
    WritesInline [line] [.plain op] :=
  ⟨writes_mnemonic h hop, by simpa [Statement.IsInline] using hop⟩

theorem number {i : Int} (h : Writes [line] [.push none (.number i)])
    (hi : 0 ≤ i ∧ i < 2 ^ (256 : Nat)) : WritesInline [line] [.push none (.number i)] :=
  ⟨h, by simpa [Statement.IsInline, Target.Fits] using hi⟩

end WritesInline

theorem pushSize_eq {i : Int} (h : 0 ≤ i) :
    pushSize i = (Statement.push none (.number i)).size := by
  have hnat : i.natAbs = i.toNat := by omega
  rw [pushSize, hnat, Statement.size, Statement.dataWidth]
  push_cast
  rfl

/-- No other operation is written like a push. -/
theorem startsWith_push_of_mnemonic (h : Opcode.ofMnemonic line = .ok op) (hop : op.width = 0) :
    startsWith line.toList "PUSH".toList = false := by
  have hnames := Opcode.ofMnemonic_eq_ok_iff.1 h
  have hwords : words line.toList = [trim line.toList] := by
    rw [← words_trim, hnames.isPlainWord.1.words]
  by_contra hstart
  obtain ⟨r, hr⟩ : "PUSH".toList <+: line.toList :=
    List.isPrefixOf_iff_prefix.1 (eq_true_of_ne_false hstart)
  obtain ⟨r', hr'⟩ : "PUSH".toList <+: trim line.toList := by
    rw [← hr] at hwords ⊢
    exact isPlainWord_push.1.prefix_of_words hwords
  have hupper : upper (trim line.toList) = 'P' :: 'U' :: 'S' :: 'H' :: upper r' := by
    rw [← hr']
    rfl
  cases hnames with
  | name hname => exact Opcode.width_ne_zero_of_name (hname.symm.trans hupper) hop
  | sha3 hname | prevrandao hname =>
    rw [hupper] at hname
    exact absurd hname (by simp)

/-- The size of a line that is run beforehand is told from its text. -/
theorem preambleLine_ok (h : IsPreambleLine line) :
    ∃ st, WritesInline [line] [st] ∧ preambleLineSize line = .ok (st.size : Int) := by
  cases h with
  | mnemonic h hop =>
    refine ⟨.plain _, .plain h hop, ?_⟩
    have hstart : startsWith line.toList ['P', 'U', 'S', 'H'] = false :=
      startsWith_push_of_mnemonic h hop
    simp only [preambleLineSize, hstart]
    rfl
  | @push w n h hn =>
    have hwrites : Writes ["PUSH " ++ String.ofList w] [.push none (.number n)] := by
      refine writes_push_bare (.number ?_) ?_
      · rw [String.toList_ofList]
        exact h.numeral
      · rw [String.toList_ofList]
        exact h.isPlainWord
    have hwords : words ("PUSH " ++ String.ofList w).toList = ["PUSH".toList, w] := by
      rw [← h.isPlainWord.1.words, ← isPlainWord_push.1.words_append_blank (c := ' ') (by decide)]
      simp
    have hstart : startsWith ("PUSH " ++ String.ofList w).toList ['P', 'U', 'S', 'H'] = true := by
      rw [String.toList_append]
      rfl
    refine ⟨_, .number hwrites (by omega), ?_⟩
    rw [← pushSize_eq (Int.natCast_nonneg n)]
    simp only [preambleLineSize, hstart, hwords, if_true, List.getElem?_cons_succ,
      List.getElem?_cons_zero, h.parseInt_marked]
    rfl

/-- What is run beforehand, and its size. -/
theorem preamble_inline (h : ∀ line ∈ ls, IsPreambleLine line) :
    ∃ q, WritesInline ls q ∧
      ∃ sizes, ls.mapM preambleLineSize = .ok sizes ∧ sizes.sum = (span q : Int) := by
  induction ls with
  | nil => exact ⟨[], .nil, [], rfl, rfl⟩
  | cons line ls ih =>
    rw [List.forall_mem_cons] at h
    obtain ⟨st, hfirst, hsize⟩ := preambleLine_ok h.1
    obtain ⟨q, hrest, sizes, hsizes, hsum⟩ := ih h.2
    refine ⟨st :: q, hfirst.append hrest, st.size :: sizes, ?_, ?_⟩
    · rw [List.mapM_cons, hsize, hsizes]
      rfl
    · rw [List.sum_cons, hsum, span_cons]
      push_cast
      rfl

/-! The body. -/

theorem operandLine_inline {o : StepOperand} (h : o.IsWritable) :
    ∃ line st, operandLine o = .ok line ∧ Writes [line] [st] ∧
      st.IsInline ∧ operandSize o = (st.size : Int) := by
  cases o with
  | number i =>
    have hinline := WritesInline.number (writes_decimal h.1 h.2) h
    exact ⟨_, _, operandLine_number h, hinline.writes, by simpa using hinline.inline,
      pushSize_eq h.1⟩
  | mnemonic text =>
    obtain ⟨op, hop, hwidth⟩ := h
    exact ⟨text, .plain op, rfl, writes_mnemonic hop hwidth, hwidth, rfl⟩

theorem operandLines_inline {os : List StepOperand} (h : ∀ o ∈ os, o.IsWritable) :
    ∃ ls q, os.mapM operandLine = .ok ls ∧ WritesInline ls q ∧
      (os.map operandSize).sum = (span q : Int) := by
  obtain ⟨ls, q, hls, hwrites, hq⟩ := operandLines_forall₂ fun o ho => operandLine_inline (h o ho)
  have hboth : (∀ st ∈ q, st.IsInline) ∧ (os.map operandSize).sum = (span q : Int) := by
    clear hls hwrites h
    induction hq with
    | nil => exact ⟨by simp, rfl⟩
    | cons hst _ ih =>
      refine ⟨List.forall_mem_cons.2 ⟨hst.1, ih.1⟩, ?_⟩
      rw [List.map_cons, List.sum_cons, hst.2, ih.2, span_cons]
      push_cast
      rfl
  exact ⟨ls, q, hls, ⟨hwrites, hboth.1⟩, hboth.2⟩

theorem operationLine_inline (h : s.IsWritable op) :
    ∃ st, WritesInline [operationLine s] [st] ∧ operationSize s = .ok (st.size : Int) := by
  unfold operationSize
  rcases data_cases h.data with ⟨n, v, hn, rfl, hname, hv, hlt⟩ | ⟨hwidth, hnone⟩
  · obtain ⟨hwrites, hfits⟩ :=
      writes_operation_push hn (List.append_nil _).symm hname (by simp) hv hlt
    refine ⟨_, ⟨hwrites, by simpa [Statement.IsInline] using hfits⟩, ?_⟩
    rw [hv]
    dsimp only
    rw [parseInt_width hname]
    rfl
  · rw [operationLine, hnone]
    exact ⟨_, .plain (Step.lookUp_eq_ok_iff.1 h.opcode) hwidth, rfl⟩

theorem span_replicate (n : Nat) (q : List Statement) :
    span (List.replicate n q).flatten = n * span q := by
  induction n with
  | zero => simp
  | succ n ih => simp [List.replicate_succ, ih, Nat.succ_mul, Nat.add_comm]

theorem pops_inline (n : Nat) :
    WritesInline (List.replicate n "POP") (List.replicate n (.plain .pop)) := by
  have h := (WritesInline.plain (Opcode.ofMnemonic_name .pop) rfl).replicate n
  rwa [List.flatten_replicate_singleton, List.flatten_replicate_singleton] at h

/-- The body of a step, and its size. -/
theorem body_inline (h : s.IsWritable op) :
    ∃ ls q, bodyLines s = .ok ls ∧ WritesInline ls q ∧ bodySize s = .ok (span q : Int) ∧
      0 < span q := by
  obtain ⟨ls, q, hls, hoperands, hsum⟩ := operandLines_inline
    (fun o ho => h.operands o (List.mem_reverse.1 ho))
  obtain ⟨st, hoperation, hsize⟩ := operationLine_inline h
  obtain ⟨n, hpops⟩ := h.pops
  have hspan : span (List.replicate n (Statement.plain .pop)) = n := by
    simp [span, Statement.size, Statement.dataWidth]
  refine ⟨ls ++ [operationLine s] ++ List.replicate n "POP",
    q ++ [st] ++ List.replicate n (.plain .pop), ?_, ?_, ?_, ?_⟩
  · rw [bodyLines, hls, isTerminal_eq h.opcode h.goesOn, hpops]
    rfl
  · exact (hoperands.append hoperation).append (pops_inline n)
  · rw [List.map_reverse, List.sum_reverse] at hsum
    rw [bodySize, hsize, hpops, hsum, span_append, span_append, hspan]
    simp
    rfl
  · simp only [span_append, span_cons, Statement.size]
    omega

/-! The program. -/

variable {head body : List Statement} {outer unroll : Nat}

/-- A counted loop around a body, which may do anything to the stack. -/
def looping (head body : List Statement) (outer unroll : Nat) : List Statement :=
  head ++ .push (some 4) (.number outer) :: (.label "loop" ::
    ((List.replicate unroll body).flatten ++ (Loop.countdown ++ Loop.ending)))

/-- Besides its copies of the body, a loop has seventeen bytes. -/
theorem span_looping (head body : List Statement) (outer unroll : Nat) :
    span (looping head body outer unroll) = span head + 17 + unroll * span body := by
  have hend : span (Loop.countdown ++ Loop.ending) = 11 := by decide
  rw [looping, span_append, span_cons, span_cons, span_append, span_replicate, hend]
  simp only [Statement.size, Statement.dataWidth]
  omega

theorem labelNames_looping (hhead : ∀ st ∈ head, st.IsInline) (hbody : ∀ st ∈ body, st.IsInline) :
    labelNames (looping head body outer unroll) = ["loop"] := by
  have hcopies : ∀ st ∈ (List.replicate unroll body).flatten, st.IsInline := by
    simpa [List.mem_flatten] using fun st _ hst => hbody st hst
  simp only [looping, Loop.labelNames_append, labelNames, Loop.labelNames_of_inline hhead,
    Loop.labelNames_of_inline hcopies]
  rfl

theorem writes_looping {ls : List String}
    (htitle : ∀ c ∈ s.name.toList ++ s.category.toList, isLineBreak c = false)
    (hhead : Writes s.preamble head) (hbody : Writes ls body) (outer unroll : Int) :
    Writes (("; " ++ remark s) :: s.preamble ++ [counterLine outer, "loop:"] ++
      copies unroll ls ++ countDown) (looping head body outer.toNat unroll.toNat) := by
  have hsource := (writes_title htitle).append <| hhead.append <|
    (writes_counter outer).append <| writes_label.append <|
    (hbody.replicate unroll.toNat).append writes_countDown
  simpa [copies, looping] using hsource

theorem size_encode (q : List Statement) : (encode q).toArray.size = span q := by
  rw [List.size_toArray, encode, length_encode, span]

/-- Without labels nothing but the numbers matters. -/
theorem admissible_inline (h : ∀ st ∈ q, st.IsInline) (widths : Set Nat) :
    Admissible widths q :=
  ⟨by simp [Loop.labelNames_of_inline h], fun st hst => (h st hst).fits _ _⟩

/-- The place of the label fits two bytes if what is run beforehand is not too long. -/
theorem admissible_looping (hhead : ∀ st ∈ head, st.IsInline) (hbody : ∀ st ∈ body, st.IsInline)
    (hspan : span head < 65000) (houter : outer < 256 ^ 4) (widths : Set Nat) :
    Admissible widths (looping head body outer unroll) := by
  have hnames : labelNames (looping head body outer unroll) = ["loop"] :=
    labelNames_looping hhead hbody
  have hnodup : (labelNames (looping head body outer unroll)).Nodup := by simp [hnames]
  have hcounter : (Statement.push (some 4) (.number outer)).IsInline := by
    refine ⟨Int.natCast_nonneg _, ?_, ?_⟩
    · have hle : (256 : Nat) ^ 4 ≤ 2 ^ 256 := by decide
      omega
    · rintro _ ⟨⟩
      exact ⟨by decide, houter⟩
  have hplace : place? "loop" (looping head body outer unroll) = some (span head + 5) := by
    have hsplit : looping head body outer unroll = (head ++ [.push (some 4) (.number outer)]) ++
        .label "loop" :: ((List.replicate unroll body).flatten ++
          (Loop.countdown ++ Loop.ending)) := by simp [looping]
    rw [hsplit] at hnodup ⊢
    rw [place?_append _ _ _ hnodup]
    simp [span, Statement.size, Statement.dataWidth]
  refine ⟨hnodup, fun st hst => ?_⟩
  simp only [looping, Loop.countdown, Loop.ending, List.mem_append, List.mem_cons,
    List.not_mem_nil, or_false] at hst
  rcases hst with hst | rfl | rfl | hst | (rfl | rfl | rfl | rfl | rfl | rfl) | rfl | rfl
  · exact (hhead st hst).fits _ _
  · exact hcounter.fits _ _
  · trivial
  · obtain ⟨copy, hcopy, hst⟩ := List.mem_flatten.1 hst
    rw [List.eq_of_mem_replicate hcopy] at hst
    exact (hbody st hst).fits _ _
  · exact Loop.fits_one (looping head body outer unroll) widths
  · trivial
  · trivial
  · trivial
  · exact ⟨by simp, _, hplace, by simp only [Option.getD_none]; omega⟩
  · trivial
  · trivial
  · trivial

/-- The copies of a body that fit do not take more room than there is. -/
theorem unroll_mul_le {limits : Limits} {room size gas : Int} (hsize : 1 ≤ size)
    (hroom : size ≤ room) : (shapeOf limits room size gas).unroll * size ≤ room := by
  have hfit : room / size * size ≤ room := Int.ediv_mul_le room (by omega)
  have hone : 1 ≤ room / size := (Int.le_ediv_iff_mul_le (by omega)).2 (by omega)
  have hunroll : (shapeOf limits room size gas).unroll ≤ room / size := by
    simp only [shapeOf]
    rw [max_eq_right hsize]
    omega
  exact (Int.mul_le_mul_of_nonneg_right hunroll (by omega)).trans hfit

theorem operandGas_inline {o : StepOperand} (h : o.IsWritable) : ∃ gas, operandGas o = .ok gas := by
  cases o with
  | number i => exact ⟨3, rfl⟩
  | mnemonic text =>
    obtain ⟨op, hop, -⟩ := h
    refine ⟨Step.priceOf op, ?_⟩
    rw [operandGas, Step.lookUp_eq_ok_iff.2 hop]
    rfl

theorem bodyGas_inline (h : s.IsWritable op) : ∃ gas, bodyGas s = .ok gas := by
  obtain ⟨gases, hgases⟩ := mapM_ok fun o ho => operandGas_inline (h.operands o ho)
  obtain ⟨n, hpops⟩ := h.pops
  rw [bodyGas, hgases, Step.staticGas, h.opcode, hpops]
  exact ⟨_, rfl⟩

/-- The size of a program is foretold from its step. Whatever the limits, the program of a step that
does not end its frame can be assembled, if what is run beforehand has less than 65000 bytes; it has
seventeen bytes besides these and the copies of the body, of which there are as many as the shape
says. So the greatest size is kept whenever one copy would keep it. -/
theorem assembly_size (limits : Limits) (h : s.IsWritable op) :
    ∃ preamble : Bytes, assemble ("\n".intercalate s.preamble) = .ok preamble ∧
      (preamble.size < 65000 →
        ∃ (d : Draft) (shape : Shape) (size : Int) (code : Bytes),
          assembly limits s = .ok d ∧ loopShape limits s = .ok shape ∧ d.shape? = some shape ∧
          bodySize s = .ok size ∧ assemble d.code.source = .ok code ∧
          (code.size : Int) = preamble.size + 17 + shape.unroll * size ∧
          (preamble.size + 17 + size ≤ limits.sizeLimit →
            (code.size : Int) ≤ limits.sizeLimit)) := by
  obtain ⟨head, hhead, sizes, hsizes, hsum⟩ := preamble_inline h.preamble
  obtain ⟨ls, body, hls, hbody, hsize, hpos⟩ := body_inline h
  obtain ⟨gas, hgas⟩ := bodyGas_inline h
  have hbefore : assemble ("\n".intercalate s.preamble) = .ok (encode head).toArray :=
    assemble_eq_ok_iff.2 ⟨head, hhead.writes.spells, admissible_inline hhead.inline _, rfl⟩
  refine ⟨_, hbefore, fun hshort => ?_⟩
  rw [size_encode] at hshort ⊢
  let room : Int := limits.sizeLimit - loopBytes - span head
  let shape := shapeOf limits room (span body) gas
  have hshape : loopShape limits s = .ok shape := by
    rw [loopShape, preambleSize, hsizes, hgas, hsize]
    simp only [bind, Except.bind, pure, Except.pure, hsum]
    rfl
  have houter := shape.one_le_outer
  have hunroll := shape.one_le_unroll
  have hmax : shape.outer ≤ maxPasses := min_le_right _ _
  unfold maxPasses at hmax
  let p := looping head body shape.outer.toNat shape.unroll.toNat
  let lines := ("; " ++ remark s) :: s.preamble ++ [counterLine shape.outer, "loop:"] ++
    copies shape.unroll ls ++ countDown
  have hspells : Spells (Text.lines (joinLines lines).toList) p := by
    rw [lines_joinLines (by simp [lines])]
    exact writes_looping h.title hhead.writes hbody.writes shape.outer shape.unroll
  have hadmissible : Admissible {n | n ≤ 160} p :=
    admissible_looping hhead.inline hbody.inline hshort (by omega) _
  have hcode : assemble (joinLines lines) = .ok (encode p).toArray :=
    assemble_eq_ok_iff.2 ⟨p, hspells, hadmissible, rfl⟩
  have hcount : ((encode p).toArray.size : Int) = span head + 17 + shape.unroll * span body := by
    rw [size_encode, span_looping]
    push_cast
    rw [Int.toNat_of_nonneg (by omega)]
  refine ⟨looped lines .asm shape, shape, span body, (encode p).toArray, ?_, hshape, rfl, hsize,
    hcode, hcount, fun hlimit => ?_⟩
  · rw [assembly, isTerminal_eq h.opcode h.goesOn, hshape, hls]
    rfl
  · have hroom : shape.unroll * span body ≤ room :=
      unroll_mul_le (by omega) (by simp only [room, loopBytes]; omega)
    simp only [room, loopBytes] at hroom
    omega

def addToCaller : Step :=
  { name := "add", category := "arithmetic", operands := [.number 300, .mnemonic "caller"],
    preamble := ["PUSH 0x01ff", "PUSH 70000", "MSTORE"] }

def fortyBytes : Limits := { sizeLimit := 40 }

theorem isWritable_addToCaller : addToCaller.IsWritable (.binary .add) := by
  have hopcode : addToCaller.opcode = .ok (.binary .add) :=
    Step.lookUp_eq_ok_iff.2 (by decide +kernel)
  have hcaller : (StepOperand.mnemonic "caller").IsWritable :=
    ⟨.query .caller, by decide +kernel, rfl⟩
  have hhex : IsPreambleLine ("PUSH " ++ String.ofList "0x01ff".toList) := by
    have hspelled : Spelled 16 "01ff".toList 511 :=
      .mk (d := 0) (by decide) <| .digit (d := 1) (by decide) <| .digit (d := 15) (by decide) <|
        .digit (d := 15) (by decide) (.done 511)
    exact .push (.hex (.inl rfl) hspelled) (by decide)
  have hdecimal : IsPreambleLine ("PUSH " ++ String.ofList "70000".toList) := by
    have hspelled : Spelled 10 "70000".toList 70000 := spelled_toDigits (.inl rfl) 70000
    exact .push (.decimal (d := 7) (by decide) (by decide) ⟨hspelled, by decide⟩) (by decide)
  have hstore : IsPreambleLine "MSTORE" := .mnemonic (Opcode.ofMnemonic_name .mstore) rfl
  exact
    { opcode := hopcode
      goesOn := rfl
      operands := List.forall_mem_cons.2 ⟨⟨by decide, by decide⟩, by simpa using hcaller⟩
      pops := ⟨1, by rw [Step.pops, hopcode]; rfl⟩
      data := rfl
      title := forall_mem_of_any (by decide)
      preamble := by simpa [addToCaller] using ⟨hhex, hdecimal, hstore⟩ }

/-- Two copies of this step fit into forty bytes, besides the eight bytes that come first. -/
theorem assembly_size_addToCaller :
    addToCaller.IsWritable (.binary .add) ∧
      ∃ (d : Draft) (code : Bytes), assembly fortyBytes addToCaller = .ok d ∧
        assemble d.code.source = .ok code ∧ (code.size : Int) = 8 + 17 + 2 * 6 ∧
        (code.size : Int) ≤ 40 := by
  obtain ⟨preamble, hpreamble, hsizes⟩ := assembly_size fortyBytes isWritable_addToCaller
  have hbytes : (assemble ("\n".intercalate addToCaller.preamble)).toOption.map Array.size =
      some 8 := by decide +kernel
  rw [hpreamble] at hbytes
  have height : preamble.size = 8 := by simpa [Except.toOption] using hbytes
  have hshort : preamble.size < 65000 := by omega
  obtain ⟨d, shape, size, code, hd, hshape, -, hsize, hcode, hcount, hlimit⟩ := hsizes hshort
  have htwo : (loopShape fortyBytes addToCaller).toOption.map Shape.unroll = some 2 := by
    decide +kernel
  have hsix : (bodySize addToCaller).toOption = some 6 := by decide +kernel
  rw [hshape] at htwo
  rw [hsize] at hsix
  obtain rfl : size = 6 := by simpa [Except.toOption] using hsix
  have hunroll : shape.unroll = 2 := by simpa [Except.toOption] using htwo
  rw [height, hunroll] at hcount
  exact ⟨isWritable_addToCaller, d, code, hd, hcode, hcount,
    hlimit (by rw [height]; decide)⟩

end LoopProgram
end Gasometer
