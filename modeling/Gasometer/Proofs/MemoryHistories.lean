import Gasometer.Proofs.Allowances
import Gasometer.Proofs.MemoryAccesses
import Gasometer.Proofs.Records

/-!
# Histories of memories

What a frame has done so far is kept beside the machine: the operations that it has executed, and
the ends of the frames that it has opened, the latest first. The memory of a frame holds what was
last written to it according to its history, and it has the words and has cost the price that its
history says.

This takes a run of natural numbers. A range that begins below zero counts from the end of the
memory, so that a write to it can put bytes into a memory that no expansion has prepared.
-/
namespace Gasometer

/-- What may happen to the memory of a frame. -/
inductive Happening
  /-- The frame has executed an operation, which may have opened another frame. -/
  | operation (before : Activity) (op : Opcode) (child? : Option Frame) (after : Activity)
  /-- A frame that was opened has come to its end, and its opener goes on. -/
  | completion (opener child : Frame)

/-- What has happened to the memory of a frame, the latest first. -/
abbrev History := List Happening

/-- What the end of a frame writes to the memory of its opener: the first bytes of the output, as
many as were asked for. -/
def Completion.writeBack (output : Bytes) : Completion → List Write
  | .silent | .creation _ => []
  | .call outOffset outSize => [⟨outOffset, output.extract 0 (min outSize output.size).toNat⟩]

namespace Happening

def before : Happening → Frame
  | operation a _ _ _ => a.frame
  | completion opener _ => opener

def after : Happening → Frame
  | operation _ _ _ a' => a'.frame
  | completion opener child => opener.resume child

def regions : Happening → List Region
  | operation a op _ _ => op.regions a
  | completion _ _ => []

def writes : Happening → List Write
  | operation a op _ _ => op.writes a
  | completion _ child => child.context.completion.writeBack child.output

/-- What was made of the bytes that were read, if the memory had these cells. -/
def Delivers (c : Cells) : Happening → Prop
  | operation a op child? a' => op.Delivers c a child? a'
  | completion _ _ => True

/-- What was paid for the memory: what is missing from the gas, besides all other costs and what was
given to the frame that was opened. -/
def charge : Happening → Int
  | operation a op child? a' =>
    a.frame.gas - a'.frame.gas - Frame.given child? - op.price - op.surcharge a
  | completion opener child => opener.gas + child.gas - (opener.resume child).gas

end Happening

namespace History

def regions (h : History) : List Region := h.flatMap Happening.regions

def writes (h : History) : List Write := h.flatMap Happening.writes

def cells (h : History) : Cells := Cells.written h.writes

/-- The words that the memory has reached over. -/
def words (h : History) : Int := Region.wordsOf h.regions

theorem cells_cons (e : Happening) (h : History) : cells (e :: h) = h.cells.overlay e.writes :=
  Cells.written_append ..

theorem words_cons (e : Happening) (h : History) :
    words (e :: h) = max h.words (Region.wordsOf e.regions) :=
  (Region.wordsOf_append ..).trans (max_comm ..)

theorem words_nonneg (h : History) : 0 ≤ h.words := Region.wordsOf_nonneg _

end History

/-- What happens to a memory with this history. What is read is what was last written; what is
written, and nothing else, changes; and the memory grows to the words of its regions, at the price
of each expansion. -/
structure Happening.Continues (e : Happening) (h : History) : Prop where
  cells : e.before.memory.cell = h.cells
  size : (e.before.memory.size : Int) = 32 * h.words
  delivers : e.Delivers h.cells
  writes : e.after.memory.cell = h.cells.overlay e.writes
  grows : (e.after.memory.size : Int) = 32 * max h.words (Region.wordsOf e.regions)
  charge : e.charge = (Region.charges h.words e.regions).sum

/-- Everything that has happened continued what had happened before. -/
def History.Holds : History → Prop
  | [] => True
  | e :: h => e.Continues h ∧ Holds h

namespace History.Holds

variable {h later earlier : History} {e : Happening}

theorem continues (hh : h.Holds) (heq : h = later ++ e :: earlier) : e.Continues earlier := by
  subst heq
  induction later with
  | nil => exact hh.1
  | cons e' later ih => exact ih hh.2

/-- All expansions together have cost the price of the memory. -/
theorem sum_charge (hh : h.Holds) : (h.map Happening.charge).sum = Gas.memoryCost h.words := by
  induction h with
  | nil => rfl
  | cons e h ih =>
    rw [List.map_cons, List.sum_cons, hh.1.charge, ih hh.2, Region.sum_charges (words_nonneg h),
      words_cons]
    omega

end History.Holds

/-- The memory of a frame is as its history says, unless it was halted within an operation. -/
structure Frame.Recalls (f : Frame) (h : History) : Prop where
  holds : h.Holds
  aligned : 32 ∣ f.memory.size
  cells : f.haltReason? = none → f.memory.cell = h.cells
  size : f.haltReason? = none → (f.memory.size : Int) = 32 * h.words

namespace Frame

variable {f g child : Frame} {h : History} {a a' : Activity} {op : Opcode} {child? : Option Frame}

/-- A frame of the same memory. -/
theorem Recalls.of_memory (hf : f.Recalls h) (hmemory : g.memory = f.memory)
    (hreason : f.haltReason? = none) : g.Recalls h where
  holds := hf.holds
  aligned := by rw [hmemory]; exact hf.aligned
  cells _ := by rw [hmemory]; exact hf.cells hreason
  size _ := by rw [hmemory]; exact hf.size hreason

/-- A memory into which nothing was written. -/
theorem recalls_nil (hmemory : f.memory = #[]) : f.Recalls [] where
  holds := trivial
  aligned := by rw [hmemory]; exact dvd_zero 32
  cells _ := by rw [hmemory]; rfl
  size _ := by rw [hmemory]; rfl

/-- The memory after something that has continued its history. -/
theorem recalls_cons {e : Happening} (he : e.Continues h) (hh : h.Holds)
    (hmemory : g.memory = e.after.memory) : g.Recalls (e :: h) where
  holds := ⟨he, hh⟩
  aligned := by
    have := he.grows
    rw [hmemory]
    omega
  cells _ := by rw [hmemory, he.writes, History.cells_cons]
  size _ := by rw [hmemory, he.grows, History.words_cons]

/-- An operation continues the history of its frame. -/
theorem Recalls.operation (hf : a.frame.Recalls h) (ha : a.Orderly)
    (hreason : a.frame.haltReason? = none) (hstep : Exec.step op.byte a = .ok child? a') :
    (Happening.operation a op child? a').Continues h := by
  obtain ⟨htally, hdelivers⟩ := Exec.effect_of_step ha hstep
  have hcells := hf.cells hreason
  have hsize := hf.size hreason
  have hwords : (a.frame.memoryWords : Int) = h.words := by
    unfold memoryWords
    omega
  rw [hwords] at htally
  rw [hcells] at hdelivers
  have hafter := htally.cells
  rw [hcells] at hafter
  refine ⟨hcells, hsize, hdelivers, hafter, htally.size, ?_⟩
  have hgas := htally.gas
  rw [Region.sum_charges h.words_nonneg]
  show a.frame.gas - a'.frame.gas - Frame.given child? - op.price - op.surcharge a =
    Gas.memoryCost (max h.words (Region.wordsOf (op.regions a))) - _
  rw [hwords] at hgas
  omega

theorem resume_memory_of_call {outOffset outSize : Int}
    (hcall : child.context.completion = .call outOffset outSize) :
    (f.resume child).memory =
      if outSize ≠ 0 ∧ child.output.size ≠ 0 then
        f.memory.splice outOffset (outOffset + min outSize child.output.size)
          (child.output.slice 0 (min outSize child.output.size))
      else f.memory := by
  unfold resume
  rw [hcall]
  dsimp only
  split_ifs <;> rfl

/-- What an opener finds in its memory when it goes on. -/
theorem cell_resume (hawaits : f.Awaits child.context.completion) :
    (f.resume child).memory.cell =
      f.memory.cell.overlay (child.context.completion.writeBack child.output) := by
  cases hc : child.context.completion with
  | silent | creation =>
    unfold resume
    rw [hc]
    dsimp only
    split_ifs <;> rfl
  | call outOffset outSize =>
    rw [hc] at hawaits
    obtain ⟨ho, hs, hreach⟩ := hawaits
    have hn : 0 ≤ min outSize (child.output.size : Int) := le_min hs (Int.natCast_nonneg _)
    have hfirst : child.output.slice 0 (min outSize child.output.size) =
        child.output.extract 0 (min outSize child.output.size).toNat := by
      rw [Bytes.slice, Bytes.bound_of_le le_rfl (Int.natCast_nonneg _),
        Bytes.bound_of_le hn (min_le_right ..), Int.toNat_zero]
    have hsize := Bytes.size_slice_zero hn (min_le_right outSize (child.output.size : Int))
    rw [resume_memory_of_call hc, Completion.writeBack, ← hfirst]
    split_ifs with hout
    · have hend := hreach hout.1
      exact Bytes.cell_splice ho (by rw [hsize]) (by omega)
    · refine (Cells.put_empty _ ?_).symm
      dsimp only
      omega

theorem Recalls.completion (hf : f.Recalls h) (hreason : f.haltReason? = none)
    (hawaits : f.Awaits child.context.completion) :
    (Happening.completion f child).Continues h where
  cells := hf.cells hreason
  size := hf.size hreason
  delivers := trivial
  writes := by
    rw [← hf.cells hreason]
    exact cell_resume hawaits
  grows := by
    show ((f.resume child).memory.size : Int) = 32 * max h.words 0
    rw [resume_memory hawaits, hf.size hreason, max_eq_left h.words_nonneg]
  charge := by
    show f.gas + child.gas - (f.resume child).gas = 0
    rw [resume_gas]
    omega

end Frame

/-- A frame has paid the price of its memory, which reaches over all regions of its history and no
further. -/
structure Frame.HasPaid (f : Frame) (h : History) : Prop where
  words : (f.memoryWords : Int) = h.words
  total : (h.map Happening.charge).sum = Gas.memoryCost f.memoryWords
  nonneg : ∀ e ∈ h, 0 ≤ e.charge
  parts : ∀ later e earlier, h = later ++ e :: earlier →
    e.charge = (Region.charges (History.words earlier) e.regions).sum ∧
      ∀ x ∈ Region.charges (History.words earlier) e.regions, 0 ≤ x

theorem Frame.Recalls.hasPaid {f : Frame} {h : History} (hf : f.Recalls h)
    (hreason : f.haltReason? = none) : f.HasPaid h := by
  have hsize := hf.size hreason
  have hwords : (f.memoryWords : Int) = h.words := by
    unfold memoryWords
    omega
  have hparts : ∀ later e earlier, h = later ++ e :: earlier →
      e.charge = (Region.charges (History.words earlier) e.regions).sum ∧
        ∀ x ∈ Region.charges (History.words earlier) e.regions, 0 ≤ x := by
    intro later e earlier heq
    have hnonneg : 0 ≤ History.words earlier := History.words_nonneg earlier
    exact ⟨(hf.holds.continues heq).charge, Region.charges_nonneg hnonneg _⟩
  refine ⟨hwords, by rw [hf.holds.sum_charge, hwords], fun e he => ?_, hparts⟩
  obtain ⟨later, earlier, heq⟩ := List.append_of_mem he
  obtain ⟨hcharge, hnonneg⟩ := hparts later e earlier heq
  exact hcharge.symm ▸ List.sum_nonneg hnonneg

/-! Histories are kept for all open frames. -/

namespace Machine
open Activity

variable {rules : CreationRules} {a a' : Activity} {op : Opcode} {child : Frame}
  {below : List Frame} {h : History} {hs : List History} {s t : Machine}

/-- The histories of the open frames after the next move, the uppermost first. -/
def noted (rules : CreationRules) (m : Machine) (hs : List History) : List History :=
  match m.frames, hs with
  | top :: below, h :: hs =>
    let a : Activity := ⟨top, m.world, m.access⟩
    match top.status with
    | .executing =>
      match a.nextByte?.bind Opcode.ofByte? with
      | none => h :: hs
      | some op =>
        match Exec.step op.byte a with
        | .ok none a' => (.operation a op none a' :: h) :: hs
        | .ok (some child) a' => [] :: (.operation a op (some child) a' :: h) :: hs
        | .error _ _ => h :: hs
    | .returned | .halted _ | .reverted =>
      match below, hs with
      | opener :: _, g :: hs => (.completion opener (a.finish rules).frame :: g) :: hs
      | _, _ => hs
    | .notStarted | .suspended | .succeeded | .failed _ => h :: hs
  | _, _ => hs

theorem noted_step (hstatus : a.frame.status = .executing) (hbyte : a.nextByte? = some op.byte)
    (hstep : Exec.step op.byte a = .ok none a') :
    (a.atop below).noted rules (h :: hs) = (.operation a op none a' :: h) :: hs := by
  simp [noted, atop, hstatus, hbyte, hstep, Opcode.ofByte?_byte]

theorem noted_open (hstatus : a.frame.status = .executing) (hbyte : a.nextByte? = some op.byte)
    (hstep : Exec.step op.byte a = .ok (some child) a') :
    (a.atop below).noted rules (h :: hs) = [] :: (.operation a op (some child) a' :: h) :: hs := by
  simp [noted, atop, hstatus, hbyte, hstep, Opcode.ofByte?_byte]

theorem noted_runOff (hstatus : a.frame.status = .executing) (hbyte : a.nextByte? = none) :
    (a.atop below).noted rules (h :: hs) = h :: hs := by
  simp [noted, atop, hstatus, hbyte]

theorem noted_start (hstatus : a.frame.status = .notStarted) :
    (a.atop below).noted rules (h :: hs) = h :: hs := by
  simp [noted, atop, hstatus]

theorem noted_halt {byte : UInt8} {e : Stop} (hstatus : a.frame.status = .executing)
    (hbyte : a.nextByte? = some byte) (hstep : Exec.step byte a = .error e a') :
    (a.atop below).noted rules (h :: hs) = h :: hs := by
  cases hop : Opcode.ofByte? byte with
  | none => simp [noted, atop, hstatus, hbyte, hop]
  | some op =>
    obtain rfl := Opcode.byte_of_ofByte? hop
    simp [noted, atop, hstatus, hbyte, hstep, Opcode.ofByte?_byte]

theorem noted_close_last (hleft : a.frame.status.IsLeft) :
    (a.atop []).noted rules (h :: hs) = hs := by
  rcases hleft.cases with hstatus | ⟨reason, hstatus⟩ | hstatus <;> simp [noted, atop, hstatus]

theorem noted_close {opener : Frame} {rest : List Frame} {g : History}
    (hleft : a.frame.status.IsLeft) :
    (a.atop (opener :: rest)).noted rules (h :: g :: hs) =
      (.completion opener (a.finish rules).frame :: g) :: hs := by
  rcases hleft.cases with hstatus | ⟨reason, hstatus⟩ | hstatus <;> simp [noted, atop, hstatus]

def seesOne (p : Frame → History → Bool) (x : Machine × List History) : Bool :=
  match x.1.frames, x.2 with
  | [f], [h] => p f h
  | _, _ => false

theorem exists_of_seesOne {n : Nat} {p : Frame → History → Bool}
    (h : (s.recorded? rules (noted rules) n hs).any (seesOne p) = true) :
    ∃ t f h, Records rules (noted rules) (s, hs) (t, [h]) ∧ t.frames = [f] ∧ p f h = true := by
  obtain ⟨t, hs', hrecords, hsees⟩ := exists_of_recorded? h
  unfold seesOne at hsees
  split at hsees
  · rename_i f h hframes hhistory
    dsimp only at hframes hhistory
    subst hhistory
    exact ⟨t, f, h, hrecords, hframes, hsees⟩
  · cases hsees

def Recall (m : Machine) (hs : List History) : Prop := List.Forall₂ Frame.Recalls m.frames hs

/-- A frame executes operations only in an orderly state. -/
theorem orderly_of_step {byte : UInt8} {child? : Option Frame}
    (hregular : (a.atop below).IsSpent ∨ ∃ k, (a.atop below).Sound k)
    (hstep : Exec.step byte a = .ok child? a') : a.Orderly := by
  rcases hregular with hspent | ⟨k, hsound⟩
  · cases (Exec.step_refuses (hspent _ _ rfl).2.1 byte).of_ok hstep
  · exact hsound.activity.orderly

theorem haltReason?_of_executing {f : Frame} (h : f.status = .executing) :
    f.haltReason? = none := by
  rw [Frame.haltReason?, h]

/-- A frame that was halted within an operation keeps its history. -/
theorem recalls_halt {byte : UInt8} {reason : HaltReason} (hf : a.frame.Recalls h)
    (hregular : (a.atop below).IsSpent ∨
      ∃ k, ((a'.mapFrame (·.halt reason)).atop below).Sound k)
    (hstep : Exec.step byte a = .error (.halt reason) a') : (a'.frame.halt reason).Recalls h where
  holds := hf.holds
  aligned := by
    rcases hregular with hspent | ⟨k, hsound⟩
    · obtain ⟨rfl, -⟩ := (Exec.step_refuses (hspent _ _ rfl).2.1 byte).of_error hstep
      exact hf.aligned
    · exact Dvd.intro_left _ hsound.activity.frame.words.symm
  cells hnone := by cases hnone
  size hnone := by cases hnone

/-- A move keeps all memories as their histories say. -/
theorem Recall.move (hr : s.Recall hs) (hmove : Move rules s t)
    (hregular : s.IsSpent ∨ (∃ k, s.Sound k) ∧ ∃ k, t.Sound k) : t.Recall (s.noted rules hs) := by
  have hbefore := hregular.imp_right And.left
  unfold Recall at hr ⊢
  cases hmove with
  | @start a below hstatus =>
    obtain ⟨h, hs, hf, hbelow, rfl⟩ := List.forall₂_cons_left_iff.1 hr
    have hnone : a.frame.haltReason? = none := by rw [Frame.haltReason?, hstatus]
    rw [noted_start hstatus]
    refine .cons (hf.of_memory ?_ hnone) hbelow
    rcases start_cases rules a with ⟨reason, -, hstart⟩ | ⟨w, -, hstart⟩ <;> rw [hstart] <;> rfl
  | runOff below hstatus hbyte =>
    obtain ⟨h, hs, hf, hbelow, rfl⟩ := List.forall₂_cons_left_iff.1 hr
    rw [noted_runOff hstatus hbyte]
    exact .cons (hf.of_memory rfl (haltReason?_of_executing hstatus)) hbelow
  | step below hstatus hbyte hstep =>
    obtain ⟨h, hs, hf, hbelow, rfl⟩ := List.forall₂_cons_left_iff.1 hr
    obtain ⟨op, rfl⟩ := Exec.exists_op_of_step hstep
    have horderly := orderly_of_step hbefore hstep
    have he := hf.operation horderly (haltReason?_of_executing hstatus) hstep
    rw [noted_step hstatus hbyte hstep]
    exact .cons (Frame.recalls_cons he hf.holds rfl) hbelow
  | open_ below hstatus hbyte hstep =>
    obtain ⟨h, hs, hf, hbelow, rfl⟩ := List.forall₂_cons_left_iff.1 hr
    obtain ⟨op, rfl⟩ := Exec.exists_op_of_step hstep
    have horderly := orderly_of_step hbefore hstep
    have he := hf.operation horderly (haltReason?_of_executing hstatus) hstep
    rw [noted_open hstatus hbyte hstep]
    refine .cons (Frame.recalls_nil ?_) (.cons (Frame.recalls_cons he hf.holds rfl) hbelow)
    rw [Exec.Fresh.of_ok hstep]
  | @halt a a' byte reason below hstatus hbyte hstep =>
    obtain ⟨h, hs, hf, hbelow, rfl⟩ := List.forall₂_cons_left_iff.1 hr
    rw [noted_halt hstatus hbyte hstep]
    exact .cons (recalls_halt hf (hregular.imp_right And.right) hstep) hbelow
  | @close a below hleft =>
    obtain ⟨h, hs, hf, hbelow, rfl⟩ := List.forall₂_cons_left_iff.1 hr
    cases below with
    | nil =>
      obtain rfl := List.forall₂_nil_left_iff.1 hbelow
      rw [noted_close_last hleft]
      exact .nil
    | cons opener rest =>
      obtain ⟨g, hs, hg, hrest, rfl⟩ := List.forall₂_cons_left_iff.1 hbelow
      rcases hbefore with hspent | ⟨k, hsound⟩
      · cases (hspent _ _ rfl).1
      -- The range for the output was reached over when the frame was opened.
      obtain ⟨hsuspended, hawaits, -⟩ := hsound.waits
      rw [← finish_context rules] at hawaits
      have hnone : opener.haltReason? = none := by rw [Frame.haltReason?, hsuspended]
      have he := hg.completion hnone hawaits
      rw [noted_close hleft]
      exact .cons (Frame.recalls_cons he hg.holds rfl) hrest

/-- In a run of states that are sound, or spent, all memories are as their histories say. -/
theorem Recall.of_records {x y : Machine × List History} (hr : x.1.Recall x.2)
    (hrecords : Records rules (noted rules) x y)
    (hregular : (∀ t, Reaches rules x.1 t → t.IsSpent) ∨
      ∀ t, Reaches rules x.1 t → ∃ k, t.Sound k) : y.1.Recall y.2 := by
  induction hrecords with
  | refl => exact hr
  | @tail y z hyz hmove ih =>
    rw [hmove.2]
    have hreach := reaches_of_records hyz
    refine ih.move hmove.1 (hregular.imp (fun h => h _ hreach) fun h => ?_)
    exact ⟨h _ hreach, h _ (hreach.tail hmove.1)⟩

end Machine

namespace Meter
open Machine

variable {m : Meter} {code : Bytes} {world : World} {gasLimit : Int} {t : Machine}
  {hs : List History}

/-- In a launch of natural numbers all memories are as their histories say. -/
theorem recall_of_records (hblock : m.block.Sound .natural) (hworld : world.IsNatural)
    (h : Records {} (noted {}) (m.opening code world gasLimit, [[]]) (t, hs)) : t.Recall hs := by
  have hopening : (m.opening code world gasLimit).Recall [[]] := .cons (Frame.recalls_nil rfl) .nil
  refine hopening.of_records (x := (_, _)) (y := (_, _)) h ?_
  -- With negative gas no operation is executed, so that no soundness is needed.
  by_cases hgas : 0 ≤ m.initialGas gasLimit
  · obtain ⟨k, -, hstarts⟩ := starts_natural code hblock hworld hgas
    refine .inr fun t ht => ?_
    obtain ⟨n, hsound, -⟩ := (hstarts.runs ht).sound
    exact ⟨_, hsound⟩
  · have hspent : (m.opening code world gasLimit).IsSpent := by
      rintro _ _ ⟨⟩
      exact ⟨rfl, not_le.1 hgas, le_rfl⟩
    exact .inl fun t ht => hspent.of_reaches ht

/-- Stores a word, and lets the returning contract write the one after it, which it loads. -/
def storingTwice : Bytes :=
  #[0x60, 0x07, 0x60, 0x00, 0x52, 0x60, 0x20, 0x60, 0x20, 0x3d, 0x3d, 0x62, 0x0c, 0xa1, 0x1e, 0x5a,
    0xfa, 0x60, 0x20, 0x51]

/-- The price of a memory depends on its size alone. In every state of a launch of natural numbers
all frames have a history, and each that was not halted has as many words of memory as the largest
end needs that it has asked for, and it has paid for them what they cost, in parts that are not
negative. -/
theorem memory_paid (m : Meter) (code : Bytes) (world : World) (gasLimit : Int)
    (hblock : m.block.Sound .natural) (hworld : world.IsNatural) :
    (∀ t, Reaches {} (m.opening code world gasLimit) t →
      ∃ hs, Records {} (noted {}) (m.opening code world gasLimit, [[]]) (t, hs)) ∧
    ∀ t hs, Records {} (noted {}) (m.opening code world gasLimit, [[]]) (t, hs) →
      List.Forall₂ (fun f h => f.haltReason? = none → f.HasPaid h) t.frames hs := by
  refine ⟨fun t ht => exists_records ht _, fun t hs h => ?_⟩
  exact (recall_of_records hblock hworld h).imp fun _ _ hr hreason => hr.hasPaid hreason

theorem memory_paid_storingTwice :
    ∃ t f h, (Block.Sound .natural ({} : Meter).block ∧ (Fixture.world storingTwice).IsNatural ∧
        Records {} (noted {})
          (({} : Meter).opening storingTwice (Fixture.world storingTwice) 1000, [[]]) (t, [h]) ∧
        f.haltReason? = none) ∧
      t.frames = [f] ∧ f.HasPaid h ∧ f.memoryWords = 2 ∧ (h.map Happening.charge).sum = 6 := by
  have hrun : ((({} : Meter).opening storingTwice (Fixture.world storingTwice) 1000).recorded? {}
      (noted {}) 21 [[]]).any (seesOne fun f _ => f.haltReason? = none ∧ f.memoryWords = 2) =
        true := by
    decide +kernel
  obtain ⟨t, f, h, hrecords, hframes, hsees⟩ := exists_of_seesOne hrun
  rw [decide_eq_true_eq] at hsees
  obtain ⟨hreason, hwords⟩ := hsees
  have hblock := Block.sound_default .natural
  have hworld := Fixture.world_isNatural storingTwice
  have hall := (memory_paid _ _ _ _ hblock hworld).2 t [h] hrecords
  rw [hframes] at hall
  have hpaid := (List.forall₂_cons.1 hall).1 hreason
  refine ⟨t, f, h, ⟨hblock, hworld, hrecords, hreason⟩, hframes, hpaid, hwords, ?_⟩
  rw [hpaid.total, hwords]
  decide

/-- Stores a word at the number of the block, and returns the size of the memory. -/
def measuringAfterNumber : Bytes :=
  #[0x60, 0x01, 0x43, 0x52, 0x59, 0x60, 0x00, 0x52, 0x60, 0x20, 0x60, 0x00, 0xf3]

/-- In a block with a negative number a memory may grow by a word that no region asks for, and for
which nothing was paid. -/
theorem memory_unpaid_measuringAfterNumber :
    ∃ t f h, Records {} (noted {})
        (({ block := { number := -1000000 } } : Meter).opening measuringAfterNumber
          (Fixture.world measuringAfterNumber) 1000, [[]]) (t, [h]) ∧
      t.frames = [f] ∧ f.haltReason? = none ∧ f.memoryWords = 1 ∧ h.words = 0 ∧
      (h.map Happening.charge).sum = 0 ∧ ¬ f.HasPaid h := by
  have hrun : ((({ block := { number := -1000000 } } : Meter).opening measuringAfterNumber
      (Fixture.world measuringAfterNumber) 1000).recorded? {} (noted {}) 4 [[]]).any
      (seesOne fun f h => f.haltReason? = none ∧ f.memoryWords = 1 ∧ h.words = 0 ∧
          (h.map Happening.charge).sum = 0) = true := by
    decide +kernel
  obtain ⟨t, f, h, hrecords, hframes, hsees⟩ := exists_of_seesOne hrun
  rw [decide_eq_true_eq] at hsees
  obtain ⟨hreason, hwords, hhistory, hsum⟩ := hsees
  refine ⟨t, f, h, hrecords, hframes, hreason, hwords, hhistory, hsum, fun hpaid => ?_⟩
  have hcontradiction := hpaid.words
  rw [hwords, hhistory] at hcontradiction
  cases hcontradiction

end Meter
end Gasometer
