import Gasometer.Proofs.Allowances
import Gasometer.Proofs.OperandStacks
import Gasometer.Proofs.Trails

/-!
# The limits of stacks

A step checks the number of items once, before the operation begins, against what the table says of
it. That is enough: the operation takes and leaves as many items as the table says, and the item
that a frame waits for while another one is open has its place kept. So no stack ever has more than
1024 items, and in a run of words all of them are words.
-/
namespace Gasometer

variable {rules : CreationRules} {a a' b : Activity} {s t : Machine} {below rest : List Frame}

namespace Exec

/-- An operation that has its items replaces them as the table says, but for the item that a frame
it opened will bring; if it is stopped, it has put no more there than it took. -/
theorem execute_items {op : Opcode} {info : OpcodeInfo} (hinfo : op.info? = some info)
    (hsize : info.inputs ≤ a.frame.stack.items.length) :
    (execute op).Yields a
      (fun child? a' => ∃ top, top.length + child?.toList.length = info.outputs ∧
        a'.frame.stack.items = top ++ a.frame.stack.items.drop info.inputs)
      fun _ a' => a'.frame.stack.items.length ≤ a.frame.stack.items.length := by
  have htop : (a.frame.stack.items.take info.inputs).length = info.inputs :=
    List.length_take_of_le hsize
  unfold Yields
  rcases settledBy_of_length hinfo a htop with
    ⟨child?, b, top, hlen, hx⟩ | ⟨cause, b, top, hlen, hx⟩
  · have hdone := hx (a.frame.stack.items.drop info.inputs)
    rw [a.withItems_take_drop] at hdone
    rw [hdone]
    exact ⟨top, hlen, rfl⟩
  · have hstopped := hx (a.frame.stack.items.drop info.inputs)
    rw [a.withItems_take_drop] at hstopped
    rw [hstopped]
    simp only [Activity.items_withItems, List.length_append, List.length_drop]
    omega

/-- What is checked before an operation begins. -/
theorem begin_checks (info : OpcodeInfo) (a : Activity) :
    (begin_ info).Yields a
      (fun _ b => b = paid info a ∧ info.inputs ≤ a.frame.stack.items.length ∧
        a.frame.stack.items.length + info.outputs ≤ maxItems + info.inputs)
      fun _ b => b = a := by
  unfold begin_
  refine Yields.view ?_
  rw [a.frame.stack.size_eq]
  refine (Yields.haltIf fun _ => rfl).bind ?_
  rintro _ _ ⟨hinputs, rfl⟩
  refine (Yields.haltIf fun _ => rfl).bind ?_
  rintro _ _ ⟨hroom, rfl⟩
  refine Yields.view ((Yields.haltIf fun _ => rfl).bind ?_)
  rintro _ _ ⟨-, rfl⟩
  exact ⟨rfl, not_lt.1 hinputs, not_lt.1 hroom⟩

/-- What a step does to the stack. -/
theorem step_items (byte : UInt8) (a : Activity) :
    (step byte).Yields a
      (fun child? a' => ∃ op info top, Opcode.ofByte? byte = some op ∧ op.info? = some info ∧
        a.frame.stack.items.length + info.outputs ≤ maxItems + info.inputs ∧
        top.length + child?.toList.length = info.outputs ∧
        info.inputs ≤ a.frame.stack.items.length ∧
        a'.frame.stack.items = top ++ a.frame.stack.items.drop info.inputs)
      fun _ a' => a'.frame.stack.items.length ≤ a.frame.stack.items.length := by
  unfold step
  cases hop : Opcode.ofByte? byte with
  | none => exact le_rfl
  | some op =>
    dsimp only
    cases hinfo : op.info? with
    | none => exact le_rfl
    | some info =>
      refine Yields.bind ((begin_checks info a).imp (fun _ _ h => h) ?_) ?_
      · rintro _ _ rfl
        exact le_rfl
      · rintro _ _ ⟨rfl, hinputs, hroom⟩
        refine (execute_items (a := paid info a) hinfo hinputs).mono ?_
        rintro child? a' ⟨top, hlen, hitems⟩
        exact ⟨op, info, top, rfl, hinfo, hroom, hlen, hinputs, hitems⟩

/-- A step that is done had the items that the table asks for and has replaced them. -/
theorem step_replaces {op : Opcode} {info : OpcodeInfo} {child? : Option Frame}
    (hinfo : op.info? = some info) (hstep : step op.byte a = .ok child? a') :
    info.inputs ≤ a.frame.stack.items.length ∧ ∃ top,
      top.length + child?.toList.length = info.outputs ∧
      a'.frame.stack.items = top ++ a.frame.stack.items.drop info.inputs := by
  obtain ⟨op', info', top, hop, hinfo', -, hlen, hinputs, hitems⟩ := (step_items _ a).of_ok hstep
  obtain rfl : op = op' := Option.some.inj ((Opcode.ofByte?_byte op).symm.trans hop)
  obtain rfl : info = info' := Option.some.inj (hinfo.symm.trans hinfo')
  exact ⟨hinputs, top, hlen, hitems⟩

end Exec

namespace Machine
open Exec Activity

/-- No stack has too many items, and those of the frames that wait have room for another one. -/
structure Limited (m : Machine) : Prop where
  top : ∀ f ∈ m.frames.head?, f.stack.items.length ≤ maxItems
  below : ∀ f ∈ m.frames.tail, f.stack.items.length < maxItems

theorem limited_atop : (a.atop below).Limited ↔
    a.frame.stack.items.length ≤ maxItems ∧ ∀ f ∈ below, f.stack.items.length < maxItems :=
  ⟨fun h => ⟨h.top _ rfl, h.below⟩, fun h => ⟨by rintro _ ⟨⟩; exact h.1, h.2⟩⟩

theorem Limited.length_le (h : t.Limited) : ∀ f ∈ t.frames, f.stack.items.length ≤ maxItems := by
  intro f hf
  cases hframes : t.frames with
  | nil => simp [hframes] at hf
  | cons top rest =>
    rw [hframes, List.mem_cons] at hf
    rcases hf with rfl | hf
    · exact h.top _ (by rw [hframes]; rfl)
    · exact (h.below _ (by rwa [hframes])).le

/-- The end of a frame is at most one item more for the frame beneath. -/
theorem length_resume_le (f child : Frame) :
    (f.resume child).stack.items.length ≤ f.stack.items.length + 1 := by
  by_cases hsilent : child.context.completion = .silent
  · have hstack : (f.resume child).stack = f.stack := by
      unfold Frame.resume
      rw [hsilent]
      dsimp only
      split_ifs <;> rfl
    rw [hstack]
    exact Nat.le_succ _
  · obtain ⟨x, hx⟩ := Frame.resume_items f hsilent
    rw [hx, List.length_cons]

/-- To be started changes nothing of a frame but its status. -/
theorem start_frame (rules : CreationRules) (a : Activity) :
    ∃ status, (a.start rules).frame = { a.frame with status := status } := by
  rcases start_cases rules a with ⟨reason, -, h⟩ | ⟨w, -, h⟩ <;> rw [h] <;> exact ⟨_, rfl⟩

/-- A move keeps to the limits. -/
theorem Limited.move (h : s.Limited) (hmove : Move rules s t) : t.Limited := by
  cases hmove with
  | @start a below =>
    rw [limited_atop] at h ⊢
    obtain ⟨status, hframe⟩ := start_frame rules a
    rwa [hframe]
  | runOff below =>
    rw [limited_atop] at h ⊢
    exact h
  | @step a a' byte below _ _ hstep =>
    rw [limited_atop] at h ⊢
    obtain ⟨op, info, top, -, -, hroom, hlen, hinputs, hitems⟩ := (step_items byte a).of_ok hstep
    refine ⟨?_, h.2⟩
    rw [hitems, List.length_append, List.length_drop]
    simp at hlen
    omega
  | @open_ a a' byte child below _ _ hstep =>
    rw [limited_atop] at h
    obtain ⟨op, info, top, -, -, hroom, hlen, hinputs, hitems⟩ := (step_items byte a).of_ok hstep
    have hopener : a'.frame.stack.items.length < maxItems := by
      rw [hitems, List.length_append, List.length_drop]
      simp at hlen
      omega
    refine ⟨?_, List.forall_mem_cons.2 ⟨hopener, h.2⟩⟩
    rintro _ ⟨⟩
    rw [Fresh.of_ok hstep]
    exact Nat.zero_le _
  | @halt a a' byte reason below _ _ hstep =>
    rw [limited_atop] at h ⊢
    exact ⟨((step_items byte a).of_error hstep).trans h.1, h.2⟩
  | @close a below hleft =>
    rw [limited_atop] at h
    cases below with
    | nil => exact ⟨by rintro _ ⟨⟩, by rintro _ ⟨⟩⟩
    | cons opener rest =>
      have hrest := List.forall_mem_cons.1 h.2
      refine ⟨?_, hrest.2⟩
      rintro _ ⟨⟩
      exact (length_resume_le ..).trans hrest.1

theorem Limited.of_reaches (h : s.Limited) (hreach : Reaches rules s t) : t.Limited := by
  induction hreach with
  | refl => exact h
  | tail _ hmove ih => exact ih.move hmove

/-- A fault is met with no more items than there were. -/
theorem Limited.of_faults {fault : Fault} (h : s.Limited) (hfault : Faults s fault t) :
    t.Limited := by
  obtain ⟨a, a', byte, below, rfl, -, -, hstep, rfl⟩ := hfault
  rw [limited_atop] at h ⊢
  exact ⟨((step_items byte a).of_error hstep).trans h.1, h.2⟩

end Machine

/-- A state of a run is one that moves lead to, or the one that a fault leaves behind. -/
def Occurs (rules : CreationRules) (s t : Machine) : Prop :=
  Reaches rules s t ∨ ∃ u fault, Reaches rules s u ∧ Faults u fault t

theorem Machine.Limited.of_occurs (h : s.Limited) (ht : Occurs rules s t) : t.Limited := by
  rcases ht with hreach | ⟨u, fault, hreach, hfault⟩
  · exact h.of_reaches hreach
  · exact (h.of_reaches hreach).of_faults hfault

namespace Machine
open Activity

/-- A frame with negative gas, alone and with no items. -/
structure Penniless (m : Machine) : Prop where
  alone : m.frames.length ≤ 1
  frames : ∀ f ∈ m.frames, f.gas < 0 ∧ f.stack.items = []

theorem penniless_atop : (a.atop below).Penniless ↔
    below = [] ∧ a.frame.gas < 0 ∧ a.frame.stack.items = [] := by
  constructor
  · intro h
    have hlen := h.alone
    rw [frames_atop, List.length_cons] at hlen
    exact ⟨List.length_eq_zero_iff.1 (by omega), h.frames _ (List.mem_cons_self ..)⟩
  · rintro ⟨rfl, h⟩
    exact ⟨le_rfl, by simpa using h⟩

/-- With negative gas a frame comes no further than its first operation. -/
theorem Penniless.move (h : s.Penniless) (hmove : Move rules s t) : t.Penniless := by
  cases hmove with
  | @start a below =>
    rw [penniless_atop] at h ⊢
    obtain ⟨status, hframe⟩ := start_frame rules a
    rwa [hframe]
  | runOff below =>
    rw [penniless_atop] at h ⊢
    exact h
  | @step a a' byte below _ _ hstep | @open_ a a' byte child below _ _ hstep =>
    exact ((Exec.step_refuses (penniless_atop.1 h).2.1 byte).of_ok hstep).elim
  | @halt a a' byte reason below _ _ hstep =>
    rw [penniless_atop] at h ⊢
    obtain ⟨rfl, -⟩ := (Exec.step_refuses h.2.1 byte).of_error hstep
    exact h
  | @close a below hleft =>
    obtain ⟨rfl, -⟩ := penniless_atop.1 h
    exact ⟨Nat.zero_le _, by rintro f ⟨⟩⟩

theorem Penniless.of_reaches (h : s.Penniless) (hreach : Reaches rules s t) : t.Penniless := by
  induction hreach with
  | refl => exact h
  | tail _ hmove ih => exact ih.move hmove

/-- With negative gas no fault is met. -/
theorem Penniless.no_fault {fault : Fault} (h : s.Penniless) : ¬ Faults s fault t := by
  rintro ⟨a, a', byte, below, rfl, -, -, hstep, -⟩
  obtain ⟨-, reason, -, hreason⟩ :=
    (Exec.step_refuses (penniless_atop.1 h).2.1 byte).of_error hstep
  cases hreason

/-- The stacks of a run of words hold words. -/
theorem Starts.word_of_occurs {k : Scale} (h : s.Starts rules k) (hk : k.numbers = .word)
    (ht : Occurs rules s t) :
    ∀ f ∈ t.frames, ∀ x ∈ f.stack.items, 0 ≤ x ∧ x < Word.ceiling := by
  have hwords (k' : Scale) (hk' : k'.numbers = k.numbers) (hsound : t.Sound k') :
      ∀ f ∈ t.frames, ∀ x ∈ f.stack.items, 0 ≤ x ∧ x < Word.ceiling := by
    intro f hf x hx
    have hholds := (hsound.frames f hf).stack x hx
    rwa [hk', hk] at hholds
  rcases ht with hreach | ⟨u, fault, hreach, hfault⟩
  · obtain ⟨n, hnext⟩ := h.of_reaches hreach
    exact hwords (k.raisedBy n) rfl hnext.sound
  · obtain ⟨n, hnext⟩ := h.of_reaches hreach
    exact hwords (k.raisedBy n).raised rfl (hnext.sound_of_faults hfault).1

end Machine

namespace Meter

variable {m : Meter} {code : Bytes} {world : World} {gasLimit : Int}

theorem opening_limited : (m.opening code world gasLimit).Limited :=
  ⟨by rintro _ ⟨⟩; exact Nat.zero_le _, by rintro _ ⟨⟩⟩

theorem opening_penniless (hgas : m.initialGas gasLimit < 0) :
    (m.opening code world gasLimit).Penniless :=
  ⟨le_rfl, by rintro _ (_ | ⟨_, ⟨⟩⟩); exact ⟨hgas, rfl⟩⟩

/-- The stacks of a launch of words hold words. -/
theorem word_of_occurs (hblock : m.block.Sound .word) (hcode : (code.size : Int) < Word.ceiling)
    (hworld : world.IsWordSized) (hgas : m.initialGas gasLimit < Word.ceiling)
    (ht : Occurs {} (m.opening code world gasLimit) t) :
    ∀ f ∈ t.frames, ∀ x ∈ f.stack.items, 0 ≤ x ∧ x < Word.ceiling := by
  by_cases hpositive : 0 ≤ m.initialGas gasLimit
  · obtain ⟨k, hk, -, hstarts⟩ := starts_words hblock hcode hworld hpositive hgas
    exact hstarts.word_of_occurs hk ht
  · have hopening : (m.opening code world gasLimit).Penniless :=
      opening_penniless (not_le.1 hpositive)
    rcases ht with hreach | ⟨u, fault, hreach, hfault⟩
    · intro f hf x hx
      rw [((hopening.of_reaches hreach).frames f hf).2] at hx
      cases hx
    · exact absurd hfault (hopening.of_reaches hreach).no_fault

end Meter

namespace Activity

/-- When a frame goes on after one that it opened, its operation has replaced its operands. -/
theorem resumed_items {op : Opcode} {info : OpcodeInfo} {child : Frame}
    (hinfo : op.info? = some info) (hstep : Exec.step op.byte a = .ok (some child) a')
    (hlife : ReachesAbove rules (below.length + 1) (a'.opening child below) (b.atop rest))
    (hlength : rest.length = below.length + 1) :
    info.inputs ≤ a.frame.stack.items.length ∧ ∃ resumed top,
      ((b.finish rules).leave rest).frames = resumed :: below ∧ top.length = info.outputs ∧
      resumed.stack.items = top ++ a.frame.stack.items.drop info.inputs := by
  obtain ⟨hinputs, top, hlen, hitems⟩ := Exec.step_replaces hinfo hstep
  obtain ⟨rfl, -⟩ := hlife.beneath_of_opening hlength
  have hcompletion : (b.finish rules).frame.context.completion ≠ .silent := by
    rw [finish_context, hlife.context_of_opening hlength]
    exact (Exec.deed_of_step hstep).completion
  obtain ⟨x, hx⟩ := Frame.resume_items a'.waiting hcompletion
  refine ⟨hinputs, a'.waiting.resume (b.finish rules).frame, x :: top, rfl, hlen, ?_⟩
  rw [hx]
  exact congrArg (x :: ·) hitems

end Activity

open Exec Activity

/-- An operation sees no more items than the table says that it takes; where it is not stopped, it
replaces them by as many as the table says, when it is done or when the frame that it opened has
come to its end, and leaves all others alone. In a launch of words no stack has more than 1024
items, and all items are words. -/
theorem stacks_follow_table :
    (∀ (op : Opcode) (info : OpcodeInfo), op.info? = some info →
      (∀ (a : Activity) (top : List Int), top.length = info.inputs → SettledBy op info a top) ∧
      (∀ a a' : Activity, step op.byte a = .ok none a' →
        info.inputs ≤ a.frame.stack.items.length ∧ ∃ top, top.length = info.outputs ∧
          a'.frame.stack.items = top ++ a.frame.stack.items.drop info.inputs) ∧
      ∀ (rules : CreationRules) (a a' b : Activity) (child : Frame) (below rest : List Frame),
        step op.byte a = .ok (some child) a' →
        ReachesAbove rules (below.length + 1) (a'.opening child below) (b.atop rest) →
        rest.length = below.length + 1 → b.frame.status.IsLeft →
        info.inputs ≤ a.frame.stack.items.length ∧
          ∃ resumed top, ((b.finish rules).leave rest).frames = resumed :: below ∧
            top.length = info.outputs ∧
            resumed.stack.items = top ++ a.frame.stack.items.drop info.inputs) ∧
    ∀ (m : Meter) (code : Bytes) (world : World) (gasLimit : Int), m.block.Sound .word →
      (code.size : Int) < Word.ceiling → world.IsWordSized →
      m.initialGas gasLimit < Word.ceiling →
      ∀ t, Occurs {} (m.opening code world gasLimit) t → ∀ f ∈ t.frames,
        f.stack.items.length ≤ 1024 ∧ ∀ x ∈ f.stack.items, 0 ≤ x ∧ x < Word.ceiling := by
  refine ⟨fun op info hinfo => ⟨fun a top => settledBy_of_length hinfo a,
    fun a a' => step_replaces hinfo, ?_⟩, ?_⟩
  · intro rules a a' b child below rest hstep hlife hlength _
    exact resumed_items hinfo hstep hlife hlength
  · intro m code world gasLimit hblock hcode hworld hgas t ht f hf
    exact ⟨(Meter.opening_limited.of_occurs ht).length_le f hf,
      Meter.word_of_occurs hblock hcode hworld hgas ht f hf⟩

def adding : Activity :=
  ((default : Activity).mapFrame fun f => { f with gas := 3 }).withItems [1, 2, 5]

/-- An addition, and a call that opens a frame. -/
theorem stacks_follow_table_callingWithNumber :
    (∃ added, step (Opcode.binary .add).byte adding = .ok none added ∧
      ∃ top, top.length = 1 ∧ added.frame.stack.items = top ++ [5]) ∧
    ∃ a a' child b rest,
      ((Opcode.call .call).info? = some ⟨7, 1, 0, 0⟩ ∧
        step (Opcode.call .call).byte a = .ok (some child) a' ∧
        ReachesAbove {} 1 (a'.opening child []) (atop b rest) ∧ rest.length = 1 ∧
        b.frame.status.IsLeft) ∧
      (Block.Sound .word ({} : Meter).block ∧ (callingWithNumber.size : Int) < Word.ceiling ∧
        (Fixture.world callingWithNumber).IsWordSized ∧
        ({} : Meter).initialGas 1000 < Word.ceiling ∧
        Occurs {} (({} : Meter).opening callingWithNumber (Fixture.world callingWithNumber) 1000)
          (a'.opening child [])) ∧
      SettledBy (.call .call) ⟨7, 1, 0, 0⟩ a (List.replicate 7 0) ∧
      (∃ resumed top, ((b.finish {}).leave rest).frames = [resumed] ∧ top.length = 1 ∧
        resumed.stack.items = top ++ a.frame.stack.items.drop 7) ∧
      ∀ f ∈ (a'.opening child []).frames, f.stack.items.length ≤ 1024 ∧
        ∀ x ∈ f.stack.items, 0 ≤ x ∧ x < Word.ceiling := by
  have hrun : ((({} : Meter).opening callingWithNumber (Fixture.world callingWithNumber)
      1000).movedAbove? {} 0 8).any
      (Machine.sees (callsAndResumes (fun _ _ _ => true) 2)) = true := by
    decide +kernel
  obtain ⟨a, below, hreach, hcalls⟩ := Machine.exists_of_sees hrun
  obtain ⟨rfl, hstatus, hbyte, a', child, b, rest, t, available, resumed, hstep, hlife, hlength,
    hleft, -, -, -⟩ := exists_of_callsAndResumes hcalls
  have hcode : (callingWithNumber.size : Int) < Word.ceiling := by decide
  have hblock := Block.sound_default .word
  have hworld := Fixture.world_isWordSized hcode
  have hgas : ({} : Meter).initialGas 1000 < Word.ceiling := by decide
  have hoccurs : Occurs {} _ (a'.opening child []) :=
    .inl (hreach.reaches.tail (.open_ [] hstatus hbyte hstep))
  obtain ⟨hsettled, -, hresumes⟩ := stacks_follow_table.1 (.call .call) ⟨7, 1, 0, 0⟩ rfl
  refine ⟨⟨_, rfl, ((stacks_follow_table.1 (.binary .add) _ rfl).2.1 adding _ rfl).2⟩, ?_⟩
  exact ⟨a, a', child, b, rest, ⟨rfl, hstep, hlife, hlength, hleft⟩,
    ⟨hblock, hcode, hworld, hgas, hoccurs⟩, hsettled a _ rfl,
    (hresumes {} a a' b child [] rest hstep hlife hlength hleft).2,
    stacks_follow_table.2 {} callingWithNumber (Fixture.world callingWithNumber) 1000 hblock hcode
      hworld hgas _ hoccurs⟩

end Gasometer
