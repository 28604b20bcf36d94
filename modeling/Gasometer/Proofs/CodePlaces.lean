import Gasometer.Proofs.Disassembly
import Gasometer.Proofs.StackLimits

/-!
# Places in code

Code is read from its first byte, an operation with its data after the other. The places where an
operation begins are the boundaries of the code. The analysis of jump destinations finds those that
hold `0x5b`, and a run never leaves the boundaries: an operation goes on to the next one, a push
past its data, and a jump to a destination. So no byte of data is ever executed, also where the code
ends within the data of a push.
-/
namespace Gasometer
namespace Code

/-- The places that the reading of some code comes to, that after the last operation included. -/
inductive IsBoundary (bs : Bytes) : Nat → Prop
  | first : IsBoundary bs 0
  | next {place : Nat} {byte : UInt8} (h : IsBoundary bs place) (hbyte : bs[place]? = some byte) :
    IsBoundary bs (place + 1 + Opcode.dataWidth byte)

variable {bs : Bytes} {p q place : Nat} {byte : UInt8}

/-- After an operation the next boundary is that past its data. -/
theorem IsBoundary.next_le (hq : IsBoundary bs q) (hp : IsBoundary bs p) (h : p < q)
    (hbyte : bs[p]? = some byte) : p + 1 + Opcode.dataWidth byte ≤ q := by
  induction q using Nat.strong_induction_on generalizing p byte with
  | _ q ih =>
    cases hq with
    | first => exact absurd h (Nat.not_lt_zero p)
    | @next q' byte' hq' hbyte' =>
      rcases Nat.lt_trichotomy p q' with hlt | rfl | hgt
      · exact (ih q' (by omega) hq' hp hlt hbyte).trans (by omega)
      · obtain rfl := Option.some.inj (hbyte.symm.trans hbyte')
        exact le_rfl
      · -- the operation before `q` would reach over `p`
        have := ih p h hp hq' hgt hbyte'
        omega

/-- What is known when so many marks were made: these are right, and so many bytes of data come
next. -/
structure Marked (bs : Bytes) (marks : Array Bool) (pending : Nat) : Prop where
  right : ∀ q < marks.size, marks.getD q false = true ↔ IsBoundary bs q ∧ bs[q]? = some 0x5b
  boundary : IsBoundary bs (marks.size + pending)
  data : ∀ q, marks.size ≤ q → q < marks.size + pending → ¬ IsBoundary bs q

theorem getD_push (marks : Array Bool) (mark : Bool) (q : Nat) :
    (marks.push mark).getD q false = if q = marks.size then mark else marks.getD q false := by
  simp only [Array.getD_eq_getD_getElem?, Array.getElem?_push]
  split_ifs <;> rfl

/-- One more mark. -/
theorem Marked.push {marks : Array Bool} {pending pending' : Nat} {mark : Bool}
    (h : Marked bs marks pending)
    (hmark : mark = true ↔ IsBoundary bs marks.size ∧ bs[marks.size]? = some 0x5b)
    (hboundary : IsBoundary bs (marks.size + 1 + pending'))
    (hdata : ∀ q, marks.size < q → q < marks.size + 1 + pending' → ¬ IsBoundary bs q) :
    Marked bs (marks.push mark) pending' where
  right q hq := by
    rw [Array.size_push] at hq
    rw [getD_push]
    split_ifs with heq
    · rw [heq, hmark]
    · exact h.right q (by omega)
  boundary := by rwa [Array.size_push]
  data q hq hlt := by
    rw [Array.size_push] at hq hlt
    exact hdata q hq hlt

theorem Marked.markNext {marked : Array Bool × Nat} (h : Marked bs marked.1 marked.2)
    (hbyte : bs[marked.1.size]? = some byte) :
    Marked bs (Code.markNext marked byte).1 (Code.markNext marked byte).2 := by
  obtain ⟨marks, pending⟩ := marked
  dsimp only at h hbyte
  cases pending with
  | succ rest =>
    show Marked bs (marks.push false) rest
    have hnot := h.data marks.size le_rfl (by omega)
    refine h.push (by simp [hnot]) ?_ fun q hq hlt => h.data q hq.le (by omega)
    rw [Nat.add_right_comm]
    exact h.boundary
  | zero =>
    show Marked bs (marks.push (byte == 0x5b)) (Opcode.dataWidth byte)
    refine h.push ?_ (.next h.boundary hbyte) fun q hq hlt hq' => ?_
    · have hboundary : IsBoundary bs marks.size := h.boundary
      simp [hbyte, hboundary]
    · have := hq'.next_le h.boundary hq hbyte
      omega

/-- The marks of all bytes are right. -/
theorem marked_markAll (bs : Bytes) :
    (markAll bs).size = bs.size ∧ ∃ pending, Marked bs (markAll bs) pending := by
  have hread : ∀ (l : List UInt8) (marked : Array Bool × Nat), bs.toList.drop marked.1.size = l →
      marked.1.size ≤ bs.size → Marked bs marked.1 marked.2 →
      (l.foldl Code.markNext marked).1.size = bs.size ∧
        Marked bs (l.foldl Code.markNext marked).1 (l.foldl Code.markNext marked).2 := by
    intro l
    induction l with
    | nil =>
      intro marked hdrop hsize h
      have hlength := congrArg List.length hdrop
      rw [List.length_drop, Array.length_toList, List.length_nil] at hlength
      exact ⟨by simp only [List.foldl_nil]; omega, h⟩
    | cons b l ih =>
      intro marked hdrop _ h
      have hbyte : bs[marked.1.size]? = some b := by
        have := congrArg List.head? hdrop
        rwa [List.head?_drop, List.head?_cons, Array.getElem?_toList] at this
      have hlt : marked.1.size < bs.size := (Array.getElem?_eq_some_iff.1 hbyte).1
      have hsize : (Code.markNext marked b).1.size = marked.1.size + 1 := by
        unfold Code.markNext
        split <;> exact Array.size_push ..
      refine ih _ ?_ (hsize ▸ hlt) (h.markNext hbyte)
      rw [hsize, ← List.tail_drop, hdrop, List.tail_cons]
  have hfirst : Marked bs #[] 0 :=
    ⟨fun q hq => absurd hq (Nat.not_lt_zero q), .first, fun q hq hlt => by simp at hlt⟩
  obtain ⟨hsize, hmarked⟩ := hread bs.toList (#[], 0) rfl (Nat.zero_le _) hfirst
  rw [Array.foldl_toList] at hsize hmarked
  exact ⟨hsize, _, hmarked⟩

/-- A jump may lead to the boundaries that hold `0x5b`. -/
theorem isJumpDest_iff (c : Code) (place : Nat) :
    c.isJumpDest place = true ↔ IsBoundary c.bytes place ∧ c.bytes[place]? = some 0x5b := by
  obtain ⟨hsize, pending, h⟩ := marked_markAll c.bytes
  rw [isJumpDest, c.marks_eq]
  by_cases hplace : place < c.bytes.size
  · exact h.right place (hsize ▸ hplace)
  · have hbeyond : c.bytes.size ≤ place := Nat.le_of_not_lt hplace
    simp [Array.getD_eq_getD_getElem?, hsize, hbeyond]

theorem mem_jumpDests_iff (c : Code) (place : Nat) :
    place ∈ c.jumpDests ↔ IsBoundary c.bytes place ∧ c.bytes[place]? = some 0x5b := by
  rw [jumpDests, List.mem_filter, List.mem_range, isJumpDest_iff]
  refine ⟨fun h => h.2, fun h => ⟨?_, h⟩⟩
  exact (Array.getElem?_eq_some_iff.1 h.2).1

/-- Data that is cut off is data all the same. -/
example : (ofBytes #[0x5b, 0x62, 0x5b, 0x5b]).jumpDests = [0] := by decide

end Code

variable {rules : CreationRules} {a b : Activity} {s t : Machine} {below : List Frame}
  {byte : UInt8}

def Frame.AtBoundary (f : Frame) : Prop := Code.IsBoundary f.context.code.bytes f.pc

namespace Activity

/-- A jump may lead to this place: an operation begins there, and it is a destination. -/
def MayJump (a : Activity) (place : Int) : Prop :=
  0 ≤ place ∧ Code.IsBoundary a.frame.context.code.bytes place.toNat ∧
    a.frame.context.code.bytes[place.toNat]? = some 0x5b

theorem mayJump_iff {place : Int} : a.MayJump place ↔
    0 ≤ place ∧ a.frame.context.code.isJumpDest place.toNat = true := by
  rw [MayJump, Code.isJumpDest_iff]

theorem Stays.atBoundary (h : a.Stays b) (ha : a.frame.AtBoundary) : b.frame.AtBoundary := by
  unfold Frame.AtBoundary at *
  rw [h.context]
  rcases h.place with hpc | hdest
  · rwa [hpc]
  · exact ((Code.isJumpDest_iff _ _).1 hdest).1

end Activity

theorem Opcode.width_eq_zero {op : Opcode} (h : ∀ n, op ≠ push n) : op.width = 0 := by
  cases op with
  | push n => exact absurd rfl (h n)
  | _ => rfl

namespace Exec

/-- After an operation the frame stands at a boundary again, also where it was stopped. -/
theorem execute_atBoundary {op : Opcode} {info : OpcodeInfo} (hinfo : op.info? = some info)
    (hsize : info.inputs ≤ a.frame.stack.items.length)
    (hnext : Code.IsBoundary a.frame.context.code.bytes (a.frame.pc + op.width)) :
    (execute op).Yields a (fun _ b => b.frame.AtBoundary) fun _ b => b.frame.AtBoundary := by
  by_cases hpush : ∃ n, op = .push n
  · obtain ⟨n, rfl⟩ := hpush
    rw [← Activity.withItems_of_items (a := a) rfl, Yields, execute_push]
    exact hnext
  · have hops := not_exists.1 hpush
    rw [Opcode.width_eq_zero hops] at hnext
    exact ((bids_execute hinfo hops).stays hsize).imp (fun _ _ h => h.atBoundary hnext)
      fun _ _ h => h.atBoundary hnext

theorem step_atBoundary (hbyte : a.nextByte? = some byte) (h : a.frame.AtBoundary) :
    (step byte).Yields a (fun _ b => b.frame.AtBoundary) fun _ b => b.frame.AtBoundary := by
  unfold step
  cases hop : Opcode.ofByte? byte with
  | none => exact h
  | some op =>
    dsimp only
    cases hinfo : op.info? with
    | none => exact h
    | some info =>
      refine ((begin_checks info a).imp (fun _ _ h => h) ?_).bind ?_
      · rintro _ _ rfl
        exact h
      · rintro _ _ ⟨rfl, hinputs, -⟩
        have hnext : Code.IsBoundary a.frame.context.code.bytes
            (a.frame.pc + 1 + Opcode.dataWidth byte) := h.next hbyte
        rw [← Opcode.byte_of_ofByte? hop, Opcode.dataWidth_byte] at hnext
        exact execute_atBoundary (a := paid info a) hinfo hinputs hnext

def lastJump (place : Int) : Exec (Option Frame) := jumpTo place >>= fun _ => Pure.pure none

theorem execute_jump (a : Activity) (place : Int) (rest : List Int) :
    execute .jump (a.withItems (place :: rest)) = lastJump place (a.withItems rest) := by
  unfold execute jump
  rw [bind_assoc]
  rfl

theorem execute_jumpi {condition : Int} (h : condition ≠ 0) (a : Activity) (place : Int)
    (rest : List Int) :
    execute .jumpi (a.withItems (place :: condition :: rest)) =
      lastJump place (a.withItems rest) := by
  unfold execute jumpi
  simp only [bind_assoc]
  show ((if condition ≠ 0 then jumpTo place else Pure.pure ()) >>= _) (a.withItems rest) = _
  rw [if_pos h]
  rfl

/-- A jump leads to its place, or it is refused. -/
theorem lastJump_withItems (a : Activity) (place : Int) (items : List Int) :
    (a.MayJump place → lastJump place (a.withItems items) =
      .ok none ((a.mapFrame fun f => { f with pc := place.toNat }).withItems items)) ∧
    (¬ a.MayJump place → lastJump place (a.withItems items) =
      .error (.halt .invalidJumpDestination) (a.withItems items)) := by
  have hjump : lastJump place (a.withItems items) =
      (do
        haltIf (place < 0 ∨ ! a.frame.context.code.isJumpDest place.toNat) .invalidJumpDestination
        update fun f => { f with pc := place.toNat }
        return none : Exec (Option Frame)) (a.withItems items) := by
    unfold lastJump jumpTo
    simp only [bind_assoc]
    rfl
  have hrefused : (place < 0 ∨ ! a.frame.context.code.isJumpDest place.toNat) ↔
      ¬ a.MayJump place := by
    rw [Activity.mayJump_iff]
    simp [imp_iff_not_or]
  rw [hjump, haltIf]
  constructor
  · intro h
    rw [if_neg (hrefused.not.2 (not_not.2 h))]
    rfl
  · intro h
    rw [if_pos (hrefused.2 h)]
    rfl

end Exec

namespace Machine
open Activity

def AtBoundaries (m : Machine) : Prop := ∀ f ∈ m.frames, f.AtBoundary

theorem atBoundaries_atop : (a.atop below).AtBoundaries ↔
    a.frame.AtBoundary ∧ ∀ f ∈ below, f.AtBoundary := List.forall_mem_cons

theorem AtBoundaries.move (h : s.AtBoundaries) (hmove : Move rules s t) : t.AtBoundaries := by
  cases hmove with
  | @start a below =>
    rw [atBoundaries_atop] at h ⊢
    obtain ⟨status, hframe⟩ := start_frame rules a
    rwa [hframe]
  | runOff below =>
    rw [atBoundaries_atop] at h ⊢
    exact h
  | step below _ hbyte hstep =>
    rw [atBoundaries_atop] at h ⊢
    exact ⟨(Exec.step_atBoundary hbyte h.1).of_ok hstep, h.2⟩
  | @open_ a a' byte child below _ hbyte hstep =>
    rw [atBoundaries_atop] at h
    have hchild : child.AtBoundary := by
      rw [Exec.Fresh.of_ok hstep]
      exact .first
    have hopener : a'.waiting.AtBoundary := (Exec.step_atBoundary hbyte h.1).of_ok hstep
    exact List.forall_mem_cons.2 ⟨hchild, List.forall_mem_cons.2 ⟨hopener, h.2⟩⟩
  | @halt a a' byte reason below _ hbyte hstep =>
    rw [atBoundaries_atop] at h ⊢
    have hstopped : a'.frame.AtBoundary := (Exec.step_atBoundary hbyte h.1).of_error hstep
    exact ⟨hstopped, h.2⟩
  | @close a below hleft =>
    rw [atBoundaries_atop] at h
    cases below with
    | nil => rintro _ ⟨⟩
    | cons opener rest =>
      have hopener := List.forall_mem_cons.1 h.2
      refine List.forall_mem_cons.2 ⟨?_, hopener.2⟩
      unfold Frame.AtBoundary
      rw [Frame.resume_context, Frame.resume_pc]
      exact hopener.1

theorem AtBoundaries.of_reaches (h : s.AtBoundaries) (hreach : Reaches rules s t) :
    t.AtBoundaries := by
  induction hreach with
  | refl => exact h
  | tail _ hmove ih => exact ih.move hmove

theorem AtBoundaries.of_occurs (h : s.AtBoundaries) (ht : Occurs rules s t) : t.AtBoundaries := by
  rcases ht with hreach | ⟨u, fault, hreach, a, a', byte, below, rfl, -, hbyte, hstep, rfl⟩
  · exact h.of_reaches hreach
  · have hbefore := atBoundaries_atop.1 (h.of_reaches hreach)
    exact atBoundaries_atop.2
      ⟨(Exec.step_atBoundary hbyte hbefore.1).of_error hstep, hbefore.2⟩

end Machine

theorem Meter.opening_atBoundaries (m : Meter) (code : Bytes) (world : World) (gasLimit : Int) :
    (m.opening code world gasLimit).AtBoundaries :=
  List.forall_mem_singleton.2 .first

open Exec

/-- In every run each frame stands at a boundary of its code, which is the beginning of an operation
or lies past the last byte; the analysis of some code finds just the boundaries that hold `0x5b`. So
a jump succeeds just when it is one to these, and leads there, and so does a jump with a condition
that is not zero. -/
theorem data_is_not_executed :
    (∀ (m : Meter) (code : Bytes) (world : World) (gasLimit : Int) (t : Machine),
      Occurs {} (m.opening code world gasLimit) t → ∀ f ∈ t.frames,
        f.context.code.size ≤ f.pc ∨ Code.IsBoundary f.context.code.bytes f.pc) ∧
    (∀ (c : Code) (place : Nat),
      place ∈ c.jumpDests ↔ Code.IsBoundary c.bytes place ∧ c.bytes[place]? = some 0x5b) ∧
    ∀ (a : Activity) (place : Int) (rest : List Int),
      (a.MayJump place → execute .jump (a.withItems (place :: rest)) =
        .ok none ((a.mapFrame fun f => { f with pc := place.toNat }).withItems rest)) ∧
      (¬ a.MayJump place → execute .jump (a.withItems (place :: rest)) =
        .error (.halt .invalidJumpDestination) (a.withItems rest)) ∧
      ∀ condition : Int,
        (condition ≠ 0 → a.MayJump place →
          execute .jumpi (a.withItems (place :: condition :: rest)) =
            .ok none ((a.mapFrame fun f => { f with pc := place.toNat }).withItems rest)) ∧
        (condition ≠ 0 → ¬ a.MayJump place →
          execute .jumpi (a.withItems (place :: condition :: rest)) =
            .error (.halt .invalidJumpDestination) (a.withItems rest)) ∧
        (condition = 0 → execute .jumpi (a.withItems (place :: condition :: rest)) =
          .ok none (a.withItems rest)) := by
  refine ⟨?_, Code.mem_jumpDests_iff, fun a place rest => ?_⟩
  · intro m code world gasLimit t ht f hf
    exact .inr ((m.opening_atBoundaries code world gasLimit).of_occurs ht f hf)
  · obtain ⟨htaken, hrefused⟩ := lastJump_withItems a place rest
    rw [execute_jump]
    refine ⟨htaken, hrefused, fun condition => ⟨fun hc => ?_, fun hc => ?_, ?_⟩⟩
    · rwa [execute_jumpi hc]
    · rwa [execute_jumpi hc]
    · rintro rfl
      rfl

/-- Pushes 4 and jumps there, over a stop and before a push whose data is cut off. -/
def jumpingToEnd : Bytes := #[0x60, 0x04, 0x56, 0x00, 0x5b, 0x61, 0x5b]

def atJump : Activity := (default : Activity).mapFrame fun f =>
  { f with context := { f.context with code := Code.ofBytes jumpingToEnd } }

theorem data_is_not_executed_jumpingToEnd :
    (∃ (a : Activity) (below : List Frame),
      Occurs {} (({} : Meter).opening jumpingToEnd (Fixture.world jumpingToEnd) 1000)
        (a.atop below) ∧ a.frame.pc = 4 ∧ Code.IsBoundary jumpingToEnd 4) ∧
    6 ∉ (Code.ofBytes jumpingToEnd).jumpDests ∧
    ¬ (Code.IsBoundary jumpingToEnd 6 ∧ jumpingToEnd[6]? = some 0x5b) ∧
    atJump.MayJump 4 ∧ ¬ atJump.MayJump 6 ∧
    execute .jump (atJump.withItems [4]) =
      .ok none ((atJump.mapFrame fun f => { f with pc := 4 }).withItems []) ∧
    execute .jumpi (atJump.withItems [6, 1]) =
      .error (.halt .invalidJumpDestination) (atJump.withItems []) := by
  obtain ⟨hplaces, hdests, hjumps⟩ := data_is_not_executed
  have hrun : ((({} : Meter).opening jumpingToEnd (Fixture.world jumpingToEnd)
      1000).movedAbove? {} 0 3).any (Machine.sees fun a _ =>
        decide (a.frame.pc = 4) && a.frame.context.code.bytes == jumpingToEnd) = true := by
    decide
  obtain ⟨a, below, hreach, hsees⟩ := Machine.exists_of_sees hrun
  obtain ⟨hpc, hcode⟩ := Bool.and_eq_true_iff.1 hsees
  replace hpc := of_decide_eq_true hpc
  replace hcode := beq_iff_eq.1 hcode
  have hsix : 6 ∉ (Code.ofBytes jumpingToEnd).jumpDests := by decide
  have hmay : atJump.MayJump 4 :=
    ⟨by decide, (hdests (Code.ofBytes jumpingToEnd) 4).1 (by decide)⟩
  have hnot : ¬ (Code.IsBoundary jumpingToEnd 6 ∧ jumpingToEnd[6]? = some 0x5b) :=
    (hdests (Code.ofBytes jumpingToEnd) 6).not.1 hsix
  have hmayNot : ¬ atJump.MayJump 6 := fun h => hnot h.2
  refine ⟨⟨a, below, .inl hreach.reaches, hpc, ?_⟩, hsix, hnot, hmay, hmayNot,
    (hjumps atJump 4 []).1 hmay, ((hjumps atJump 6 []).2.2 1).2.1 (by decide) hmayNot⟩
  have hboundary := hplaces {} jumpingToEnd _ 1000 _ (.inl hreach.reaches) a.frame
    (List.mem_cons_self ..)
  rw [Code.size, hcode, hpc] at hboundary
  exact hboundary.resolve_left (by decide)

end Gasometer
