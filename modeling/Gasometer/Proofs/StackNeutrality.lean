import Gasometer.Proofs.Drafts
import Gasometer.Proofs.FlatOperations
import Gasometer.Proofs.FrameEnds
import Gasometer.Proofs.StackLimits

/-!
# What a body leaves on the stack

A frame that comes to the body of a step goes through it in the same way whatever words lie on its
stack. It is halted on the way, or it comes to the end of the body with just these words, none of
which it has read or changed. Frames that its operations open come to their ends first. So the bytes
of the body may be embedded where nothing is known of the stack.
-/
namespace Gasometer
open Assembly

variable {rules : CreationRules} {k : Scale} {a b c : Activity} {below : List Frame} {n : Nat}
  {op : Opcode} {info : OpcodeInfo} {child : Frame} {child? : Option Frame}

namespace Activity

/-! Words beneath those of a frame. -/

def onItems (a : Activity) (rest : List Int) : Activity := a.withItems (a.frame.stack.items ++ rest)

theorem onItems_withItems (a : Activity) (items rest : List Int) :
    (a.withItems items).onItems rest = a.withItems (items ++ rest) := rfl

def onZeros (a : Activity) (n : Nat) : Activity := a.onItems (List.replicate n 0)

def resumed (a c : Activity) : Activity := ⟨a.waiting.resume c.frame, c.world.close, c.access⟩

theorem resumed_onItems (a c : Activity) (rest : List Int) :
    (a.onItems rest).resumed c = (a.resumed c).onItems rest := by
  have hresume : (a.onItems rest).waiting.resume c.frame =
      { a.waiting.resume c.frame with
        stack := { items := (a.waiting.resume c.frame).stack.items ++ rest } } := by
    unfold Frame.resume
    cases c.frame.context.completion <;> dsimp only <;> split_ifs <;> rfl
  exact congrArg (Activity.mk · c.world.close c.access) hresume

/-- Whether these bytes are the next ones in the code. -/
def Faces (a : Activity) (bytes : List UInt8) : Prop :=
  bytes <+: a.frame.context.code.bytes.toList.drop a.frame.pc

instance (a : Activity) (bytes : List UInt8) : Decidable (a.Faces bytes) :=
  inferInstanceAs (Decidable (_ <+: _))

theorem Faces.nextByte? {byte : UInt8} {bytes : List UInt8} (h : a.Faces (byte :: bytes)) :
    a.nextByte? = some byte := by
  obtain ⟨rest, hrest⟩ := h
  have hfirst : (a.frame.context.code.bytes.toList.drop a.frame.pc)[0]? = some byte := by
    rw [← hrest]
    rfl
  rwa [List.getElem?_drop, Nat.add_zero, Array.getElem?_toList] at hfirst

theorem Faces.advance {first bytes : List UInt8} (h : a.Faces (first ++ bytes))
    (hcontext : b.frame.context = a.frame.context)
    (hpc : b.frame.pc = a.frame.pc + first.length) : b.Faces bytes := by
  obtain ⟨rest, hrest⟩ := h
  refine ⟨rest, ?_⟩
  rw [hcontext, hpc, ← List.drop_drop, ← hrest, List.append_assoc, List.drop_left]

end Activity

/-! Single operations. -/

namespace Exec
open Activity

/-- A step that can begin executes its operation. -/
theorem step_of_canBegin (hinfo : op.info? = some info)
    (h : info.CanBegin a.frame.stack.items.length a.frame.gas) :
    step op.byte a = execute op (paid info a) := by
  have hbegin := begin_ok h
  have hbind : (begin_ info >>= fun _ => execute op) a =
      EStateM.bind (begin_ info) (fun _ => execute op) a := rfl
  unfold step
  rw [Opcode.ofByte?_byte]
  simp only [hinfo]
  rw [hbind, EStateM.bind]
  cases hx : begin_ info a with
  | ok u b => rw [hbegin.of_ok hx]
  | error e b => exact (hbegin.of_error hx).elim

/-- Any other step halts the frame. -/
theorem step_of_not_canBegin (hinfo : op.info? = some info)
    (h : ¬ info.CanBegin a.frame.stack.items.length a.frame.gas) :
    ∃ reason, step op.byte a = .error (.halt reason) a := by
  have hstops : (begin_ info).Yields a (fun _ _ => False)
      fun e b => ∃ reason, e = .halt reason ∧ b = a := by
    unfold begin_
    refine Yields.view ?_
    rw [a.frame.stack.size_eq]
    refine (Yields.haltIf fun _ => ⟨_, rfl, rfl⟩).bind ?_
    rintro _ _ ⟨hinputs, rfl⟩
    refine (Yields.haltIf fun _ => ⟨_, rfl, rfl⟩).bind ?_
    rintro _ _ ⟨hroom, rfl⟩
    refine Yields.view ((Yields.haltIf fun _ => ⟨_, rfl, rfl⟩).bind ?_)
    rintro _ _ ⟨hgas, rfl⟩
    exact h ⟨not_lt.1 hinputs, not_lt.1 hroom, not_lt.1 hgas⟩
  have hstep : (step op.byte).Yields a (fun _ _ => False)
      fun e b => ∃ reason, e = .halt reason ∧ b = a := by
    unfold step
    rw [Opcode.ofByte?_byte]
    simp only [hinfo]
    exact hstops.bind fun _ _ hnone => hnone.elim
  cases hx : step op.byte a with
  | ok child? b => exact (hstep.of_ok hx).elim
  | error e b =>
    obtain ⟨reason, rfl, rfl⟩ := hstep.of_error hx
    exact ⟨reason, rfl⟩

/-- With the items that it takes on the stack, an operation does one thing, whatever `n` words lie
beneath these items: it halts the frame, or it is done, or it meets a fault. -/
theorem step_onItems (hinfo : op.info? = some info)
    (hinputs : info.inputs ≤ a.frame.stack.items.length) (n : Nat) :
    (∀ rest, rest.length = n →
      ∃ reason b, step op.byte (a.onItems rest) = .error (.halt reason) b) ∨
    (∃ (child? : Option Frame) (b : Activity), execute op (paid info a) = .ok child? b ∧
      b.frame.stack.items.length + child?.toList.length + info.inputs =
        a.frame.stack.items.length + info.outputs ∧
      ∀ rest, rest.length = n → step op.byte (a.onItems rest) = .ok child? (b.onItems rest)) ∨
    ∃ (fault : Fault) (b : Activity), ∀ rest, rest.length = n →
      step op.byte (a.onItems rest) = .error (.fault fault) (b.onItems rest) := by
  have hheight (rest : List Int) (hrest : rest.length = n) :
      (a.onItems rest).frame.stack.items.length = a.frame.stack.items.length + n := by
    rw [onItems, items_withItems, List.length_append, hrest]
  by_cases hbegin : info.CanBegin (a.frame.stack.items.length + n) a.frame.gas
  · have hstep (rest : List Int) (hrest : rest.length = n) :
        step op.byte (a.onItems rest) = execute op ((paid info a).onItems rest) :=
      step_of_canBegin hinfo (by rwa [hheight rest hrest])
    have hsplit (rest : List Int) : (paid info a).onItems rest =
        (paid info a).withItems (a.frame.stack.items.take info.inputs ++
          (a.frame.stack.items.drop info.inputs ++ rest)) := by
      rw [← List.append_assoc, List.take_append_drop]
      rfl
    have htop := List.length_take_of_le hinputs
    rcases settledBy_of_length hinfo (paid info a) htop with
      ⟨child?, b, top, hlength, hdone⟩ | ⟨cause, b, top, -, hstopped⟩
    · refine .inr (.inl ⟨child?, b.withItems (top ++ a.frame.stack.items.drop info.inputs), ?_, ?_,
        fun rest hrest => ?_⟩)
      · rw [← hdone]
        exact congrArg (execute op) ((paid info a).withItems_take_drop info.inputs).symm
      · rw [items_withItems, List.length_append, List.length_drop]
        omega
      · rw [hstep rest hrest, hsplit, hdone, onItems_withItems, List.append_assoc]
    · cases cause with
      | halt reason =>
        refine .inl fun rest hrest => ?_
        have hhalt := hstep rest hrest
        rw [hsplit, hstopped] at hhalt
        exact ⟨reason, _, hhalt⟩
      | fault fault =>
        refine .inr (.inr ⟨fault, b.withItems (top ++ a.frame.stack.items.drop info.inputs),
          fun rest hrest => ?_⟩)
        rw [hstep rest hrest, hsplit, hstopped, onItems_withItems, List.append_assoc]
  · refine .inl fun rest hrest => ?_
    obtain ⟨reason, hhalt⟩ := step_of_not_canBegin (a := a.onItems rest) hinfo
      (by rwa [hheight rest hrest])
    exact ⟨reason, _, hhalt⟩

/-- A push goes past its data, and a plain operation stays where it is. -/
theorem place_of_execute (hinfo : op.info? = some info)
    (hop : op.IsPlain ∨ ∃ w, op = .push w) (hinputs : info.inputs ≤ a.frame.stack.items.length)
    (h : execute op a = .ok child? b) :
    b.frame.context = a.frame.context ∧ b.frame.status = a.frame.status ∧
      b.frame.pc = a.frame.pc + op.width := by
  refine ⟨(Local.of_ok h).context, ?_⟩
  rcases hop with hplain | ⟨w, rfl⟩
  · have hstacks := Stacks.refl a (List.take_append_drop info.inputs a.frame.stack.items).symm
    rw [List.length_take_of_le hinputs] at hstacks
    have hwidth : op.width = 0 := by
      cases op with
      | push => exact hplain.elim
      | _ => rfl
    have hoffers := (offersExecute hinfo hplain).of_ok h hstacks
    rw [hwidth]
    cases child? with
    | none => exact ⟨hoffers.status, hoffers.pc⟩
    | some child =>
      obtain ⟨_, -, hoffered⟩ := hoffers
      exact ⟨hoffered.status, hoffered.pc⟩
  · have hpush := execute_push w a a.frame.stack.items
    rw [withItems_of_items rfl, h] at hpush
    cases hpush
    exact ⟨rfl, rfl⟩

end Exec
/-! The way of a frame. -/

namespace Activity

/-- The frame does an operation, over these other frames. If it opens a frame, then that frame and
all that it opens come to their ends first. -/
inductive Operates (rules : CreationRules) (below : List Frame) : Activity → Activity → Prop
  | alone {a b : Activity} {byte : UInt8} (hstatus : a.frame.status = .executing)
    (hbyte : a.nextByte? = some byte) (hstep : Exec.step byte a = .ok none b) :
    Operates rules below a b
  | opens {a b c : Activity} {byte : UInt8} {child : Frame}
    (hstatus : a.frame.status = .executing) (hbyte : a.nextByte? = some byte)
    (hstep : Exec.step byte a = .ok (some child) b)
    (hlife : ReachesAbove rules (below.length + 1) (b.opening child below)
      (c.atop (b.waiting :: below)))
    (hleft : c.frame.status.IsLeft) : Operates rules below a (b.resumed (c.finish rules))

/-- The frame does the same operation whatever words lie beneath its own, `n` of them, and leaves
these words as they are. -/
def Passes (rules : CreationRules) (below : List Frame) (n : Nat) (a b : Activity) : Prop :=
  ∀ rest : List Int, rest.length = n → Operates rules below (a.onItems rest) (b.onItems rest)

def Halts (a : Activity) : Prop :=
  a.frame.status = .executing ∧ ∃ byte reason b, a.nextByte? = some byte ∧
    Exec.step byte a = .error (.halt reason) b

/-- The frame meets a fault before its next operation is done, perhaps in a frame that this one
opens. -/
def Breaks (rules : CreationRules) (below : List Frame) (fault : Fault) (a : Activity) : Prop :=
  ∃ t u, ReachesAbove rules below.length (a.atop below) t ∧ Faults t fault u

/-- Whatever words lie beneath its own, `n` of them, the frame goes the same way, and neither reads
nor changes these words. It comes to a state with this property, unless it is halted on the way or
meets a fault that is excused. -/
def Attains (rules : CreationRules) (below : List Frame) (n : Nat) (excused : Fault → Prop)
    (a : Activity) (goal : Activity → Prop) : Prop :=
  ∃ b, Relation.ReflTransGen (Passes rules below n) a b ∧
    (goal b ∨ (∀ rest : List Int, rest.length = n → (b.onItems rest).Halts) ∨
      ∃ fault, excused fault ∧
        ∀ rest : List Int, rest.length = n → (b.onItems rest).Breaks rules below fault)

variable {excused : Fault → Prop} {mid goal : Activity → Prop}

theorem Attains.bind (h : a.Attains rules below n excused mid)
    (hnext : ∀ b, Relation.ReflTransGen (Passes rules below n) a b → mid b →
      b.Attains rules below n excused goal) : a.Attains rules below n excused goal := by
  obtain ⟨b, hpasses, hmid | hends⟩ := h
  · obtain ⟨c, hmore, hend⟩ := hnext b hpasses hmid
    exact ⟨c, hpasses.trans hmore, hend⟩
  · exact ⟨b, hpasses, .inr hends⟩

theorem Attains.mono (h : a.Attains rules below n excused mid) (hgoal : ∀ b, mid b → goal b) :
    a.Attains rules below n excused goal :=
  h.bind fun b _ hb => ⟨b, .refl, .inl (hgoal b hb)⟩

/-- What is done above an opener is done above the frames beneath it. -/
theorem reachesAbove_of_opening {t : Machine}
    (hopens : Move rules (a.atop below) (b.opening child below))
    (h : ReachesAbove rules (below.length + 1) (b.opening child below) t) :
    ReachesAbove rules below.length (a.atop below) t :=
  .head ⟨hopens, Nat.lt_add_of_pos_right Nat.two_pos⟩ <|
    Relation.ReflTransGen.mono (fun _ _ hmove => ⟨hmove.1, Nat.lt_of_succ_lt hmove.2⟩) _ _ h

theorem Operates.reaches (h : Operates rules below a b) :
    ReachesAbove rules below.length (a.atop below) (b.atop below) := by
  cases h with
  | alone hstatus hbyte hstep =>
    exact .single ⟨.step below hstatus hbyte hstep, Nat.lt_succ_self _⟩
  | @opens b c byte child hstatus hbyte hstep hlife hleft =>
    have hends := reachesAbove_of_opening (.open_ below hstatus hbyte hstep) hlife
    exact hends.tail ⟨.close (b.waiting :: below) hleft, Nat.lt_succ_self _⟩

end Activity

namespace Machine
open Activity

/-- Other items of the run on the stack make no difference to whether a run can begin. -/
theorem Starts.withItems (h : (a.atop below).Starts rules k) {items : List Int}
    (hitems : ∀ x ∈ items, k.numbers.Holds x) :
    ((a.withItems items).atop below).Starts rules k where
  sound :=
    { world := h.sound.world
      frames := List.forall_mem_cons.2
        ⟨{ h.sound.activity.frame with stack := hitems }, h.sound.frames_below⟩
      reasons := List.forall_mem_cons.2 (List.forall_mem_cons.1 h.sound.reasons)
      stake := h.sound.stake
      height := h.sound.height
      waits := h.sound.waits }
  rules := h.rules
  room := h.room

theorem Starts.of_passes (h : ((a.onZeros n).atop below).Starts rules k)
    (hpasses : Relation.ReflTransGen (Passes rules below n) a b) :
    ∃ i, ((b.onZeros n).atop below).Starts rules (k.raisedBy i) :=
  h.of_reaches <| hpasses.lift' (fun a => (a.onZeros n).atop below) fun _ _ hpass =>
    (hpass _ List.length_replicate).reaches.reaches

end Machine

namespace Activity
open Exec Machine

/-- An operation that opens a frame is done when that frame has come to its end. Nothing that is
done there depends on the words of the opener. -/
theorem attains_opening {context : Context} {place : Nat} {items : List Int} {byte : UInt8}
    (hstarts : ((a.onZeros n).atop below).Starts rules k)
    (hstatus : a.frame.status = .executing) (hbyte : a.nextByte? = some byte)
    (hstep : ∀ rest, rest.length = n →
      step byte (a.onItems rest) = .ok (some child) (b.onItems rest))
    (hthere : b.At context place items) :
    a.Attains rules below n k.Excuses fun c => ∃ x, c.At context place (x :: items) := by
  have hopens (rest : List Int) (hrest : rest.length = n) :
      Move rules ((a.onItems rest).atop below) ((b.onItems rest).opening child below) :=
    .open_ below hstatus hbyte (hstep rest hrest)
  have hfirst := hopens (List.replicate n 0) List.length_replicate
  obtain ⟨i, hchild⟩ := hstarts.of_reaches (.single hfirst)
  let opened : Activity := ⟨child, b.world.open_, b.access⟩
  have hopened : (opened.atop ((b.onZeros n).waiting :: below)).Starts rules (k.raisedBy i) :=
    hchild
  rcases hopened.ends_over (isLive_of_move hfirst) with
    ⟨c, hleft, hreaches⟩ | ⟨fault, hexcused, hbreaks⟩
  · have hlife (rest : List Int) : ReachesAbove rules (below.length + 1)
        ((b.onItems rest).opening child below) (c.atop ((b.onItems rest).waiting :: below)) :=
      hreaches ((b.onItems rest).waiting :: below) rfl
    have hcompletion : (c.finish rules).frame.context.completion ≠ .silent := by
      rw [finish_context, (hlife []).context_of_opening rfl]
      exact (deed_of_step (hstep (List.replicate n 0) List.length_replicate)).completion
    obtain ⟨x, hx⟩ := Frame.resume_items b.waiting hcompletion
    refine ⟨b.resumed (c.finish rules), .single fun rest hrest => ?_, .inl ⟨x, ?_⟩⟩
    · rw [← resumed_onItems]
      exact .opens hstatus hbyte (hstep rest hrest) (hlife rest) hleft
    · exact
        { context := (Frame.resume_context ..).trans hthere.context
          status := Frame.resume_status ..
          pc := (Frame.resume_pc ..).trans hthere.pc
          items := hx.trans (congrArg (x :: ·) hthere.items) }
  · refine ⟨a, .refl, .inr (.inr ⟨fault, hexcused, fun rest hrest => ?_⟩)⟩
    obtain ⟨t, u, hreach, hfault⟩ := hbreaks ((b.onItems rest).waiting :: below) rfl
    exact ⟨t, u, reachesAbove_of_opening (hopens rest hrest) hreach, hfault⟩

/-- What an operation that has its operands among the words of the frame does. -/
theorem attains_operation {context : Context} {place : Nat} {top : List Int}
    (hstarts : ((a.onZeros n).atop below).Starts rules k) (hat : a.At context place top)
    (hbyte : a.nextByte? = some op.byte) (hinfo : op.info? = some info)
    (hop : op.IsPlain ∨ ∃ w, op = .push w) (hinputs : info.inputs ≤ top.length) :
    a.Attains rules below n k.Excuses fun b =>
      ∃ top', top'.length + info.inputs = top.length + info.outputs ∧
        b.At context (place + (1 + op.width)) top' := by
  rw [← hat.items] at hinputs
  rcases step_onItems hinfo hinputs n with hhalts | ⟨child?, b, hexecute, hheight, hstep⟩ |
    ⟨fault, b, hstep⟩
  · refine ⟨a, .refl, .inr (.inl fun rest hrest => ⟨hat.status, op.byte, ?_⟩)⟩
    obtain ⟨reason, b, hhalt⟩ := hhalts rest hrest
    exact ⟨reason, b, hbyte, hhalt⟩
  · obtain ⟨hcontext, hstatus, hpc⟩ :=
      place_of_execute (a := paid info a) hinfo hop hinputs hexecute
    have hthere : b.At context (place + (1 + op.width)) b.frame.stack.items :=
      { context := hcontext.trans hat.context
        status := hstatus.trans hat.status
        pc := by rw [hpc, ← hat.pc, ← Nat.add_assoc]; rfl
        items := rfl }
    rw [hat.items] at hheight
    cases child? with
    | none =>
      exact ⟨b, .single fun rest hrest => .alone hat.status hbyte (hstep rest hrest),
        .inl ⟨_, hheight, hthere⟩⟩
    | some child =>
      refine (attains_opening hstarts hat.status hbyte hstep hthere).mono ?_
      rintro c ⟨x, hc⟩
      exact ⟨x :: b.frame.stack.items, hheight, hc⟩
  · have hfaults (rest : List Int) (hrest : rest.length = n) :
        Faults ((a.onItems rest).atop below) fault ((b.onItems rest).atop below) :=
      ⟨a.onItems rest, _, op.byte, below, rfl, hat.status, hbyte, hstep rest hrest, rfl⟩
    have hexcused : k.Excuses fault :=
      (hstarts.sound_of_faults (hfaults _ List.length_replicate)).2.2
    exact ⟨a, .refl, .inr (.inr ⟨fault, hexcused, fun rest hrest =>
      ⟨_, _, .refl, hfaults rest hrest⟩⟩)⟩

/-- With such words beneath its own, a frame goes that way. -/
theorem Attains.run (h : a.Attains rules below n excused goal) {rest : List Int}
    (hrest : rest.length = n) :
    ∃ b, ReachesAbove rules below.length
        ((a.onItems rest).atop below) ((b.onItems rest).atop below) ∧
      (goal b ∨ (b.onItems rest).Halts ∨
        ∃ fault, excused fault ∧ (b.onItems rest).Breaks rules below fault) := by
  obtain ⟨b, hpasses, hend⟩ := h
  have hreaches : ReachesAbove rules below.length ((a.onItems rest).atop below)
      ((b.onItems rest).atop below) :=
    hpasses.lift' (fun a => (a.onItems rest).atop below) fun _ _ hpass => (hpass rest hrest).reaches
  refine ⟨b, hreaches, hend.imp_right (Or.imp (fun hhalts => hhalts rest hrest) ?_)⟩
  rintro ⟨fault, hexcused, hbreaks⟩
  exact ⟨fault, hexcused, hbreaks rest hrest⟩

/-- A frame with negative gas is halted at once. -/
theorem attains_of_gas_neg {byte : UInt8}
    (hstatus : a.frame.status = .executing) (hgas : a.frame.gas < 0)
    (hbyte : a.nextByte? = some byte) : a.Attains rules below n excused goal := by
  refine ⟨a, .refl, .inr (.inl fun rest _ => ⟨hstatus, byte, ?_⟩)⟩
  have hrefuses := Exec.step_refuses (a := a.onItems rest) hgas byte
  cases hstep : Exec.step byte (a.onItems rest) with
  | ok child? b => exact (hrefuses.of_ok hstep).elim
  | error e b =>
    obtain ⟨-, reason, -, rfl⟩ := hrefuses.of_error hstep
    exact ⟨reason, b, hbyte, rfl⟩

end Activity

/-! Statements in a row. -/

namespace Assembly
open Activity Machine

variable {p q : List Statement} {s : Statement} {context : Context} {place : Nat} {top : List Int}
  {i j : Nat} {goal : Activity → Prop}

/-- A statement whose operation has its operands, and what comes after it. -/
theorem attains_cons (hstarts : ((a.onZeros n).atop below).Starts rules k)
    (hat : a.At context place top) (hfaces : a.Faces ((s :: q).flatMap (Statement.encode p)))
    (hoperation : s.operation = op.byte) (hsize : s.size = 1 + op.width)
    (hinfo : op.info? = some info) (hop : op.IsPlain ∨ ∃ w, op = .push w)
    (hinputs : info.inputs ≤ top.length)
    (hrest : ∀ (b : Activity) (top' : List Int) (r : Nat),
      ((b.onZeros n).atop below).Starts rules (k.raisedBy r) →
      top'.length + info.inputs = top.length + info.outputs → b.At context (place + s.size) top' →
      b.Faces (q.flatMap (Statement.encode p)) → b.Attains rules below n k.Excuses goal) :
    a.Attains rules below n k.Excuses goal := by
  rw [List.flatMap_cons] at hfaces
  have hbyte : a.nextByte? = some op.byte := hoperation ▸ hfaces.nextByte?
  refine (attains_operation hstarts hat hbyte hinfo hop hinputs).bind ?_
  rintro b hpasses ⟨top', hheight, hthere⟩
  obtain ⟨r, hnext⟩ := hstarts.of_passes hpasses
  rw [← hsize] at hthere
  refine hrest b top' r hnext hheight hthere (hfaces.advance ?_ ?_)
  · rw [hthere.context, hat.context]
  · rw [hthere.pc, hat.pc, Statement.length_encode]

/-- A frame that comes to some statements which have their operands goes through all of them. -/
theorem attains_segment (hq : IsSegment q i j)
    (hstarts : ((a.onZeros n).atop below).Starts rules k) (hat : a.At context place top)
    (hfaces : a.Faces (q.flatMap (Statement.encode p))) (hheight : top.length = i) :
    a.Attains rules below n k.Excuses fun b =>
      ∃ top', top'.length = j ∧ b.At context (place + span q) top' := by
  obtain ⟨hinline, hraises⟩ := hq
  induction hraises generalizing a place top k with
  | nil i => exact ⟨a, .refl, .inl ⟨top, hheight, hat⟩⟩
  | @push width? target q i j _ ih =>
    rw [List.forall_mem_cons] at hinline
    obtain ⟨w, hw, hoperation⟩ := operation_push (Statement.IsInline.isOperation hinline.1)
    have hinfo : (Opcode.push w).info? = some ⟨0, 1, Gas.veryLow, w.val + 1⟩ := rfl
    refine attains_cons hstarts hat hfaces hoperation ?_ hinfo (.inr ⟨w, rfl⟩) (Nat.zero_le _)
      fun b top' r hnext hlength hthere hmore => ?_
    · rw [Statement.size, ← hw]
      rfl
    · rw [span_cons, ← Nat.add_assoc]
      exact ih (k := k.raisedBy r) hnext hthere hmore
        (hlength.trans (congrArg (· + 1) hheight)) hinline.2
  | @plain op info q i j hinfo hplain _ ih =>
    rw [List.forall_mem_cons] at hinline
    have hwidth : op.width = 0 := hinline.1
    refine attains_cons hstarts hat hfaces rfl ?_ hinfo (.inl hplain) (by omega)
      fun b top' r hnext hlength hthere hmore => ?_
    · rw [hwidth]
      rfl
    · rw [span_cons, ← Nat.add_assoc]
      exact ih (k := k.raisedBy r) hnext hthere hmore (by omega) hinline.2

end Assembly

/-! Bodies. -/

/-- A step of this operation that is given what it takes, and after which what it leaves is dropped.
Nothing is asked of its title and of what is run beforehand. -/
structure Step.IsBalanced (s : Step) (op : Opcode) (info : OpcodeInfo) : Prop where
  opcode : s.opcode = .ok op
  known : op.info? = some info
  goesOn : op.isTerminating = false
  noJump : op ≠ .jump ∧ op ≠ .jumpi
  operands : s.operands.length = info.inputs
  pops : s.pops = .ok (info.outputs : Int)
  bare : ∀ o ∈ s.operands, o.IsBare
  data : s.HasData op

namespace Step

variable {s : Step}

theorem IsLoopable.isBalanced (h : s.IsLoopable op info) : s.IsBalanced op info := { h with }

def untitled (s : Step) : Step :=
  { s with name := "", category := "", mnemonic? := some s.mnemonic, preamble := [] }

theorem mnemonic_untitled (s : Step) : s.untitled.mnemonic = s.mnemonic := by
  rw [untitled]
  generalize s.mnemonic = text
  unfold mnemonic
  dsimp only
  split
  · rename_i hnone
    cases hnone
  · rename_i hempty
    exact (Option.some.inj hempty).symm
  · rename_i htext
    exact (Option.some.inj htext).symm

theorem opcode_untitled (s : Step) : s.untitled.opcode = s.opcode := by
  rw [opcode, mnemonic_untitled, opcode]

theorem pops_untitled (s : Step) : s.untitled.pops = s.pops := by
  rw [pops, opcode_untitled, pops]
  rfl

theorem IsBalanced.untitled (h : s.IsBalanced op info) : s.untitled.IsLoopable op info :=
  { h with
    opcode := s.opcode_untitled.trans h.opcode
    pops := s.pops_untitled.trans h.pops
    data := by
      have hdata := h.data
      cases op with
      | push n => exact ⟨s.mnemonic_untitled.symm ▸ hdata.1, hdata.2⟩
      | _ => exact hdata
    title := by rintro c ⟨⟩
    preamble := .inl rfl }

end Step

/-- Whether a launch may meet this fault: more bytes are asked for than can be held, which takes
more gas than any memory costs. -/
def Meter.Short (m : Meter) (gasLimit : Int) (fault : Fault) : Prop :=
  fault.IsShortage ∧ Gas.shortagePrice < m.initialGas gasLimit

namespace LoopProgram
open Activity

variable {s : Step} {m : Meter} {program : Bytes} {world : World} {gasLimit : Int}
  {body : List Statement}

/-- The body of a step does not depend on its title and on what is run beforehand. -/
theorem bodyLines_untitled (s : Step) : bodyLines s.untitled = bodyLines s := by
  have hoperation : operationLine s.untitled = operationLine s := by
    rw [operationLine, Step.mnemonic_untitled, operationLine]
    rfl
  rw [bodyLines, Step.isTerminal, Step.opcode_untitled, Step.pops_untitled, hoperation]
  rfl

/-- The lines of a body ask for statements that need nothing and leave nothing. -/
theorem bodyLines_of_isBalanced (h : s.IsBalanced op info) :
    ∃ lines body, bodyLines s = .ok lines ∧ body ≠ [] ∧ WritesSegment lines body 0 0 := by
  rw [← bodyLines_untitled]
  exact bodyLines_ok h.untitled

/-- Lines that ask for a segment are assembled to its code. -/
theorem WritesSegment.assemble {ls : List String} {i j : Nat} (h : WritesSegment ls body i j) :
    ∃ code : Bytes, assemble ("\n".intercalate ls) = .ok code ∧ code.toList = encode body := by
  refine ⟨(encode body).toArray, assemble_eq_ok_iff.2 ⟨body, h.writes.spells, ?_, rfl⟩, rfl⟩
  refine ⟨?_, fun st hst => (h.isSegment.inline st hst).fits _ _⟩
  rw [Loop.labelNames_of_inline h.isSegment.inline]
  exact .nil

/-- A frame of a launch of words that comes to a body goes through all of it. -/
theorem launch_attains_body (hbody : IsSegment body 0 0) (hne : body ≠ [])
    (hblock : m.block.Sound .word) (hcode : (program.size : Int) < Word.ceiling)
    (hworld : world.IsWordSized) (hgas : m.initialGas gasLimit < Word.ceiling)
    (hreach : Reaches {} (m.opening program world gasLimit) (a.atop below))
    (hstatus : a.frame.status = .executing) (hfaces : a.Faces (encode body)) (n : Nat) :
    (a.withItems []).Attains {} below n (m.Short gasLimit)
      fun b => b.At a.frame.context (a.frame.pc + span body) [] := by
  by_cases hpositive : 0 ≤ m.initialGas gasLimit
  · obtain ⟨k, hwords, hlimit, hstarts⟩ := Meter.starts_words hblock hcode hworld hpositive hgas
    obtain ⟨i, hstarts⟩ := hstarts.of_reaches hreach
    have hzeros : (((a.withItems []).onZeros n).atop below).Starts {} (k.raisedBy i) := by
      refine hstarts.withItems fun x hx => ?_
      rw [List.eq_of_mem_replicate hx]
      exact Numbers.holds_zero
    have hexcused : (k.raisedBy i).Excuses = m.Short gasLimit := by
      funext fault
      simp only [Scale.Excuses, Scale.raisedBy, hwords, hlimit, Meter.Short]
    have hat : (a.withItems []).At a.frame.context a.frame.pc [] := ⟨rfl, hstatus, rfl, rfl⟩
    have hattains := attains_segment hbody hzeros hat hfaces rfl
    rw [hexcused] at hattains
    refine hattains.mono ?_
    rintro b ⟨top, htop, hthere⟩
    obtain rfl := List.length_eq_zero_iff.1 htop
    exact hthere
  · have hpenniless := (Meter.opening_penniless (not_le.1 hpositive)).of_reaches hreach
    obtain ⟨-, hnegative, -⟩ := Machine.penniless_atop.1 hpenniless
    obtain ⟨first, rest, rfl⟩ := List.exists_cons_of_ne_nil hne
    exact attains_of_gas_neg hstatus hnegative hfaces.nextByte?

/-- The body of a step that leaves its frame at work is neutral for the stack. Its lines can be
assembled. Wherever a frame of a launch of words comes to these bytes, it goes the same way whatever
words lie on its stack, and neither reads nor changes them: it comes to the end of the bytes with
nothing on top of these words, unless it is halted on the way, or asks for more bytes than can be
held. In the launch itself it comes there with the stack that it had. So in Yul the bytes may be
embedded as a fragment that takes nothing and leaves nothing. -/
theorem body_neutral (h : s.IsBalanced op info) :
    ∃ (lines : List String) (code : Bytes), bodyLines s = .ok lines ∧
      assemble ("\n".intercalate lines) = .ok code ∧
      (hasYulFunction s = .ok false →
        yulStatement s = .ok ("verbatim_0i_0o(hex\"" ++ code.toHex ++ "\")")) ∧
      ∀ (m : Meter) (program : Bytes) (world : World) (gasLimit : Int), m.block.Sound .word →
        (program.size : Int) < Word.ceiling → world.IsWordSized →
        m.initialGas gasLimit < Word.ceiling →
        ∀ (a : Activity) (below : List Frame),
          Reaches {} (m.opening program world gasLimit) (a.atop below) →
          a.frame.status = .executing → a.Faces code.toList →
          (∀ n, (a.withItems []).Attains {} below n (m.Short gasLimit)
            fun b => b.At a.frame.context (a.frame.pc + code.size) []) ∧
          ∃ b, ReachesAbove {} below.length (a.atop below) (Activity.atop b below) ∧
            (b.At a.frame.context (a.frame.pc + code.size) a.frame.stack.items ∨ b.Halts ∨
              ∃ fault, m.Short gasLimit fault ∧ b.Breaks {} below fault) := by
  obtain ⟨lines, body, hlines, hne, hbody⟩ := bodyLines_of_isBalanced h
  obtain ⟨code, hassemble, hcode⟩ := hbody.assemble
  have hsize : code.size = span body := by
    rw [← Array.length_toList, hcode, encode, length_encode, span]
  refine ⟨lines, code, hlines, hassemble, fun hfunction => ?_, ?_⟩
  · rw [yulStatement_eq_verbatim hfunction hlines, verbatim,
      compile_eq_ok_iff.2 ⟨code, hassemble, rfl⟩]
    rfl
  · intro m program world gasLimit hblock hprogram hworld hgas a below hreach hstatus hfaces
    rw [hcode] at hfaces
    have hattains := launch_attains_body hbody.isSegment hne hblock hprogram hworld hgas hreach
      hstatus hfaces
    rw [← hsize] at hattains
    refine ⟨hattains, ?_⟩
    -- the words beneath are those that the frame has
    obtain ⟨b, hreaches, hend⟩ := (hattains a.frame.stack.items.length).run rfl
    rw [onItems_withItems, List.nil_append, withItems_of_items rfl] at hreaches
    refine ⟨_, hreaches, hend.imp_left fun hthere => ?_⟩
    have hitems : (b.onItems a.frame.stack.items).frame.stack.items = a.frame.stack.items := by
      rw [onItems, items_withItems, hthere.items, List.nil_append]
    exact ⟨hthere.context, hthere.status, hthere.pc, hitems⟩

def dupSecond : Step :=
  { name := "DUP2", category := "stack", operands := [.mnemonic "GAS", .number 5] }

def dupSecondBody : Bytes := #[0x60, 0x05, 0x5a, 0x81, 0x50, 0x50, 0x50]

/-- A launch of this body begins where its bytes are. -/
theorem body_neutral_dupSecond :
    let world := Fixture.world dupSecondBody
    (∃ op info, dupSecond.IsBalanced op info) ∧ hasYulFunction dupSecond = .ok false ∧
      yulStatement dupSecond = .ok "verbatim_0i_0o(hex\"60055a81505050\")" ∧
      ∃ a, (Block.Sound .word ({} : Meter).block ∧ (dupSecondBody.size : Int) < Word.ceiling ∧
          world.IsWordSized ∧ ({} : Meter).initialGas 100 < Word.ceiling ∧
          Reaches {} (({} : Meter).opening dupSecondBody world 100) (Activity.atop a []) ∧
          a.frame.status = .executing ∧ a.Faces dupSecondBody.toList) ∧
        (∀ n, (a.withItems []).Attains {} [] n (({} : Meter).Short 100)
          fun b => b.At a.frame.context (a.frame.pc + 7) []) ∧
        ∃ b, ReachesAbove {} 0 (a.atop []) (Activity.atop b []) ∧
          (b.At a.frame.context (a.frame.pc + 7) a.frame.stack.items ∨ b.Halts ∨
            ∃ fault, ({} : Meter).Short 100 fault ∧ b.Breaks {} [] fault) := by
  intro world
  have hloopable : dupSecond.isLoopable = true := by decide +kernel
  obtain ⟨op, info, hloopable⟩ := Step.isLoopable_of hloopable
  have hfunction : hasYulFunction dupSecond = .ok false := by decide +kernel
  have hassembled : (bodyLines dupSecond).toOption.map
      (fun lines => (assemble ("\n".intercalate lines)).toOption) = some (some dupSecondBody) := by
    decide +kernel
  have hrun : ((({} : Meter).opening dupSecondBody world 100).movedAbove? {} 0 1).any
      (Machine.sees fun a below => decide (below = []) && a.frame.status == .executing &&
        decide (a.Faces dupSecondBody.toList)) = true := by
    decide +kernel
  obtain ⟨lines, code, hlines, hcode, hyul, hneutral⟩ := body_neutral hloopable.isBalanced
  simp only [hlines, hcode, Except.toOption, Option.map_some, Option.some.injEq] at hassembled
  obtain rfl := hassembled
  obtain ⟨a, below, hreach, hthere⟩ := Machine.exists_of_sees hrun
  simp only [Bool.and_eq_true, decide_eq_true_eq, beq_iff_eq] at hthere
  obtain ⟨⟨rfl, hstatus⟩, hfaces⟩ := hthere
  have hsize : (dupSecondBody.size : Int) < Word.ceiling := by decide
  have hblock := Block.sound_default .word
  have hworld := Fixture.world_isWordSized hsize
  have hgas : ({} : Meter).initialGas 100 < Word.ceiling := by decide
  exact ⟨⟨op, info, hloopable.isBalanced⟩, hfunction, hyul hfunction, a,
    ⟨hblock, hsize, hworld, hgas, hreach.reaches, hstatus, hfaces⟩,
    hneutral {} dupSecondBody world 100 hblock hsize hworld hgas a [] hreach.reaches hstatus
      hfaces⟩

end LoopProgram
end Gasometer
