import Gasometer.Proofs.FrameStack
import Gasometer.Proofs.Observations
import Gasometer.Proofs.StackEffects

/-!
# The way of the first frame

An observer can follow the first frame and keep the places of the operations that it executes. In
a run that ends without a halt, each operation that the frame comes to does what it does to the
stack and leads to the next place; if it opens a frame, then that frame and all that it opens come
to their ends first. This needs no numbers to be sound.
-/
namespace Gasometer

/-- Where the first frame has been: the place of its next operation, and the operations that it has
executed with their places. -/
structure Trail where
  next : Nat := 0
  visits : List (Nat × UInt8) := []

def Observer.trail : Observer Trail
  | .operation f byte _, t =>
    if f.context.depth = 0 then ⟨f.pc, t.visits ++ [(t.next, byte)]⟩ else t
  | _, t => t

variable {σ : Type} {rules : CreationRules} {a a' b : Activity} {m m' : Machine}
  {t t' last : Trail} {c : Context}
  {opener : Frame} {lowest : Context}

theorem Observer.trail_told {byte : UInt8} :
    a.told .trail byte a' t = if a'.frame.context.depth = 0 then
      ⟨a'.frame.pc, t.visits ++ [(t.next, byte)]⟩ else t := rfl

namespace Frame

@[simp] theorem resume_pc (f child : Frame) : (f.resume child).pc = f.pc := by
  unfold resume
  cases child.context.completion <;> dsimp only <;> split_ifs <;> rfl

/-- The end of a frame that was opened is an item on the stack of its opener. -/
theorem resume_items (f : Frame) {child : Frame} (h : child.context.completion ≠ .silent) :
    ∃ x, (f.resume child).stack.items = x :: f.stack.items := by
  unfold resume
  cases hc : child.context.completion with
  | silent => exact absurd hc h
  | call => dsimp only; split_ifs <;> exact ⟨_, rfl⟩
  | creation => dsimp only; split_ifs <;> exact ⟨_, rfl⟩

end Frame

/-- The frames above one that waits. The lowest of them has this context, and the first frame is not
among them. -/
def Above (opener : Frame) (lowest : Context) (m : Machine) : Prop :=
  ∃ frames, m.frames = frames ++ [opener] ∧ (∀ f ∈ frames, 0 < f.context.depth) ∧
    (frames.map (·.context)).getLast? = some lowest

theorem Above.of_atop {below : List Frame} (h : Above opener lowest (a.atop below)) :
    ∃ rest, below = rest ++ [opener] ∧ 0 < a.frame.context.depth ∧
      (∀ f ∈ rest, 0 < f.context.depth) ∧
      (a.frame.context :: rest.map (·.context)).getLast? = some lowest := by
  obtain ⟨frames, hframes, hdepth, hlowest⟩ := h
  cases frames with
  | nil => cases hlowest
  | cons f rest =>
    obtain ⟨rfl, rfl⟩ := List.cons.inj hframes
    rw [List.forall_mem_cons] at hdepth
    exact ⟨rest, rfl, hdepth.1, hdepth.2, hlowest⟩

theorem above_atop {rest : List Frame} (hdepth : 0 < a.frame.context.depth)
    (hrest : ∀ f ∈ rest, 0 < f.context.depth)
    (hlowest : (a.frame.context :: rest.map (·.context)).getLast? = some lowest) :
    Above opener lowest (a.atop (rest ++ [opener])) :=
  ⟨a.frame :: rest, rfl, List.forall_mem_cons.2 ⟨hdepth, hrest⟩, hlowest⟩

/-- Frames above one that waits are not followed, until the lowest of them has come to its end. -/
theorem Above.watched (h : Above opener lowest m) (hmove : Watched rules .trail (m, t) (m', t')) :
    t' = t ∧ (Above opener lowest m' ∨
      ∃ g, g.context = lowest ∧ m'.frames = [opener.resume g]) := by
  cases hmove with
  | @start a below _ hstatus =>
    obtain ⟨rest, rfl, hdepth, hrest, hlowest⟩ := h.of_atop
    rw [← Activity.start_context rules a] at hdepth hlowest
    exact ⟨rfl, .inl (above_atop hdepth hrest hlowest)⟩
  | @runOff a below _ hstatus hbyte =>
    obtain ⟨rest, rfl, hdepth, hrest, hlowest⟩ := h.of_atop
    exact ⟨rfl, .inl (above_atop (a := a.runOff) hdepth hrest hlowest)⟩
  | @step a a' byte below _ hstatus hbyte hstep =>
    obtain ⟨rest, rfl, hdepth, hrest, hlowest⟩ := h.of_atop
    rw [← (Exec.Local.of_ok hstep).context] at hdepth hlowest
    exact ⟨if_neg hdepth.ne', .inl (above_atop hdepth hrest hlowest)⟩
  | @open_ a a' byte child below _ hstatus hbyte hstep =>
    obtain ⟨rest, rfl, hdepth, hrest, hlowest⟩ := h.of_atop
    rw [← (Exec.Local.of_ok hstep).context] at hdepth hlowest
    have hchild := (Exec.isOpenedBy_of_step hstep).depth
    refine ⟨if_neg hdepth.ne', .inl ⟨child :: { a'.frame with status := .suspended } :: rest, rfl,
      ?_, ?_⟩⟩
    · exact List.forall_mem_cons.2 ⟨by omega, List.forall_mem_cons.2 ⟨hdepth, hrest⟩⟩
    · simpa using hlowest
  | @halt a a' byte reason below _ hstatus hbyte hstep =>
    obtain ⟨rest, rfl, hdepth, hrest, hlowest⟩ := h.of_atop
    rw [← (Exec.Local.of_error hstep).context] at hdepth hlowest
    exact ⟨rfl, .inl (above_atop (a := a'.mapFrame (·.halt reason)) hdepth hrest hlowest)⟩
  | @close a below _ hleft =>
    obtain ⟨rest, rfl, hdepth, hrest, hlowest⟩ := h.of_atop
    refine ⟨rfl, ?_⟩
    cases rest with
    | nil =>
      have hcontext := Activity.finish_context rules a
      simp only [List.map_nil, List.getLast?_singleton, Option.some.injEq] at hlowest
      exact .inr ⟨_, hcontext.trans hlowest, rfl⟩
    | cons f rest =>
      rw [List.forall_mem_cons] at hrest
      refine .inl ⟨f.resume (a.finish rules).frame :: rest, rfl, ?_, ?_⟩
      · exact List.forall_mem_cons.2 ⟨by rw [Frame.resume_context]; exact hrest.1, hrest.2⟩
      · simpa using hlowest

/-- A frame that waits is resumed in every run that ends with the first frame alone. -/
theorem Above.watches (h : Above opener lowest m)
    (hreach : Watches rules .trail (m, t) (b.atop [], last)) :
    ∃ g m', g.context = lowest ∧ m'.frames = [opener.resume g] ∧
      Watches rules .trail (m', t) (b.atop [], last) := by
  generalize hs : (m, t) = s at hreach
  induction hreach using Relation.ReflTransGen.head_induction_on generalizing m with
  | refl =>
    cases hs
    obtain ⟨rest, hrest, -⟩ := h.of_atop
    simp at hrest
  | @head s u hmove hreach ih =>
    obtain rfl := hs
    obtain ⟨m', t'⟩ := u
    obtain ⟨rfl, h' | ⟨g, hg, hframes⟩⟩ := h.watched hmove
    · exact ih h' rfl
    · exact ⟨g, m', hg, hframes, hreach⟩

/-! The first frame alone. -/

theorem Activity.atop_inj {below below' : List Frame} :
    a.atop below = b.atop below' ↔ a = b ∧ below = below' := by
  obtain ⟨f, w, access⟩ := a
  obtain ⟨f', w', access'⟩ := b
  simp only [atop, Machine.mk.injEq, List.cons.injEq, mk.injEq]
  tauto

/-- A frame that has left its code is taken away. -/
theorem Watched.frames_of_isLeft {see : Observer σ} {seen : σ} {u : Machine × σ}
    (h : Watched rules see (a.atop [], seen) u) (ha : a.frame.status.IsLeft) : u.1.frames = [] := by
  generalize hs : (a.atop [], seen) = s at h
  cases h with
  | start below _ hstatus | runOff below _ hstatus | step below _ hstatus | open_ below _ hstatus
  | halt below _ hstatus =>
    obtain ⟨rfl, -⟩ := Activity.atop_inj.1 (Prod.mk.inj hs).1
    rw [hstatus] at ha
    exact ha.elim
  | close below =>
    obtain ⟨rfl, rfl⟩ := Activity.atop_inj.1 (Prod.mk.inj hs).1
    rfl

/-- Nothing follows a frame that has left its code with no other beneath it. -/
theorem Watches.eq_of_isLeft {see : Observer σ} {seen seen' : σ}
    (h : Watches rules see (a.atop [], seen) (b.atop [], seen')) (ha : a.frame.status.IsLeft) :
    a = b ∧ seen = seen' := by
  obtain heq | ⟨u, hmove, hreach⟩ := h.cases_head
  · obtain ⟨hm, hseen⟩ := Prod.mk.inj heq
    exact ⟨(Activity.atop_inj.1 hm).1, hseen⟩
  · have hempty := hmove.frames_of_isLeft ha
    obtain rfl | ⟨v, hmove', -⟩ := hreach.cases_head
    · cases hempty
    · cases hmove' <;> cases hempty

/-- A frame that has not left its code makes a move in a run to one that has. -/
theorem Watches.moves (ha : ¬ a.frame.status.IsLeft) (hb : b.frame.status.IsLeft)
    (h : Watches rules .trail (a.atop [], t) (b.atop [], last)) :
    ∃ u, Watched rules .trail (a.atop [], t) u ∧ Watches rules .trail u (b.atop [], last) := by
  obtain heq | hmoves := h.cases_head
  · obtain ⟨rfl, -⟩ := Activity.atop_inj.1 (Prod.mk.inj heq).1
    exact absurd hb ha
  · exact hmoves

/-- The only frame is started first. -/
theorem Watches.started (h : Watches rules .trail (a.atop [], t) (b.atop [], last))
    (hstatus : a.frame.status = .notStarted) (hb : b.frame.status.IsLeft) :
    Watches rules .trail ((a.start rules).atop [], t) (b.atop [], last) := by
  obtain ⟨u, hmove, hreach⟩ := h.moves (by rw [hstatus]; exact id) hb
  generalize hs : (a.atop [], t) = s at hmove
  cases hmove with
  | start below =>
    obtain ⟨hm, rfl⟩ := Prod.mk.inj hs
    obtain ⟨rfl, rfl⟩ := Activity.atop_inj.1 hm
    exact hreach
  | runOff below _ hstatus' | step below _ hstatus' | open_ below _ hstatus'
  | halt below _ hstatus' =>
    obtain ⟨rfl, -⟩ := Activity.atop_inj.1 (Prod.mk.inj hs).1
    rw [hstatus] at hstatus'
    cases hstatus'
  | close below _ hleft =>
    obtain ⟨rfl, -⟩ := Activity.atop_inj.1 (Prod.mk.inj hs).1
    rw [hstatus] at hleft
    exact hleft.elim

/-- A frame that was not halted when it was left ends without a halt, and only such a frame does. -/
theorem Activity.haltReason?_of_finish (hleft : a.frame.status.IsLeft)
    (h : (a.finish rules).frame.haltReason? = none) : a.frame.haltReason? = none := by
  rcases hleft.cases with hstatus | ⟨reason, hstatus⟩ | hstatus
  · simp [Frame.haltReason?, hstatus]
  · simp [finish, settle, hstatus, Frame.haltReason?] at h
  · simp [Frame.haltReason?, hstatus]

/-- What a step of the only frame has led to, in a run that ends without a halt. -/
theorem Watches.step {byte : UInt8} (hstatus : a.frame.status = .executing)
    (hbyte : a.nextByte? = some byte) (hb : b.frame.status.IsLeft)
    (hcalm : b.frame.haltReason? = none)
    (h : Watches rules .trail (a.atop [], t) (b.atop [], last)) :
    (∃ a', Exec.step byte a = .ok none a' ∧
      Watches rules .trail (a'.atop [], a.told .trail byte a' t) (b.atop [], last)) ∨
    ∃ child a', Exec.step byte a = .ok (some child) a' ∧
      Watches rules .trail (a'.opening child [], a.told .trail byte a' t) (b.atop [], last) := by
  obtain ⟨u, hmove, hreach⟩ := h.moves (by rw [hstatus]; exact id) hb
  generalize hs : (a.atop [], t) = s at hmove
  cases hmove with
  | start below _ hstatus' =>
    obtain ⟨rfl, -⟩ := Activity.atop_inj.1 (Prod.mk.inj hs).1
    rw [hstatus] at hstatus'
    cases hstatus'
  | runOff below _ _ hbyte' =>
    obtain ⟨rfl, -⟩ := Activity.atop_inj.1 (Prod.mk.inj hs).1
    rw [hbyte] at hbyte'
    cases hbyte'
  | close below _ hleft =>
    obtain ⟨rfl, -⟩ := Activity.atop_inj.1 (Prod.mk.inj hs).1
    rw [hstatus] at hleft
    exact hleft.elim
  | step below _ _ hbyte' hstep =>
    obtain ⟨hm, rfl⟩ := Prod.mk.inj hs
    obtain ⟨rfl, rfl⟩ := Activity.atop_inj.1 hm
    obtain rfl := Option.some.inj (hbyte.symm.trans hbyte')
    exact .inl ⟨_, hstep, hreach⟩
  | open_ below _ _ hbyte' hstep =>
    obtain ⟨hm, rfl⟩ := Prod.mk.inj hs
    obtain ⟨rfl, rfl⟩ := Activity.atop_inj.1 hm
    obtain rfl := Option.some.inj (hbyte.symm.trans hbyte')
    exact .inr ⟨_, _, hstep, hreach⟩
  | @halt _ a' _ reason below _ _ hbyte' hstep =>
    obtain ⟨hm, rfl⟩ := Prod.mk.inj hs
    obtain ⟨rfl, rfl⟩ := Activity.atop_inj.1 hm
    obtain ⟨rfl, -⟩ := Watches.eq_of_isLeft (a := a'.mapFrame (·.halt reason)) hreach trivial
    cases hcalm

/-- The first frame is at work at this place of its code, with these items on its stack. -/
structure Activity.At (c : Context) (place : Nat) (items : List Int) (a : Activity) : Prop where
  context : a.frame.context = c
  status : a.frame.status = .executing
  pc : a.frame.pc = place
  items : a.frame.stack.items = items

/-- An operation has brought the frame to this place with such items on its stack. If it has opened
another frame, then the end of that frame is one item more. -/
def Activity.GoesOn (place : Nat) (P : List Int → Prop) (child? : Option Frame) (a : Activity) :
    Prop :=
  a.frame.status = .executing ∧ a.frame.pc = place ∧
    match child? with
    | none => P a.frame.stack.items
    | some _ => ∀ x, P (x :: a.frame.stack.items)

/-- An operation has brought the frame to this place with these items on its stack. It has opened no
other frame, and it has cost nothing more than its static price. -/
structure Activity.Led (a : Activity) (c : Context) (place : Nat) (items : List Int)
    (child? : Option Frame) (a' : Activity) : Prop where
  child : child? = none
  there : a'.At c place items
  gas : a'.frame.gas = a.frame.gas

/-! What some operations do to a stack whose items are known. -/

namespace Activity.At
open Exec

variable {place : Nat} {items rest : List Int} {x y : Int}

/-- The uppermost item is taken off the stack. -/
theorem pop {α : Type} {f : Int → Exec α} {done : α → Activity → Prop}
    {stopped : Stop → Activity → Prop} (h : a.At c place (x :: rest))
    (hf : ∀ s : Stack, At c place rest { a with frame := { a.frame with stack := s } } →
      (f x).Yields { a with frame := { a.frame with stack := s } } done stopped) :
    (Exec.pop >>= f).Yields a done stopped := by
  have hpop : a.frame.stack.pop? = some (x, { items := rest }) := Stack.pop?_eq_some.2 h.items
  rw [yields_bind]
  unfold Exec.pop
  refine Yields.get ?_
  rw [hpop]
  exact hf _ ⟨h.context, h.status, h.pc, rfl⟩

/-- A push puts its data on the stack. -/
theorem push {n : Fin 32} {data : Bytes} (h : a.At c place items)
    (hdata : c.code.bytes.extract place (place + (n.val + 1)) = data)
    (hsize : data.size = n.val + 1) :
    (execute (.push n)).Yields a (a.Led c (place + (n.val + 1)) ((data.toNat : Int) :: items))
      fun _ _ => False := by
  refine ⟨rfl, ⟨h.context, h.status, congrArg (· + (n.val + 1)) h.pc, ?_⟩, rfl⟩
  dsimp only
  rw [Stack.items_push, h.items, h.context, h.pc, hdata, hsize]
  simp

/-- The difference of the two uppermost words takes their place. -/
theorem sub (h : a.At c place (x :: y :: rest)) :
    (execute (.binary .sub)).Yields a (a.Led c place (Word.wrap (x - y) :: rest))
      fun _ _ => False := by
  unfold execute
  exact h.pop fun s hs => hs.pop fun t ht =>
    ⟨rfl, ⟨ht.context, ht.status, ht.pc, congrArg (_ :: ·) ht.items⟩, rfl⟩

/-- The uppermost word is copied. -/
theorem dup (h : a.At c place (x :: rest)) :
    (execute (.dup 0)).Yields a (a.Led c place (x :: x :: rest)) fun _ _ => False := by
  have hget : a.frame.stack.get? (0 : Fin 16) = some x := by simp [Stack.get?, h.items]
  unfold execute Exec.dup
  simp only [bind_assoc]
  refine Yields.view ?_
  rw [hget]
  exact ⟨rfl, ⟨h.context, h.status, h.pc, congrArg (x :: ·) h.items⟩, rfl⟩

/-- The two uppermost words change places. -/
theorem swap (h : a.At c place (x :: y :: rest)) :
    (execute (.swap 0)).Yields a (a.Led c place (y :: x :: rest)) fun _ _ => False := by
  obtain ⟨s, hs, hitems⟩ : ∃ s, a.frame.stack.exchange? ((0 : Fin 16).val + 1) = some s ∧
      s.items = y :: x :: rest := by
    simp [Stack.exchange?, h.items]
  unfold execute Exec.swap
  simp only [bind_assoc]
  refine Yields.view ?_
  rw [hs]
  exact ⟨rfl, ⟨h.context, h.status, h.pc, hitems⟩, rfl⟩

/-- A jump leads to its place unless the second word is zero. It is stopped only if no jump may lead
there. -/
theorem jumpi {target : Nat} {condition : Int} (h : a.At c place (target :: condition :: rest)) :
    (execute .jumpi).Yields a (a.Led c (if condition = 0 then place else target) rest)
      fun _ _ => c.code.isJumpDest target = false := by
  unfold execute Exec.jumpi
  simp only [bind_assoc]
  refine h.pop fun s hs => hs.pop fun t ht => ?_
  by_cases hzero : condition = 0
  · rw [if_neg (not_not.2 hzero), if_pos hzero]
    exact ⟨rfl, ht, rfl⟩
  · rw [if_pos hzero, if_neg hzero]
    unfold Exec.jumpTo
    simp only [bind_assoc]
    refine Yields.view ((Yields.haltIf fun hrefused => ?_).bind ?_)
    · rw [Int.toNat_natCast, ht.context] at hrefused
      simpa using hrefused.resolve_left (Int.natCast_nonneg target).not_gt
    · rintro _ _ ⟨-, rfl⟩
      exact ⟨rfl, ⟨ht.context, ht.status, Int.toNat_natCast target, ht.items⟩, rfl⟩

end Activity.At

theorem Deed.completion {o o' : Outward} {child : Frame} (h : Deed o (some child) o') :
    child.context.completion ≠ .silent := by
  rcases h with _ | _ | _ | _ | ⟨⟨⟩⟩ | ⟨⟨⟩⟩ <;> rintro ⟨⟩

/-- A run in which the first frame leaves its code in `b` without a halt passes through a state in
which this frame is alone, at this place of its code and with these items on its stack, after these
visits. -/
structure ComesTo (rules : CreationRules) (c : Context) (b : Activity) (last : Trail) (place : Nat)
    (items : List Int) (visits : List (Nat × UInt8)) : Prop where
  depth : c.depth = 0
  left : b.frame.status.IsLeft
  calm : b.frame.haltReason? = none
  passes : ∃ a : Activity, a.At c place items ∧
    Watches rules .trail (a.atop [], ⟨place, visits⟩) (b.atop [], last)

namespace ComesTo

variable {place place' : Nat} {items rest top : List Int} {visits : List (Nat × UInt8)}
  {op : Opcode}

/-- What an operation does to the first frame, it does in every such run. Frames that it opens have
come to their ends. -/
theorem next {P : List Int → Prop} (h : ComesTo rules c b last place items visits)
    (hbyte : c.code.bytes[place]? = some op.byte)
    (heffect : ∀ a : Activity, a.At c (place + 1) items →
      (Exec.execute op).Yields a (fun child? a' => a'.GoesOn place' P child?) fun _ _ => True) :
    ∃ items', P items' ∧ ComesTo rules c b last place' items' (visits ++ [(place, op.byte)]) := by
  obtain ⟨hdepth, hb, hcalm, a, hat, hwatches⟩ := h
  have hnext : a.nextByte? = some op.byte := by
    rw [Activity.nextByte?, hat.context, hat.pc, hbyte]
  have hgoes : ∀ child? a', Exec.step op.byte a = .ok child? a' →
      a'.frame.context = c ∧ a'.GoesOn place' P child? := by
    intro child? a' hstep
    refine ⟨(Exec.Local.of_ok hstep).context.trans hat.context, ?_⟩
    obtain ⟨info, -, -, hexecute⟩ := Exec.step_eq_ok hstep
    have := heffect (Exec.paid info a) ⟨hat.context, hat.status, by rw [← hat.pc]; rfl, hat.items⟩
    rwa [Exec.Yields, hexecute] at this
  have htold : ∀ {a'}, a'.frame.context = c → a'.frame.pc = place' →
      a.told .trail op.byte a' ⟨place, visits⟩ = ⟨place', visits ++ [(place, op.byte)]⟩ := by
    intro a' hcontext hpc
    rw [Observer.trail_told, hcontext, if_pos hdepth, hpc]
  rcases hwatches.step hat.status hnext hb hcalm with
    ⟨a', hstep, hreach⟩ | ⟨child, a', hstep, hreach⟩
  · obtain ⟨hcontext, hstatus, hpc, hitems⟩ := hgoes _ _ hstep
    rw [htold hcontext hpc] at hreach
    exact ⟨_, hitems, hdepth, hb, hcalm, a', ⟨hcontext, hstatus, hpc, rfl⟩, hreach⟩
  · obtain ⟨hcontext, hstatus, hpc, hitems⟩ := hgoes _ _ hstep
    rw [htold hcontext hpc] at hreach
    have hlevel := (Exec.isOpenedBy_of_step hstep).depth
    rw [hcontext, hdepth] at hlevel
    have habove : Above { a'.frame with status := .suspended } child.context
        (a'.opening child []) := ⟨[child], rfl, by simp [hlevel], rfl⟩
    obtain ⟨g, m, hg, hframes, hrest⟩ := habove.watches hreach
    have hending : g.context.completion ≠ .silent := by
      rw [hg]
      exact (Exec.deed_of_step hstep).completion
    obtain ⟨x, hx⟩ := Frame.resume_items { a'.frame with status := .suspended } hending
    obtain ⟨frames, world, access⟩ := m
    obtain rfl : frames = _ := hframes
    have hat' : Activity.At c place' (x :: a'.frame.stack.items)
        ⟨Frame.resume { a'.frame with status := .suspended } g, world, access⟩ :=
      ⟨(Frame.resume_context _ g).trans hcontext, Frame.resume_status _ g,
        (Frame.resume_pc _ g).trans hpc, hx⟩
    exact ⟨_, hitems x, hdepth, hb, hcalm, _, hat', hrest⟩

/-- An operation whose effect is known. -/
theorem goes {items' : List Int} {stopped : Stop → Activity → Prop}
    (h : ComesTo rules c b last place items visits)
    (hbyte : c.code.bytes[place]? = some op.byte)
    (heffect : ∀ a : Activity, a.At c (place + 1) items →
      (Exec.execute op).Yields a (a.Led c place' items') stopped) :
    ComesTo rules c b last place' items' (visits ++ [(place, op.byte)]) := by
  have hgoes : ∀ a : Activity, a.At c (place + 1) items → (Exec.execute op).Yields a
      (fun child? a' => a'.GoesOn place' (· = items') child?) fun _ _ => True := by
    refine fun a ha => (heffect a ha).ifDone.mono ?_
    rintro _ a' ⟨rfl, hthere, -⟩
    exact ⟨hthere.status, hthere.pc, hthere.items⟩
  obtain ⟨_, rfl, hnext⟩ := h.next hbyte hgoes
  exact hnext

/-- A plain operation replaces its operands by its results. -/
theorem plain {info : OpcodeInfo} (h : ComesTo rules c b last place (top ++ rest) visits)
    (hbyte : c.code.bytes[place]? = some op.byte) (hinfo : op.info? = some info)
    (hplain : op.IsPlain) (hlength : top.length = info.inputs) :
    ∃ top', top'.length = info.outputs ∧
      ComesTo rules c b last (place + 1) (top' ++ rest) (visits ++ [(place, op.byte)]) := by
  have hgoes : ∀ a : Activity, a.At c (place + 1) (top ++ rest) → (Exec.execute op).Yields a
      (fun child? a' => a'.GoesOn (place + 1)
        (fun l => ∃ top', top'.length = info.outputs ∧ l = top' ++ rest) child?)
      fun _ _ => True := by
    intro a ha
    have hstacks : a.Stacks rest info.inputs a := hlength ▸ Activity.Stacks.refl a ha.items
    refine ((Exec.offersExecute hinfo hplain).offers a rest a hstacks).mono fun child? a' ho => ?_
    cases child? with
    | none =>
      obtain ⟨hpc, hstatus, top', hlength', hitems⟩ := ho
      exact ⟨hstatus.trans ha.status, hpc.trans ha.pc, top', hlength', hitems⟩
    | some child =>
      obtain ⟨k, hk, hpc, hstatus, top', hlength', hitems⟩ := ho
      refine ⟨hstatus.trans ha.status, hpc.trans ha.pc, fun x => ⟨x :: top', ?_, ?_⟩⟩
      · rw [hk, List.length_cons, hlength']
      · rw [hitems, List.cons_append]
  obtain ⟨_, ⟨top', hlength', rfl⟩, hnext⟩ := h.next hbyte hgoes
  exact ⟨top', hlength', hnext⟩

/-- A stop is the end of the run. -/
theorem stop (h : ComesTo rules c b last place items visits)
    (hbyte : c.code.bytes[place]? = some Opcode.stop.byte) :
    b.frame.context = c ∧ b.frame.status = .returned ∧
      last.visits = visits ++ [(place, Opcode.stop.byte)] := by
  obtain ⟨hdepth, hb, hcalm, a, hat, hwatches⟩ := h
  have hnext : a.nextByte? = some Opcode.stop.byte := by
    rw [Activity.nextByte?, hat.context, hat.pc, hbyte]
  have hstop : ∀ child? a', Exec.step Opcode.stop.byte a = .ok child? a' →
      child? = none ∧ a'.frame.status = .returned := by
    intro child? a' hstep
    obtain ⟨info, -, -, hexecute⟩ := Exec.step_eq_ok hstep
    cases hexecute
    exact ⟨rfl, rfl⟩
  rcases hwatches.step hat.status hnext hb hcalm with ⟨a', hstep, hreach⟩ | ⟨child, a', hstep, -⟩
  · obtain ⟨-, hstatus⟩ := hstop _ _ hstep
    have hcontext := (Exec.Local.of_ok hstep).context.trans hat.context
    obtain ⟨rfl, rfl⟩ := hreach.eq_of_isLeft (by rw [hstatus]; trivial)
    refine ⟨hcontext, hstatus, ?_⟩
    rw [Observer.trail_told, hcontext, if_pos hdepth]
  · cases (hstop _ _ hstep).1

end ComesTo
end Gasometer
