import Gasometer.Proofs.Lives
import Gasometer.Proofs.Locality
import Mathlib.Logic.Relation

/-!
# Moves of the machine

The machine moves in small steps: a frame is started, executes one operation, opens another frame,
leaves its code, or is brought to its end and taken off the pile. What the machine processes in one
round is a sequence of such moves, unless it meets a fault. Properties of runs are shown for one
move and follow for all states that moves reach.
-/
namespace Gasometer

namespace Activity

/-- The machine in which a frame is at work over others. -/
def atop (a : Activity) (below : List Frame) : Machine := ⟨a.frame :: below, a.world, a.access⟩

/-- The machine in which a frame has opened another one and waits for it. -/
def opening (a : Activity) (child : Frame) (below : List Frame) : Machine :=
  ⟨child :: { a.frame with status := .suspended } :: below, a.world.open_, a.access⟩

/-- The machine after a frame that has come to its end was taken away. -/
def leave (a : Activity) (below : List Frame) : Machine :=
  ⟨Machine.woken a.frame below, a.world.close, a.access⟩

def nextByte? (a : Activity) : Option UInt8 := a.frame.context.code.bytes[a.frame.pc]?

def runOff (a : Activity) : Activity :=
  a.mapFrame fun f => { f with output := #[], status := .returned }

end Activity

/-- A small step of the machine. -/
inductive Move (rules : CreationRules) : Machine → Machine → Prop
  | start {a : Activity} (below : List Frame) (hstatus : a.frame.status = .notStarted) :
    Move rules (a.atop below) ((a.start rules).atop below)
  | runOff {a : Activity} (below : List Frame) (hstatus : a.frame.status = .executing)
    (hbyte : a.nextByte? = none) : Move rules (a.atop below) (a.runOff.atop below)
  | step {a a' : Activity} {byte : UInt8} (below : List Frame)
    (hstatus : a.frame.status = .executing) (hbyte : a.nextByte? = some byte)
    (hstep : Exec.step byte a = .ok none a') : Move rules (a.atop below) (a'.atop below)
  | open_ {a a' : Activity} {byte : UInt8} {child : Frame} (below : List Frame)
    (hstatus : a.frame.status = .executing) (hbyte : a.nextByte? = some byte)
    (hstep : Exec.step byte a = .ok (some child) a') :
    Move rules (a.atop below) (a'.opening child below)
  | halt {a a' : Activity} {byte : UInt8} {reason : HaltReason} (below : List Frame)
    (hstatus : a.frame.status = .executing) (hbyte : a.nextByte? = some byte)
    (hstep : Exec.step byte a = .error (.halt reason) a') :
    Move rules (a.atop below) ((a'.mapFrame (·.halt reason)).atop below)
  | close {a : Activity} (below : List Frame) (hleft : a.frame.status.IsLeft) :
    Move rules (a.atop below) ((a.finish rules).leave below)

abbrev Reaches (rules : CreationRules) : Machine → Machine → Prop :=
  Relation.ReflTransGen (Move rules)

/-- A move that opens a frame or takes one away. -/
def Turn (rules : CreationRules) (s t : Machine) : Prop :=
  Move rules s t ∧ t.frames.length ≠ s.frames.length

/-- An operation that meets a fault in the state `s`, and leaves `t` behind. -/
def Faults (s : Machine) (fault : Fault) (t : Machine) : Prop :=
  ∃ (a a' : Activity) (byte : UInt8) (below : List Frame), s = a.atop below ∧
    a.frame.status = .executing ∧ a.nextByte? = some byte ∧
    Exec.step byte a = .error (.fault fault) a' ∧ t = a'.atop below

variable {σ : Type} {rules : CreationRules} {see : Observer σ}

def Run.Follows (r : Run σ) (rules : CreationRules) (s : Machine) (below : List Frame) : Prop :=
  match r.ending with
  | .left => Reaches rules s (r.activity.atop below) ∧ r.activity.frame.status.IsLeft
  | .opened child => (∃ t, Reaches rules s t ∧ Turn rules t
      ⟨child :: r.activity.frame :: below, r.activity.world.open_, r.activity.access⟩) ∧
      r.activity.frame.status = .suspended
  | .faulted fault =>
    (fault = .cutOff ∧ Reaches rules s (r.activity.atop below)) ∨
      ∃ t, Reaches rules s t ∧ Faults t fault (r.activity.atop below)

theorem Run.Follows.head {r : Run σ} {s t : Machine} {below : List Frame} (h : Move rules s t)
    (hr : r.Follows rules t below) : r.Follows rules s below := by
  unfold Run.Follows at *
  cases hending : r.ending with
  | left => rw [hending] at hr; exact ⟨.head h hr.1, hr.2⟩
  | opened child =>
    rw [hending] at hr
    obtain ⟨⟨u, hu, hturn⟩, hstatus⟩ := hr
    exact ⟨⟨u, .head h hu, hturn⟩, hstatus⟩
  | faulted fault =>
    rw [hending] at hr
    rcases hr with ⟨hf, hr⟩ | ⟨u, hu, hf⟩
    · exact .inl ⟨hf, .head h hr⟩
    · exact .inr ⟨u, .head h hu, hf⟩

namespace Activity

/-- A step that opens no frame goes on or leaves the code. -/
theorem isLeft_of_step {a a' : Activity} {byte : UInt8} {child? : Option Frame}
    (hstatus : a.frame.status = .executing) (hstep : Exec.step byte a = .ok child? a') :
    a'.frame.status = .executing ∨ a'.frame.status.IsLeft := by
  rcases (Exec.Local.of_ok hstep).status with h | h | h
  · exact .inl (h.trans hstatus)
  · exact .inr (by rw [h]; trivial)
  · exact .inr (by rw [h]; trivial)

section
variable {a a' : Activity} {byte : UInt8} {fuel : Nat} {seen : σ}

def told (see : Observer σ) (a : Activity) (byte : UInt8) (a' : Activity) (seen : σ) : σ :=
  see (.operation a'.frame byte (a.frame.gas - a'.frame.gas)) seen

theorem runFor_runOff (hbyte : a.nextByte? = none) :
    a.runFor see (fuel + 1) seen = ⟨a.runOff, seen, .left⟩ := by
  unfold nextByte? at hbyte
  rw [runFor, hbyte]
  rfl

theorem runFor_halt {reason : HaltReason} (hbyte : a.nextByte? = some byte)
    (hstep : Exec.step byte a = .error (.halt reason) a') :
    a.runFor see (fuel + 1) seen = ⟨a'.mapFrame (·.halt reason), seen, .left⟩ := by
  unfold nextByte? at hbyte
  rw [runFor, hbyte]
  simp only [hstep]

theorem runFor_fault {fault : Fault} (hbyte : a.nextByte? = some byte)
    (hstep : Exec.step byte a = .error (.fault fault) a') :
    a.runFor see (fuel + 1) seen = ⟨a', seen, .faulted fault⟩ := by
  unfold nextByte? at hbyte
  rw [runFor, hbyte]
  simp only [hstep]

theorem runFor_open {child : Frame} (hbyte : a.nextByte? = some byte)
    (hstep : Exec.step byte a = .ok (some child) a') :
    a.runFor see (fuel + 1) seen =
      ⟨a'.mapFrame fun f => { f with status := .suspended }, told see a byte a' seen,
        .opened child⟩ := by
  unfold nextByte? at hbyte
  rw [runFor, hbyte]
  simp only [hstep, told]

theorem runFor_step (hbyte : a.nextByte? = some byte) (hstep : Exec.step byte a = .ok none a') :
    a.runFor see (fuel + 1) seen =
      if a'.frame.status = .executing then a'.runFor see fuel (told see a byte a' seen)
      else ⟨a', told see a byte a' seen, .left⟩ := by
  unfold nextByte? at hbyte
  rw [runFor, hbyte]
  simp only [hstep, told]

end

/-- How a run of the code with fuel for so many steps comes from an activity, after what was seen
so far, to its end. -/
inductive RunsTo (see : Observer σ) : Nat → Activity → σ → Run σ → Prop
  | cutOff {a : Activity} {seen : σ} : RunsTo see 0 a seen ⟨a, seen, .faulted .cutOff⟩
  | runOff {fuel : Nat} {a : Activity} {seen : σ} (hbyte : a.nextByte? = none) :
    RunsTo see (fuel + 1) a seen ⟨a.runOff, seen, .left⟩
  | halt {fuel : Nat} {a a' : Activity} {byte : UInt8} {seen : σ} {reason : HaltReason}
    (hbyte : a.nextByte? = some byte) (hstep : Exec.step byte a = .error (.halt reason) a') :
    RunsTo see (fuel + 1) a seen ⟨a'.mapFrame (·.halt reason), seen, .left⟩
  | fault {fuel : Nat} {a a' : Activity} {byte : UInt8} {seen : σ} {fault : Fault}
    (hbyte : a.nextByte? = some byte) (hstep : Exec.step byte a = .error (.fault fault) a') :
    RunsTo see (fuel + 1) a seen ⟨a', seen, .faulted fault⟩
  | open_ {fuel : Nat} {a a' : Activity} {byte : UInt8} {seen : σ} {child : Frame}
    (hbyte : a.nextByte? = some byte) (hstep : Exec.step byte a = .ok (some child) a') :
    RunsTo see (fuel + 1) a seen
      ⟨a'.mapFrame fun f => { f with status := .suspended }, told see a byte a' seen,
        .opened child⟩
  | leave {fuel : Nat} {a a' : Activity} {byte : UInt8} {seen : σ}
    (hbyte : a.nextByte? = some byte) (hstep : Exec.step byte a = .ok none a')
    (hleft : a'.frame.status ≠ .executing) :
    RunsTo see (fuel + 1) a seen ⟨a', told see a byte a' seen, .left⟩
  | next {fuel : Nat} {a a' : Activity} {byte : UInt8} {seen : σ} {r : Run σ}
    (hbyte : a.nextByte? = some byte) (hstep : Exec.step byte a = .ok none a')
    (hgoes : a'.frame.status = .executing)
    (hrest : RunsTo see fuel a' (told see a byte a' seen) r) : RunsTo see (fuel + 1) a seen r

theorem runsTo_runFor (see : Observer σ) (fuel : Nat) (a : Activity) (seen : σ) :
    RunsTo see fuel a seen (a.runFor see fuel seen) := by
  induction fuel generalizing a seen with
  | zero => exact .cutOff
  | succ fuel ih =>
    cases hbyte : a.nextByte? with
    | none =>
      rw [runFor_runOff hbyte]
      exact .runOff hbyte
    | some byte =>
      cases hstep : Exec.step byte a with
      | error e a' =>
        cases e with
        | halt reason =>
          rw [runFor_halt hbyte hstep]
          exact .halt hbyte hstep
        | fault fault =>
          rw [runFor_fault hbyte hstep]
          exact .fault hbyte hstep
      | ok child? a' =>
        cases child? with
        | some child =>
          rw [runFor_open hbyte hstep]
          exact .open_ hbyte hstep
        | none =>
          rw [runFor_step hbyte hstep]
          split_ifs with hgoes
          · exact .next hbyte hstep hgoes (ih a' _)
          · exact .leave hbyte hstep hgoes

theorem runsTo_run (see : Observer σ) (a : Activity) (seen : σ) :
    RunsTo see (a.frame.gas.toNat + allowance) a seen (a.run see seen) := runsTo_runFor see _ a seen

section
variable {fuel : Nat} {a : Activity} {seen : σ} {r : Run σ}

/-- There is only one end that a run of the code comes to. -/
theorem RunsTo.runFor_eq (h : RunsTo see fuel a seen r) : a.runFor see fuel seen = r := by
  induction h with
  | cutOff => rfl
  | runOff hbyte => exact runFor_runOff hbyte
  | halt hbyte hstep => exact runFor_halt hbyte hstep
  | fault hbyte hstep => exact runFor_fault hbyte hstep
  | open_ hbyte hstep => exact runFor_open hbyte hstep
  | leave hbyte hstep hleft => rw [runFor_step hbyte hstep, if_neg hleft]
  | next hbyte hstep hgoes _ ih => rw [runFor_step hbyte hstep, if_pos hgoes, ih]

/-- A run of the code is a sequence of moves. -/
theorem RunsTo.follows (h : RunsTo see fuel a seen r) (below : List Frame)
    (hstatus : a.frame.status = .executing) : r.Follows rules (a.atop below) below := by
  induction h with
  | cutOff => exact .inl ⟨rfl, .refl⟩
  | runOff hbyte => exact ⟨.single (.runOff below hstatus hbyte), trivial⟩
  | halt hbyte hstep => exact ⟨.single (.halt below hstatus hbyte hstep), trivial⟩
  | fault hbyte hstep => exact .inr ⟨_, .refl, _, _, _, below, rfl, hstatus, hbyte, hstep, rfl⟩
  | open_ hbyte hstep => exact ⟨⟨_, .refl, .open_ below hstatus hbyte hstep, by simp [atop]⟩, rfl⟩
  | leave hbyte hstep hleft =>
    exact ⟨.single (.step below hstatus hbyte hstep),
      (isLeft_of_step hstatus hstep).resolve_left hleft⟩
  | next hbyte hstep hgoes _ ih => exact (ih hgoes).head (.step below hstatus hbyte hstep)

end

theorem run_follows (see : Observer σ) {a : Activity} (below : List Frame)
    (hstatus : a.frame.status = .executing) (seen : σ) :
    (a.run see seen).Follows rules (a.atop below) below :=
  (runsTo_run see a seen).follows below hstatus

/-- A frame that is started runs, or is to be brought to its end. -/
theorem start_status (rules : CreationRules) (a : Activity) :
    (a.start rules).frame.status = .executing ∨ (a.start rules).frame.status.IsLeft := by
  rcases start_cases rules a with ⟨reason, -, h⟩ | ⟨w, -, h⟩ <;> rw [h]
  · exact .inr trivial
  · exact .inl rfl

end Activity

def FrameStatus.IsReady : FrameStatus → Prop
  | .notStarted | .executing => True
  | _ => False

theorem FrameStatus.IsReady.cases {status : FrameStatus} (h : status.IsReady) :
    status = .notStarted ∨ status = .executing := by
  cases status with
  | notStarted => exact .inl rfl
  | executing => exact .inr rfl
  | suspended | returned | halted | reverted | succeeded | failed => exact h.elim

def Machine.IsReady (m : Machine) : Prop := ∀ f ∈ m.frames.head?, f.status.IsReady

/-- The last round of a run: the only frame left was brought to its end. -/
def Round.Ends (r : Round σ) (rules : CreationRules) (s : Machine) : Prop :=
  ∃ a : Activity, Reaches rules s (a.atop []) ∧ a.frame.status.IsLeft ∧
    r.frame = (a.finish rules).frame ∧ r.machine = (a.finish rules).leave []

def Round.Breaks (r : Round σ) (rules : CreationRules) (s : Machine) (fault : Fault) : Prop :=
  (fault = .cutOff ∧ Reaches rules s r.machine ∧ r.machine.frames ≠ []) ∨
    ∃ t, Reaches rules s t ∧ Faults t fault r.machine

def Round.Follows (r : Round σ) (rules : CreationRules) (s : Machine) : Prop :=
  match r.fault with
  | none => (∃ t, Reaches rules s t ∧ Turn rules t r.machine) ∧
      (r.machine.frames = [] → r.Ends rules s)
  | some fault => r.Breaks rules s fault

/-- What a whole run has done to the machine. -/
def Round.Concludes (r : Round σ) (rules : CreationRules) (s : Machine) : Prop :=
  match r.fault with
  | none => r.Ends rules s
  | some fault => r.Breaks rules s fault

theorem Round.Ends.of_reaches {r : Round σ} {s t : Machine} (h : Reaches rules s t)
    (hr : r.Ends rules t) : r.Ends rules s := by
  obtain ⟨a, ha, hrest⟩ := hr
  exact ⟨a, h.trans ha, hrest⟩

theorem Round.Concludes.of_reaches {r : Round σ} {s t : Machine} (h : Reaches rules s t)
    (hr : r.Concludes rules t) : r.Concludes rules s := by
  unfold Round.Concludes at *
  cases hfault : r.fault with
  | none =>
    rw [hfault] at hr
    exact hr.of_reaches h
  | some fault =>
    rw [hfault] at hr
    rcases hr with ⟨hf, hr, hframes⟩ | ⟨u, hu, hf⟩
    · exact .inl ⟨hf, h.trans hr, hframes⟩
    · exact .inr ⟨u, h.trans hu, hf⟩

namespace Machine
open Activity

theorem length_woken (f : Frame) (below : List Frame) : (woken f below).length = below.length := by
  cases below <;> rfl

theorem turn_close {a : Activity} (below : List Frame) (hleft : a.frame.status.IsLeft) :
    Turn rules (a.atop below) ((a.finish rules).leave below) := by
  refine ⟨.close below hleft, ?_⟩
  simp [leave, atop, length_woken]

theorem runStarted_follows (see : Observer σ) {a : Activity} (below : List Frame)
    (hstatus : a.frame.status = .executing ∨ a.frame.status.IsLeft) (seen : σ) :
    (runStarted see a seen).Follows rules (a.atop below) below := by
  unfold runStarted
  rcases hstatus with h | h
  · rw [h]
    exact run_follows see below h seen
  · rcases h.cases with hs | ⟨reason, hs⟩ | hs <;> rw [hs] <;> exact ⟨.refl, h⟩

theorem advance_follows (rules : CreationRules) (see : Observer σ) {a : Activity}
    (below : List Frame) (hready : a.frame.status.IsReady) (seen : σ) :
    (advance rules see a seen).Follows rules (a.atop below) below := by
  unfold advance
  rcases hready.cases with hs | hs <;> rw [hs]
  · exact (runStarted_follows see below (start_status rules a) _).head (.start below hs)
  · exact runStarted_follows see below (.inl hs) seen

/-- One round is a sequence of moves, of which the last one opens a frame or takes one away. -/
theorem process_follows (rules : CreationRules) (see : Observer σ) {a : Activity}
    (below : List Frame) (hready : a.frame.status.IsReady) (seen : σ) :
    (process rules see a below seen).Follows rules (a.atop below) := by
  have h := advance_follows rules see below hready seen
  unfold process
  generalize advance rules see a seen = run at h ⊢
  unfold Run.Follows at h
  unfold conclude
  cases hending : run.ending with
  | faulted fault =>
    rw [hending] at h
    exact h.imp_left fun ⟨hcut, hreach⟩ => ⟨hcut, hreach, List.cons_ne_nil _ _⟩
  | opened child =>
    rw [hending] at h
    exact ⟨h.1, fun hempty => by cases hempty⟩
  | left =>
    rw [hending] at h
    refine ⟨⟨_, h.1, turn_close below h.2⟩, fun hempty => ?_⟩
    obtain rfl : below = [] := by
      have := congrArg List.length hempty
      rwa [length_woken, List.length_nil, List.length_eq_zero_iff] at this
    exact ⟨_, h.1, h.2, rfl, rfl⟩

/-- After a round the uppermost frame is new, or goes on. -/
theorem ready_of_turn {s t : Machine} (h : Turn rules s t) : t.IsReady := by
  obtain ⟨hmove, hlength⟩ := h
  cases hmove with
  | start | runOff | step | halt => exact absurd rfl hlength
  | open_ below hstatus hbyte hstep =>
    intro f hf
    obtain rfl : _ = f := Option.some.inj hf
    rw [Exec.Fresh.of_ok hstep]
    trivial
  | close below hleft =>
    intro f hf
    cases below with
    | nil => cases hf
    | cons opener rest =>
      obtain rfl : _ = f := Option.some.inj hf
      rw [Frame.resume_status]
      trivial

theorem exists_atop {m : Machine} (h : m.frames ≠ []) : ∃ a below, m = Activity.atop a below := by
  obtain ⟨frames, world, access⟩ := m
  obtain ⟨top, below, rfl⟩ := List.exists_cons_of_ne_nil h
  exact ⟨⟨top, world, access⟩, below, rfl⟩

theorem runFor_of_frames_eq_nil {m : Machine} (h : m.frames = []) (fuel : Nat) (last : Frame)
    (seen : σ) : runFor rules see fuel last m seen = ⟨last, m, seen, none⟩ := by
  unfold runFor
  rw [h]

theorem runFor_atop_zero (last : Frame) (a : Activity) (below : List Frame) (seen : σ) :
    runFor rules see 0 last (a.atop below) seen = ⟨last, a.atop below, seen, some .cutOff⟩ := rfl

theorem runFor_atop_succ (fuel : Nat) (last : Frame) (a : Activity) (below : List Frame)
    (seen : σ) :
    runFor rules see (fuel + 1) last (a.atop below) seen =
      let round := process rules see a below seen
      match round.fault with
      | some _ => round
      | none => runFor rules see fuel round.frame round.machine round.seen := rfl

/-- A run is a sequence of moves up to its end or to a fault. -/
theorem runFor_follows (rules : CreationRules) (see : Observer σ) (fuel : Nat) (last : Frame)
    {m : Machine} (hready : m.IsReady) (hframes : m.frames ≠ []) (seen : σ) :
    (runFor rules see fuel last m seen).Concludes rules m := by
  induction fuel generalizing last m seen with
  | zero =>
    obtain ⟨a, below, rfl⟩ := exists_atop hframes
    rw [runFor_atop_zero]
    exact .inl ⟨rfl, .refl, hframes⟩
  | succ fuel ih =>
    obtain ⟨a, below, rfl⟩ := exists_atop hframes
    have h := process_follows rules see below (hready _ rfl) seen
    rw [runFor_atop_succ]
    dsimp only at h ⊢
    generalize process rules see a below seen = round at h ⊢
    obtain ⟨frame, machine, seen, fault⟩ := round
    cases fault with
    | some fault => exact h
    | none =>
      obtain ⟨⟨t, ht, hturn⟩, hends⟩ := h
      by_cases hempty : machine.frames = []
      · dsimp only
        rw [runFor_of_frames_eq_nil hempty]
        exact hends hempty
      · exact (ih frame (ready_of_turn hturn) hempty seen).of_reaches (ht.tail hturn.1)

/-! Moves can be computed. -/

/-- The state after one move; there is none when no frame is left, and where a fault is met. -/
def moved? (rules : CreationRules) (m : Machine) : Option Machine :=
  match m.frames with
  | [] => none
  | top :: below =>
    let a : Activity := ⟨top, m.world, m.access⟩
    match top.status with
    | .notStarted => some ((a.start rules).atop below)
    | .executing =>
      match a.nextByte? with
      | none => some (a.runOff.atop below)
      | some byte =>
        match Exec.step byte a with
        | .ok none a' => some (a'.atop below)
        | .ok (some child) a' => some (a'.opening child below)
        | .error (.halt reason) a' => some ((a'.mapFrame (·.halt reason)).atop below)
        | .error (.fault _) _ => none
    | .returned | .halted _ | .reverted => some ((a.finish rules).leave below)
    | .suspended | .succeeded | .failed _ => none

theorem moved?_of_move {s t : Machine} (h : Move rules s t) : s.moved? rules = some t := by
  cases h with
  | start below hstatus => simp [moved?, atop, hstatus]
  | runOff below hstatus hbyte => simp [moved?, atop, hstatus, hbyte]
  | step below hstatus hbyte hstep | open_ below hstatus hbyte hstep
  | halt below hstatus hbyte hstep => simp [moved?, atop, hstatus, hbyte, hstep]
  | @close a below hleft =>
    rcases hleft.cases with hstatus | ⟨reason, hstatus⟩ | hstatus <;> simp [moved?, atop, hstatus]

theorem move_of_moved? {s t : Machine} (h : s.moved? rules = some t) : Move rules s t := by
  obtain ⟨frames, world, access⟩ := s
  cases frames with
  | nil => cases h
  | cons top below =>
    let a : Activity := ⟨top, world, access⟩
    have hleft (hl : top.status.IsLeft) (h : some ((a.finish rules).leave below) = some t) :
        Move rules (a.atop below) t := by
      cases h
      exact .close (a := a) below hl
    simp only [moved?] at h
    cases hstatus : top.status with
    | notStarted =>
      rw [hstatus] at h
      cases h
      exact .start (a := a) below hstatus
    | executing =>
      rw [hstatus] at h
      dsimp only at h
      cases hbyte : a.nextByte? with
      | none =>
        rw [hbyte] at h
        cases h
        exact .runOff (a := a) below hstatus hbyte
      | some byte =>
        rw [hbyte] at h
        dsimp only at h
        cases hstep : Exec.step byte a with
        | ok child? a' =>
          rw [hstep] at h
          cases child? with
          | none =>
            cases h
            exact .step (a := a) below hstatus hbyte hstep
          | some child =>
            cases h
            exact .open_ (a := a) below hstatus hbyte hstep
        | error e a' =>
          rw [hstep] at h
          cases e with
          | halt reason =>
            cases h
            exact .halt (a := a) below hstatus hbyte hstep
          | fault fault => cases h
    | returned | halted | reverted =>
      rw [hstatus] at h
      exact hleft (by rw [hstatus]; trivial) h
    | suspended | succeeded | failed =>
      rw [hstatus] at h
      cases h

/-- A machine makes the move that is computed, and no other. -/
theorem move_iff {s t : Machine} : Move rules s t ↔ s.moved? rules = some t :=
  ⟨moved?_of_move, move_of_moved?⟩

end Machine

/-- A machine has only one move to make. -/
theorem Move.unique {s t u : Machine} (h : Move rules s t) (h' : Move rules s u) : t = u :=
  Option.some.inj ((Machine.move_iff.1 h).symm.trans (Machine.move_iff.1 h'))

theorem Move.frames_ne_nil {s t : Machine} (h : Move rules s t) : s.frames ≠ [] := by
  cases h <;> exact List.cons_ne_nil _ _

end Gasometer
