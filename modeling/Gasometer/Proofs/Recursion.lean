import Gasometer.Proofs.FrameStack

/-!
# Evaluation by recursion

The machine works on one pile of frames. The same is computed by a recursion without a pile: a frame
runs until it opens another one, which is evaluated by itself; then the end of that frame is handed
to its opener, which goes on. A run on the pile and the evaluation by recursion end together and
with the same result, and while a frame is evaluated nothing beneath it is touched.
-/
namespace Gasometer

/-- What comes of a frame and of all that it opens: how the frame was left, the world without its
layer, the access list, and the fault that was met, if there was one. -/
structure Evaluation where
  frame : Frame
  world : World
  access : AccessList
  fault : Option Fault

def Evaluation.result (e : Evaluation) (gas elapsed : Int) : ExecutionResult :=
  (⟨e.frame, ⟨[], e.world, e.access⟩, (), e.fault⟩ : Round Unit).result gas elapsed

namespace Machine

/-- Evaluates a frame in a world whose uppermost layer is its own, with at most `fuel` evaluations
one in another or one after another. -/
def evaluateFor (rules : CreationRules) : Nat → Activity → Option Evaluation
  | 0, _ => none
  | fuel + 1, a =>
    let run := advance rules .blind a ()
    let b := run.activity
    match run.ending with
    | .faulted fault => some ⟨b.frame, b.world, b.access, some fault⟩
    | .left =>
      let c := b.finish rules
      some ⟨c.frame, c.world.close, c.access, none⟩
    | .opened child =>
      match evaluateFor rules fuel ⟨child, b.world.open_, b.access⟩ with
      | none => none
      | some e =>
        match e.fault with
        | some _ => some { e with frame := b.frame }
        | none => evaluateFor rules fuel ⟨b.frame.resume e.frame, e.world, e.access⟩

/-- The evaluation of a frame ends like this. -/
def Evaluates (rules : CreationRules) (a : Activity) (e : Evaluation) : Prop :=
  ∃ fuel, evaluateFor rules fuel a = some e

end Machine

variable {σ τ : Type} {rules : CreationRules} {see : Observer σ} {a : Activity}
  {below : List Frame} {ls : List Layer} {e : Evaluation} {fuel : Nat}

/-! Observers have no influence. -/

namespace Activity

def Agree (r : Run σ) (r' : Run τ) : Prop := r.activity = r'.activity ∧ r.ending = r'.ending

theorem RunsTo.agree {r : Run σ} {seen : σ} (h : RunsTo see fuel a seen r) (see' : Observer τ)
    (seen' : τ) : Agree r (a.runFor see' fuel seen') := by
  induction h generalizing seen' with
  | cutOff => exact ⟨rfl, rfl⟩
  | runOff hbyte =>
    rw [runFor_runOff hbyte]
    exact ⟨rfl, rfl⟩
  | halt hbyte hstep =>
    rw [runFor_halt hbyte hstep]
    exact ⟨rfl, rfl⟩
  | fault hbyte hstep =>
    rw [runFor_fault hbyte hstep]
    exact ⟨rfl, rfl⟩
  | open_ hbyte hstep =>
    rw [runFor_open hbyte hstep]
    exact ⟨rfl, rfl⟩
  | leave hbyte hstep hleft =>
    rw [runFor_step hbyte hstep, if_neg hleft]
    exact ⟨rfl, rfl⟩
  | next hbyte hstep hgoes _ ih =>
    rw [runFor_step hbyte hstep, if_pos hgoes]
    exact ih _

end Activity

namespace Machine
open Activity

theorem advance_agree (rules : CreationRules) (see : Observer σ) (see' : Observer τ) (a : Activity)
    (seen : σ) (seen' : τ) : Agree (advance rules see a seen) (advance rules see' a seen') := by
  have hstarted : ∀ (a : Activity) (seen : σ) (seen' : τ),
      Agree (runStarted see a seen) (runStarted see' a seen') := by
    intro a seen seen'
    unfold runStarted
    split
    · exact (runsTo_run see a seen).agree see' seen'
    · exact ⟨rfl, rfl⟩
  unfold advance
  split
  · exact hstarted _ _ _
  · exact hstarted _ _ _

theorem process_agree (rules : CreationRules) (see : Observer σ) (see' : Observer τ) (a : Activity)
    (below : List Frame) (seen : σ) (seen' : τ) :
    let r := process rules see a below seen
    let r' := process rules see' a below seen'
    r.frame = r'.frame ∧ r.machine = r'.machine ∧ r.fault = r'.fault := by
  obtain ⟨hactivity, hending⟩ := advance_agree rules see see' a seen seen'
  unfold process conclude
  rw [hactivity, hending]
  cases (advance rules see' a seen').ending <;> exact ⟨rfl, rfl, rfl⟩

theorem runFor_agree (rules : CreationRules) (see : Observer σ) (see' : Observer τ) (fuel : Nat)
    (last : Frame) (m : Machine) (seen : σ) (seen' : τ) :
    (runFor rules see fuel last m seen).frame = (runFor rules see' fuel last m seen').frame ∧
      (runFor rules see fuel last m seen).fault = (runFor rules see' fuel last m seen').fault := by
  induction fuel generalizing last m seen seen' with
  | zero =>
    unfold runFor
    cases m.frames <;> exact ⟨rfl, rfl⟩
  | succ fuel ih =>
    unfold runFor
    cases m.frames with
    | nil => exact ⟨rfl, rfl⟩
    | cons top below =>
      obtain ⟨hframe, hmachine, hfault⟩ :=
        process_agree rules see see' ⟨top, m.world, m.access⟩ below seen seen'
      dsimp only
      rw [hfault]
      split
      · exact ⟨hframe, hfault⟩
      · rw [hframe, hmachine]
        exact ih _ _ _ _

end Machine

namespace Round
open Machine

/-- A run of the code is concluded in the same way whatever was seen. -/
theorem next_conclude {r : Round σ} (rules : CreationRules) (see : Observer σ)
    (hfault : r.fault = none) (hmachine : r.machine = a.atop below) :
    let r' := conclude rules .blind (advance rules .blind a ()) below
    (r.next rules see).frame = r'.frame ∧ (r.next rules see).machine = r'.machine ∧
      (r.next rules see).fault = r'.fault := by
  rw [next_atop hfault hmachine]
  exact process_agree rules see .blind a below r.seen ()

/-- The round leaves these frames and these layers alone, and has frames above them. -/
structure StaysOn (below : List Frame) (ls : List Layer) (r : Round σ) : Prop where
  fault : r.fault = none
  frames : ∃ upper, upper ≠ [] ∧ r.machine.frames = upper ++ below
  layers : ls <:+ r.machine.world.layers

theorem StaysOn.of_atop {r : Round σ} (hfault : r.fault = none)
    (hmachine : r.machine = a.atop below) : r.StaysOn below a.world.below := by
  refine ⟨hfault, ⟨[a.frame], List.cons_ne_nil _ _, by rw [hmachine]; rfl⟩, ?_⟩
  rw [hmachine]
  exact List.suffix_cons _ _

/-- What leaves an opener and its layer alone also leaves alone what lies beneath them. -/
theorem StaysOn.beneath {r : Round σ} {opener : Frame} {w : World}
    (h : r.StaysOn (opener :: below) w.layers) : r.StaysOn below w.below := by
  obtain ⟨upper, -, hframes⟩ := h.frames
  refine ⟨h.fault, ⟨upper ++ [opener], by simp, by rw [hframes, List.append_assoc]; rfl⟩, ?_⟩
  exact (List.suffix_cons w.top w.below).trans h.layers

/-- What holds of some rounds and of those that follow holds of all of them. -/
theorem forall_lt_add {p : Round σ → Prop} {r : Round σ} {m n : Nat}
    (hm : ∀ i < m, p ((next rules see)^[i] r))
    (hn : ∀ i < n, p ((next rules see)^[i] ((next rules see)^[m] r))) :
    ∀ i < m + n, p ((next rules see)^[i] r) := by
  intro i hi
  rcases Nat.lt_or_ge i m with hlt | hge
  · exact hm i hlt
  · obtain ⟨j, rfl⟩ := Nat.exists_eq_add_of_le' hge
    rw [Function.iterate_add_apply]
    exact hn j (by omega)

end Round

namespace Evaluation

/-- The round in which a frame over these was brought to the end that the evaluation says, or in
which the fault was met. -/
structure Describes (e : Evaluation) (below : List Frame) (ls : List Layer) (r : Round σ) :
    Prop where
  fault : r.fault = e.fault
  world : r.machine.world = e.world
  access : r.machine.access = e.access
  ended : e.fault = none → r.frame = e.frame ∧ r.machine.frames = Machine.woken e.frame below ∧
    ∃ l, e.world.layers = l :: ls.tail
  broken : e.fault ≠ none → (∃ upper, r.machine.frames = upper ++ e.frame :: below) ∧
    ls <:+ e.world.layers

/-- A fault in a frame is one in the code of its opener. -/
theorem Describes.to_opener {r : Round σ} {opener : Frame} {w : World}
    (h : e.Describes (opener :: below) w.layers r) (hfault : e.fault ≠ none) :
    { e with frame := opener }.Describes below w.below r := by
  obtain ⟨⟨upper, hframes⟩, hlayers⟩ := h.broken hfault
  refine ⟨h.fault, h.world, h.access, fun hnone => absurd hnone hfault, fun _ => ⟨?_, ?_⟩⟩
  · exact ⟨upper ++ [e.frame], by rw [hframes, List.append_assoc]; rfl⟩
  · exact (List.suffix_cons w.top w.below).trans hlayers

/-- When a frame has come to its end, its opener goes on over the same frames and layers. -/
theorem Describes.resumed {r : Round σ} {opener : Frame} {w : World}
    (h : e.Describes (opener :: below) w.layers r) (hfault : e.fault = none) :
    r.fault = none ∧ e.world.below = w.below ∧
      r.machine = Activity.atop ⟨opener.resume e.frame, e.world, e.access⟩ below := by
  obtain ⟨-, hframes, l, hlayers⟩ := h.ended hfault
  refine ⟨h.fault.trans hfault, (List.cons.inj hlayers).2, ?_⟩
  rw [← h.world, ← h.access]
  exact congrArg (Machine.mk · r.machine.world r.machine.access) hframes

end Evaluation

namespace Machine
open Activity Round

/-- What an evaluation does first, and what it leaves to other evaluations. -/
theorem evaluateFor_succ_iff :
    let run := advance rules .blind a ()
    let b := run.activity
    let c := b.finish rules
    evaluateFor rules (fuel + 1) a = some e ↔
    (∃ fault, run.ending = .faulted fault ∧ e = ⟨b.frame, b.world, b.access, some fault⟩) ∨
    (run.ending = .left ∧ e = ⟨c.frame, c.world.close, c.access, none⟩) ∨
    ∃ child e', run.ending = .opened child ∧
      evaluateFor rules fuel ⟨child, b.world.open_, b.access⟩ = some e' ∧
      ((e'.fault ≠ none ∧ e = { e' with frame := b.frame }) ∨
        (e'.fault = none ∧
          evaluateFor rules fuel ⟨b.frame.resume e'.frame, e'.world, e'.access⟩ = some e)) := by
  intro run b c
  rw [evaluateFor]
  cases hending : run.ending with
  | faulted fault => simp [run, b, eq_comm]
  | left => simp [run, b, c, eq_comm]
  | opened child =>
    simp only [run, b]
    cases hchild : evaluateFor rules fuel ⟨child, b.world.open_, b.access⟩ with
    | none => simp [run, b, hchild]
    | some e' => cases hfault : e'.fault <;> simp [run, b, hchild, hfault, eq_comm]

/-- More fuel changes nothing in an evaluation that has ended. -/
theorem evaluateFor_mono {n : Nat} (h : evaluateFor rules n a = some e) (hn : n ≤ fuel) :
    evaluateFor rules fuel a = some e := by
  induction n generalizing fuel a e with
  | zero => cases h
  | succ n ih =>
    obtain ⟨fuel, rfl⟩ : ∃ i, fuel = i + 1 := ⟨fuel - 1, by omega⟩
    have hle : n ≤ fuel := Nat.le_of_succ_le_succ hn
    refine evaluateFor_succ_iff.2 ((evaluateFor_succ_iff.1 h).imp_right (Or.imp_right ?_))
    rintro ⟨child, e', hending, hchild, hrest⟩
    exact ⟨child, e', hending, ih hchild hle, hrest.imp_right fun h => ⟨h.1, ih h.2 hle⟩⟩

/-- A round whose code opens a frame goes on with that frame by itself. -/
theorem next_opened {r : Round σ} {child : Frame} (see : Observer σ) (hfault : r.fault = none)
    (hmachine : r.machine = a.atop below)
    (hending : (advance rules .blind a ()).ending = .opened child) :
    let b := (advance rules .blind a ()).activity
    (r.next rules see).fault = none ∧ (r.next rules see).machine =
      Activity.atop ⟨child, b.world.open_, b.access⟩ (b.frame :: below) := by
  obtain ⟨-, hmachine', hfault'⟩ := next_conclude rules see hfault hmachine
  rw [conclude, hending] at hmachine' hfault'
  exact ⟨hfault', hmachine'⟩

/-- A round whose code meets a fault. -/
theorem describes_of_faulted {r : Round σ} {fault : Fault} (see : Observer σ)
    (hfault : r.fault = none) (hmachine : r.machine = a.atop below)
    (hbelow : (advance rules .blind a ()).activity.world.below = a.world.below)
    (hending : (advance rules .blind a ()).ending = .faulted fault) :
    let b := (advance rules .blind a ()).activity
    (⟨b.frame, b.world, b.access, some fault⟩ : Evaluation).Describes below a.world.below
      (r.next rules see) := by
  obtain ⟨-, hmachine', hfault'⟩ := next_conclude rules see hfault hmachine
  rw [conclude, hending] at hmachine' hfault'
  refine ⟨hfault', by rw [hmachine'], by rw [hmachine'], by rintro ⟨⟩, fun _ => ⟨⟨[], ?_⟩, ?_⟩⟩
  · rw [hmachine']
    rfl
  · rw [← hbelow]
    exact List.suffix_cons _ _

/-- A round whose code is left. -/
theorem describes_of_left {r : Round σ} (see : Observer σ) (hfault : r.fault = none)
    (hmachine : r.machine = a.atop below) (hne : a.world.below ≠ [])
    (hbelow : (advance rules .blind a ()).activity.world.below = a.world.below)
    (hending : (advance rules .blind a ()).ending = .left) :
    let c := (advance rules .blind a ()).activity.finish rules
    (⟨c.frame, c.world.close, c.access, none⟩ : Evaluation).Describes below a.world.below
      (r.next rules see) := by
  obtain ⟨hframe', hmachine', hfault'⟩ := next_conclude rules see hfault hmachine
  rw [conclude, hending] at hframe' hmachine' hfault'
  rw [← hbelow] at hne ⊢
  refine ⟨hfault', by rw [hmachine'], by rw [hmachine'], fun _ => ⟨hframe', ?_, ?_⟩, fun h => ?_⟩
  · rw [hmachine']
  · exact layers_close_finish rules hne
  · exact absurd rfl h

/-- The rounds of a run process a frame as it is evaluated by itself, and touch nothing beneath it
before they are done. -/
theorem rounds_of_evaluateFor (see : Observer σ) (h : evaluateFor rules fuel a = some e)
    (hready : a.frame.status.IsReady) (hne : a.world.below ≠ []) {r : Round σ}
    (hfault : r.fault = none) (hmachine : r.machine = a.atop below) :
    ∃ n, (∀ i < n, ((next rules see)^[i] r).StaysOn below a.world.below) ∧
      e.Describes below a.world.below ((next rules see)^[n] r) := by
  induction fuel generalizing a e below r with
  | zero => cases h
  | succ fuel ih =>
    have hkeeps := advance_keeps rules .blind hready ()
    have hstays : ∀ i < 1, ((next rules see)^[i] r).StaysOn below a.world.below := by
      intro i hi
      obtain rfl : i = 0 := by omega
      exact .of_atop hfault hmachine
    obtain ⟨fault, hending, rfl⟩ | ⟨hending, rfl⟩ | ⟨child, e', hending, hchild, hrest⟩ :=
      evaluateFor_succ_iff.1 h
    · exact ⟨1, hstays, describes_of_faulted see hfault hmachine hkeeps.below hending⟩
    · exact ⟨1, hstays, describes_of_left see hfault hmachine hne hkeeps.below hending⟩
    · -- One round opens the frame, `n` rounds evaluate it, and the rest is that of the opener.
      obtain ⟨hfault', hmachine'⟩ := next_opened see hfault hmachine hending
      obtain ⟨-, hopened⟩ := hkeeps.opened child hending
      obtain ⟨n, hinner, hdescribes⟩ :=
        ih hchild (by rw [hopened.status]; trivial) (List.cons_ne_nil _ _) hfault' hmachine'
      rw [← hkeeps.below] at hne hstays ⊢
      have hwaits := forall_lt_add (r := r) hstays fun i hi => (hinner i hi).beneath
      obtain ⟨hbroken, rfl⟩ | ⟨hwhole, hlater⟩ := hrest
      · refine ⟨n + 1, by rwa [Nat.add_comm], ?_⟩
        exact hdescribes.to_opener hbroken
      · obtain ⟨hfault'', hbelow, hmachine''⟩ := hdescribes.resumed hwhole
        rw [← hbelow] at hne hwaits ⊢
        obtain ⟨m, houter, hend⟩ :=
          ih hlater (by rw [Frame.resume_status]; trivial) hne hfault'' hmachine''
        refine ⟨1 + n + m, forall_lt_add hwaits ?_, ?_⟩
        · rwa [Nat.add_comm 1 n, Function.iterate_succ_apply]
        · rwa [Nat.add_comm, Function.iterate_add_apply, Nat.add_comm 1 n,
            Function.iterate_succ_apply]

/-- A frame is left alone, or it has an evaluation. -/
theorem exists_evaluateFor (see : Observer σ) {n : Nat} (hready : a.frame.status.IsReady)
    (hne : a.world.below ≠ []) {r : Round σ} (hfault : r.fault = none)
    (hmachine : r.machine = a.atop below)
    (hends : ¬ ((next rules see)^[n] r).StaysOn below a.world.below) :
    ∃ e, evaluateFor rules n a = some e := by
  -- Both a frame that is opened and its opener, once it goes on, have fewer rounds left.
  induction n using Nat.strong_induction_on generalizing a below r with
  | _ n ih =>
    cases n with
    | zero => exact absurd (.of_atop hfault hmachine) hends
    | succ n =>
      have hkeeps := advance_keeps rules .blind hready ()
      cases hending : (advance rules .blind a ()).ending with
      | faulted fault => exact ⟨_, evaluateFor_succ_iff.2 (.inl ⟨fault, hending, rfl⟩)⟩
      | left => exact ⟨_, evaluateFor_succ_iff.2 (.inr (.inl ⟨hending, rfl⟩))⟩
      | opened child =>
        obtain ⟨hfault', hmachine'⟩ := next_opened see hfault hmachine hending
        obtain ⟨-, hopened⟩ := hkeeps.opened child hending
        have hready' : child.status.IsReady := by rw [hopened.status]; trivial
        rw [Function.iterate_succ_apply, ← hkeeps.below] at hends
        rw [← hkeeps.below] at hne
        obtain ⟨e', hchild⟩ := ih n n.lt_succ_self hready' (List.cons_ne_nil _ _) hfault' hmachine'
          (mt StaysOn.beneath hends)
        by_cases hbroken : e'.fault = none
        · obtain ⟨k, hinner, hdescribes⟩ := rounds_of_evaluateFor see hchild hready'
            (List.cons_ne_nil _ _) hfault' hmachine'
          have hk : k ≤ n := by
            by_contra hlt
            exact hends (hinner n (not_le.1 hlt)).beneath
          obtain ⟨m, rfl⟩ := Nat.exists_eq_add_of_le' hk
          obtain ⟨hfault'', hbelow, hmachine''⟩ := hdescribes.resumed hbroken
          rw [Function.iterate_add_apply, ← hbelow] at hends
          rw [← hbelow] at hne
          obtain ⟨e, hlater⟩ := ih m (by omega) (by rw [Frame.resume_status]; trivial) hne hfault''
            hmachine'' hends
          exact ⟨e, evaluateFor_succ_iff.2 (.inr (.inr ⟨child, e', hending, hchild,
            .inr ⟨hbroken, evaluateFor_mono hlater (by omega)⟩⟩))⟩
        · exact ⟨_, evaluateFor_succ_iff.2 (.inr (.inr ⟨child, e', hending, hchild,
            .inl ⟨hbroken, rfl⟩⟩))⟩

end Machine

namespace Round
open Machine

variable {r : Round σ}

/-- The first frame of the run: the lowest one, or the one that was taken away last. -/
def first (r : Round σ) : Frame := r.machine.frames.getLast?.getD r.frame

def evaluation (r : Round σ) : Evaluation :=
  ⟨r.first, r.machine.world, r.machine.access, r.fault⟩

theorem result_evaluation (hover : r.IsOver) (gas elapsed : Int) :
    r.evaluation.result gas elapsed = r.result gas elapsed := by
  unfold Evaluation.result evaluation result
  cases hfault : r.fault with
  | some fault => rfl
  | none =>
    have hempty : r.machine.frames = [] := hover.resolve_left fun h => h hfault
    rw [first, hempty]
    rfl

theorem StaysOn.not_isOver (h : r.StaysOn below ls) : ¬ r.IsOver := by
  obtain ⟨upper, hupper, hframes⟩ := h.frames
  refine not_or.2 ⟨not_not.2 h.fault, fun hempty => hupper ?_⟩
  rw [hframes] at hempty
  exact (List.append_eq_nil_iff.1 hempty).1

/-- A run has come to the evaluation of the only frame that it began with. -/
theorem evaluation_of_describes (h : e.Describes [] ls r) : r.IsOver ∧ r.evaluation = e := by
  have hevaluation (hfirst : r.first = e.frame) : r.evaluation = e := by
    rw [evaluation, hfirst, h.world, h.access, h.fault]
  by_cases hfault : e.fault = none
  · obtain ⟨hframe, hempty, -⟩ := h.ended hfault
    exact ⟨.inr hempty, hevaluation (by rw [first, hempty]; exact hframe)⟩
  · obtain ⟨upper, hframes⟩ := (h.broken hfault).1
    exact ⟨.inl (h.fault ▸ hfault), hevaluation (by rw [first, hframes]; simp)⟩

/-- Two rounds after which a run is over are the same. -/
theorem iterate_eq_of_isOver {m n : Nat} (hm : ((next rules see)^[m] r).IsOver)
    (hn : ((next rules see)^[n] r).IsOver) : (next rules see)^[m] r = (next rules see)^[n] r := by
  rw [← iterate_of_isOver hm n, ← Function.iterate_add_apply, Nat.add_comm,
    Function.iterate_add_apply, iterate_of_isOver hn]

/-- A frame evaluates to what a run that begins with it comes to. -/
theorem evaluates_iff (see : Observer σ) (hready : a.frame.status.IsReady)
    (hne : a.world.below ≠ []) (hfault : r.fault = none) (hmachine : r.machine = a.atop []) :
    Evaluates rules a e ↔
      ∃ n, ((next rules see)^[n] r).IsOver ∧ ((next rules see)^[n] r).evaluation = e := by
  have hrounds : ∀ {e}, Evaluates rules a e →
      ∃ n, ((next rules see)^[n] r).IsOver ∧ ((next rules see)^[n] r).evaluation = e := by
    rintro e ⟨fuel, h⟩
    obtain ⟨n, -, hdescribes⟩ := rounds_of_evaluateFor see h hready hne hfault hmachine
    exact ⟨n, evaluation_of_describes hdescribes⟩
  refine ⟨hrounds, ?_⟩
  rintro ⟨n, hover, rfl⟩
  obtain ⟨e, h⟩ := exists_evaluateFor see hready hne hfault hmachine
    fun hstays => hstays.not_isOver hover
  obtain ⟨m, hover', rfl⟩ := hrounds ⟨n, h⟩
  rw [iterate_eq_of_isOver hover hover']
  exact ⟨n, h⟩

/-- While a frame is evaluated, the rounds leave alone what lies beneath it; its evaluation is all
that they make of it. -/
theorem staysOn_or_describes (rules : CreationRules) (see : Observer σ)
    (hready : a.frame.status.IsReady) (hne : a.world.below ≠ []) (hfault : r.fault = none)
    (hmachine : r.machine = a.atop below) :
    (∀ i, ((next rules see)^[i] r).StaysOn below a.world.below) ∨
      ∃ e k, Evaluates rules a e ∧
        (∀ i < k, ((next rules see)^[i] r).StaysOn below a.world.below) ∧
        e.Describes below a.world.below ((next rules see)^[k] r) := by
  by_cases hstays : ∀ i, ((next rules see)^[i] r).StaysOn below a.world.below
  · exact .inl hstays
  · obtain ⟨n, hends⟩ := not_forall.1 hstays
    obtain ⟨e, h⟩ := exists_evaluateFor see hready hne hfault hmachine hends
    obtain ⟨k, hrounds⟩ := rounds_of_evaluateFor see h hready hne hfault hmachine
    exact .inr ⟨e, k, ⟨n, h⟩, hrounds⟩

end Round

namespace Machine

/-- A run that is not cut off ends as its rounds do. -/
theorem isOver_of_runFor {s : Machine} {last : Frame} {seen : σ}
    (hcut : (runFor rules see fuel last s seen).fault ≠ some .cutOff) :
    ∃ n ≤ fuel, ((Round.next rules see)^[n] ⟨last, s, seen, none⟩).IsOver := by
  induction fuel generalizing last s seen with
  | zero =>
    by_cases hempty : s.frames = []
    · exact ⟨0, le_rfl, .inr hempty⟩
    · obtain ⟨a, below, rfl⟩ := exists_atop hempty
      exact absurd rfl hcut
  | succ fuel ih =>
    by_cases hempty : s.frames = []
    · exact ⟨0, Nat.zero_le _, .inr hempty⟩
    · obtain ⟨a, below, rfl⟩ := exists_atop hempty
      rw [runFor_atop_succ] at hcut
      have hnext : Round.next rules see ⟨last, a.atop below, seen, none⟩ =
          process rules see a below seen := Round.next_atop rfl rfl
      generalize process rules see a below seen = round at hcut hnext
      obtain ⟨frame, machine, seen, fault⟩ := round
      cases fault with
      | some fault => exact ⟨1, by omega, .inl (by rw [Function.iterate_one, hnext]; simp)⟩
      | none =>
        obtain ⟨n, hn, hover⟩ := ih hcut
        exact ⟨n + 1, by omega, by rwa [Function.iterate_succ_apply, hnext]⟩

end Machine

namespace Meter
open Machine

def activity (m : Meter) (code : Bytes) (world : World) (gasLimit : Int) : Activity :=
  ⟨m.initialFrame code world gasLimit, world.open_, AccessList.ofLists Fixture.warm []⟩

variable {m : Meter} {code : Bytes} {world : World} {gasLimit : Int}

theorem launch_ne_cutOff (see : Observer σ) (seen : σ) (hblock : m.block.Sound .natural)
    (hworld : world.IsNatural) : (m.launch see code world gasLimit seen).fault ≠ some .cutOff := by
  by_cases hgas : 0 ≤ m.initialGas gasLimit
  · obtain ⟨k, -, hstarts⟩ := starts_natural code hblock hworld hgas
    intro hcut
    exact ((launch_stands hstarts see seen).breaks _ hcut).1 rfl
  · rw [(launch_endsQuietly (not_le.1 hgas) see seen).fault]
    rintro ⟨⟩

theorem activity_evaluates_iff (m : Meter) (see : Observer σ) (code : Bytes) (world : World)
    (gasLimit : Int) (seen : σ) (e : Evaluation) :
    let rounds := fun n => (Round.next {} see)^[n] (m.firstRound code world gasLimit seen)
    Evaluates {} (m.activity code world gasLimit) e ↔
      ∃ n, (rounds n).IsOver ∧ (rounds n).evaluation = e :=
  Round.evaluates_iff see trivial (List.cons_ne_nil _ _) rfl rfl

/-- A launch that is not cut off comes to the evaluation of its first frame. -/
theorem evaluates_of_ne_cutOff (see : Observer σ) (seen : σ)
    (hcut : (m.launch see code world gasLimit seen).fault ≠ some .cutOff) :
    Evaluates {} (m.activity code world gasLimit)
        (m.launch see code world gasLimit seen).evaluation ∧
      ∀ elapsed, (m.launch see code world gasLimit seen).evaluation.result
          (m.initialGas gasLimit) elapsed =
        (m.launch see code world gasLimit seen).result (m.initialGas gasLimit) elapsed := by
  rw [launch_eq] at *
  obtain ⟨n, hn, hover⟩ := isOver_of_runFor hcut
  rw [runFor_eq_iterate hover hn]
  exact ⟨(activity_evaluates_iff m see code world gasLimit seen _).2 ⟨n, hover, rfl⟩,
    Round.result_evaluation hover _⟩

/-- What the rounds of a launch make of a frame. -/
theorem rounds_evaluate (m : Meter) (see : Observer σ) (code : Bytes) (world : World)
    (gasLimit : Int) (seen : σ) (n : Nat) :
    let rounds := fun n => (Round.next {} see)^[n] (m.firstRound code world gasLimit seen)
    (rounds n).fault = none → (rounds n).machine = a.atop below →
      (∀ i, (rounds (n + i)).StaysOn below a.world.below) ∨
        ∃ e k, Evaluates {} a e ∧ (∀ i < k, (rounds (n + i)).StaysOn below a.world.below) ∧
          e.Describes below a.world.below (rounds (n + k)) := by
  intro rounds hfault hmachine
  have hopen : ¬ (rounds n).IsOver := not_or.2 ⟨not_not.2 hfault, by simp [hmachine]⟩
  have hstacked := stacked_iterate m see code world gasLimit seen n hopen
  change (rounds n).machine.Stacked world.layers at hstacked
  rw [hmachine] at hstacked
  have hcases := Round.staysOn_or_describes {} see (hstacked.ready _ rfl)
    hstacked.world_below_ne_nil hfault hmachine
  simpa only [rounds, ← Function.iterate_add_apply, Nat.add_comm n] using hcases

/-- The pile of frames computes what the recursion does. The evaluation of the first frame of a
launch ends if and only if the rounds of the launch do, and both come to the same: the result, the
world, the access list, and the first frame with its logs and its destructions. A launch that is not
cut off says so, and no launch in natural numbers is cut off. While any frame is evaluated, nothing
beneath it is touched; then its opener is resumed once, over a layer that takes over its world. -/
theorem launch_evaluates (m : Meter) (see : Observer σ) (code : Bytes) (world : World)
    (gasLimit : Int) (seen : σ) :
    let rounds := fun n => (Round.next {} see)^[n] (m.firstRound code world gasLimit seen)
    let a := m.activity code world gasLimit
    let last := m.launch see code world gasLimit seen
    (∀ e, Evaluates {} a e ↔ ∃ n, (rounds n).IsOver ∧ (rounds n).evaluation = e) ∧
    (last.fault ≠ some .cutOff → Evaluates {} a last.evaluation ∧
      ∀ elapsed, last.evaluation.result (m.initialGas gasLimit) elapsed =
        last.result (m.initialGas gasLimit) elapsed) ∧
    (m.block.Sound .natural → world.IsNatural → last.fault ≠ some .cutOff) ∧
    ∀ n a below, (rounds n).fault = none → (rounds n).machine = Activity.atop a below →
      (∀ i, (rounds (n + i)).StaysOn below a.world.below) ∨
        ∃ e k, Evaluates {} a e ∧ (∀ i < k, (rounds (n + i)).StaysOn below a.world.below) ∧
          e.Describes below a.world.below (rounds (n + k)) :=
  ⟨activity_evaluates_iff m see code world gasLimit seen, evaluates_of_ne_cutOff see seen,
    launch_ne_cutOff see seen,
    fun n _ _ hfault hmachine => rounds_evaluate m see code world gasLimit seen n hfault hmachine⟩

/-- The returning contract is evaluated in the second round, and its caller goes on in the third. -/
theorem launch_evaluates_returningCall :
    let world := Fixture.world returningCall
    let rounds := fun n =>
      (Round.next {} .blind)^[n] (({} : Meter).firstRound returningCall world 100 ())
    (Block.Sound .natural ({} : Meter).block ∧ world.IsNatural ∧ (rounds 1).fault = none ∧
      (rounds 1).machine.frames.length = 2 ∧ (rounds 3).IsOver) ∧
    Evaluates {} (({} : Meter).activity returningCall world 100)
      (({} : Meter).launch .blind returningCall world 100 ()).evaluation ∧
    ∃ a below e k, (rounds 1).machine = Activity.atop a below ∧ Evaluates {} a e ∧
      e.Describes below a.world.below (rounds (1 + k)) := by
  intro world rounds
  have hblock := Block.sound_default .natural
  have hworld := Fixture.world_isNatural returningCall
  have hopen : ((rounds 1).fault.isNone && (rounds 1).machine.frames.length == 2) = true := by
    decide +kernel
  have hempty : (rounds 3).machine.frames.isEmpty = true := by decide +kernel
  rw [Bool.and_eq_true, Option.isNone_iff_eq_none, beq_iff_eq] at hopen
  obtain ⟨hfault, hlength⟩ := hopen
  have hover : (rounds 3).IsOver := .inr (List.isEmpty_iff.1 hempty)
  obtain ⟨a, below, hmachine⟩ := exists_atop (List.ne_nil_of_length_pos (hlength ▸ Nat.two_pos))
  obtain ⟨-, hlaunch, hquiet, hrounds⟩ := launch_evaluates {} .blind returningCall world 100 ()
  refine ⟨⟨hblock, hworld, hfault, hlength, hover⟩, (hlaunch (hquiet hblock hworld)).1, a, below,
    ?_⟩
  rcases hrounds 1 a below hfault hmachine with hstays | ⟨e, k, hevaluates, -, hdescribes⟩
  · exact absurd hover (hstays 2).not_isOver
  · exact ⟨e, k, hmachine, hevaluates, hdescribes⟩

end Meter
end Gasometer
