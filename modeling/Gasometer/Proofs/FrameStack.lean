import Gasometer.Proofs.Effects
import Gasometer.Proofs.Safety

/-!
# The pile of frames

Between two rounds the open frames lie at the depths 0, 1, 2 and so on from the first one upwards,
and none lies deeper than 1024. All but the uppermost wait, and each has a layer of its own over the
layer of the frame beneath it. A round puts one frame on top of the frame that it has processed, or
takes this frame away and hands its end to the frame beneath; a fault is met in the last round only.
This needs no numbers to be sound.
-/
namespace Gasometer

variable {σ : Type} {rules : CreationRules} {see : Observer σ} {a a' : Activity}
  {below : List Frame} {ls : List Layer}

/-- A new frame, one level deeper than the frame that has opened it. -/
structure Frame.IsOpenedBy (child opener : Frame) : Prop where
  status : child.status = .notStarted
  depth : child.context.depth = opener.context.depth + 1
  limit : child.context.depth ≤ Exec.maxDepth

theorem Exec.isOpenedBy_of_step {child : Frame} {byte : UInt8}
    (hstep : step byte a = .ok (some child) a') : child.IsOpenedBy a'.frame := by
  obtain ⟨hdepth, hlimit⟩ := (deed_of_step hstep).depth
  refine ⟨by rw [Fresh.of_ok hstep], ?_, hlimit⟩
  rw [(Local.of_ok hstep).context]
  exact hdepth

/-- What a run of the code leaves as it is, and how it ends. -/
structure Run.Keeps (r : Run σ) (a : Activity) : Prop where
  context : r.activity.frame.context = a.frame.context
  below : r.activity.world.below = a.world.below
  left : r.ending = .left → r.activity.frame.status.IsLeft
  opened : ∀ child, r.ending = .opened child →
    r.activity.frame.status = .suspended ∧ child.IsOpenedBy r.activity.frame

theorem Run.Keeps.head {r : Run σ} (hr : r.Keeps a') (h : a.Kept a') : r.Keeps a :=
  { hr with context := hr.context.trans h.context, below := hr.below.trans h.below }

namespace Activity

theorem RunsTo.keeps {r : Run σ} {fuel : Nat} {seen : σ} (h : RunsTo see fuel a seen r)
    (hstatus : a.frame.status = .executing) : r.Keeps a := by
  induction h with
  | cutOff => exact ⟨rfl, rfl, by rintro ⟨⟩, by rintro child ⟨⟩⟩
  | runOff => exact ⟨rfl, rfl, fun _ => trivial, by rintro child ⟨⟩⟩
  | halt _ hstep =>
    have hkept := Exec.Local.of_error hstep
    exact ⟨hkept.context, hkept.below, fun _ => trivial, by rintro child ⟨⟩⟩
  | fault _ hstep =>
    have hkept := Exec.Local.of_error hstep
    exact ⟨hkept.context, hkept.below, by rintro ⟨⟩, by rintro child ⟨⟩⟩
  | open_ _ hstep =>
    have hkept := Exec.Local.of_ok hstep
    have hopened := Exec.isOpenedBy_of_step hstep
    refine ⟨hkept.context, hkept.below, by rintro ⟨⟩, ?_⟩
    rintro _ ⟨⟩
    exact ⟨rfl, hopened.status, hopened.depth, hopened.limit⟩
  | leave _ hstep hleft =>
    have hkept := Exec.Local.of_ok hstep
    have hends := (isLeft_of_step hstatus hstep).resolve_left hleft
    exact ⟨hkept.context, hkept.below, fun _ => hends, by rintro child ⟨⟩⟩
  | next _ hstep hgoes _ ih => exact (ih hgoes).head (Exec.Local.of_ok hstep)

end Activity

namespace Machine
open Activity

theorem runStarted_keeps (see : Observer σ)
    (hstatus : a.frame.status = .executing ∨ a.frame.status.IsLeft) (seen : σ) :
    (runStarted see a seen).Keeps a := by
  unfold runStarted
  split
  · exact (runsTo_run see a seen).keeps (by assumption)
  · rename_i hne
    exact ⟨rfl, rfl, fun _ => hstatus.resolve_left hne, by rintro child ⟨⟩⟩

theorem advance_keeps (rules : CreationRules) (see : Observer σ) (hready : a.frame.status.IsReady)
    (seen : σ) : (advance rules see a seen).Keeps a := by
  unfold advance
  split
  · have h := runStarted_keeps see (start_status rules a) (see (.enter a.frame) seen)
    exact { h with
      context := h.context.trans (start_context rules a)
      below := h.below.trans (start_below rules a) }
  · rename_i hne
    exact runStarted_keeps see (.inl (hready.cases.resolve_left hne)) seen

end Machine

namespace Round

/-- The round has put a new frame on top of the frame that it has processed, which waits. -/
structure Pushes (a : Activity) (below : List Frame) (r : Round σ) : Prop where
  fault : r.fault = none
  context : r.frame.context = a.frame.context
  status : r.frame.status = .suspended
  machine : ∃ (child : Frame) (world : World) (access : AccessList),
    r.machine = ⟨child :: r.frame :: below, world.open_, access⟩ ∧ child.IsOpenedBy r.frame ∧
      world.below = a.world.below

/-- The round has brought the frame that it has processed to its end and taken it away with its
layer; the frame beneath is resumed once. -/
structure Pops (a : Activity) (below : List Frame) (r : Round σ) : Prop where
  fault : r.fault = none
  context : r.frame.context = a.frame.context
  status : r.frame.status = .succeeded ∨ ∃ failure, r.frame.status = .failed failure
  frames : r.machine.frames = Machine.woken r.frame below
  layers : ∃ l, r.machine.world.layers = l :: a.world.below.tail

/-- The round has met a fault in the code of the frame that it has processed. -/
structure Snaps (a : Activity) (below : List Frame) (r : Round σ) : Prop where
  fault : r.fault ≠ none
  context : r.frame.context = a.frame.context
  frames : r.machine.frames = r.frame :: below
  layers : r.machine.world.below = a.world.below

end Round

namespace Machine
open Activity

theorem layers_close_finish (rules : CreationRules) (h : a.world.below ≠ []) :
    ∃ l, (a.finish rules).world.close.layers = l :: a.world.below.tail := by
  obtain ⟨htail, hlength⟩ := finish_below rules a
  have hne : (a.finish rules).world.below.length ≠ 0 := by
    rw [hlength]
    exact fun hnil => h (List.length_eq_zero_iff.1 hnil)
  obtain ⟨l, lower, hlower⟩ := List.exists_cons_of_length_pos (Nat.pos_of_ne_zero hne)
  rw [World.layers_close hne, ← htail, hlower]
  exact ⟨l, rfl⟩

/-- What one round does to the frames. -/
theorem process_turns (rules : CreationRules) (see : Observer σ) (below : List Frame)
    (hready : a.frame.status.IsReady) (hbelow : a.world.below ≠ []) (seen : σ) :
    let r := process rules see a below seen
    r.Pushes a below ∨ r.Pops a below ∨ r.Snaps a below := by
  have h := advance_keeps rules see hready seen
  unfold process conclude
  generalize advance rules see a seen = run at h ⊢
  rw [← h.below] at hbelow
  cases hending : run.ending with
  | faulted fault => exact .inr (.inr ⟨by simp, h.context, rfl, h.below⟩)
  | opened child =>
    obtain ⟨hstatus, hopened⟩ := h.opened child hending
    exact .inl ⟨rfl, h.context, hstatus, child, _, _, rfl, hopened, h.below⟩
  | left =>
    have hlayers := layers_close_finish rules hbelow
    rw [h.below] at hlayers
    exact .inr (.inl ⟨rfl, (finish_context rules _).trans h.context,
      finish_status rules (h.left hending), rfl, hlayers⟩)

/-- The frames of a machine between two rounds, whose layers lie over these. -/
structure Stacked (ls : List Layer) (m : Machine) : Prop where
  depths : m.frames.map (·.context.depth) = (List.range m.frames.length).reverse.map Int.ofNat
  height : (m.frames.length : Int) ≤ Exec.maxDepth + 1
  ready : m.IsReady
  waiting : ∀ f ∈ m.frames.tail, f.status = .suspended
  layers : ∃ own, m.world.layers = own ++ ls ∧ own.length = m.frames.length

theorem depths_cons (f : Frame) (fs : List Frame) :
    (f :: fs).map (·.context.depth) = (List.range (f :: fs).length).reverse.map Int.ofNat ↔
      f.context.depth = fs.length ∧
        fs.map (·.context.depth) = (List.range fs.length).reverse.map Int.ofNat := by
  simp [List.range_succ]

theorem StandsOn.exists_own {m : Machine} (h : m.StandsOn [] ls) :
    ∃ own, m.world.layers = own ++ ls ∧ own.length = m.frames.length := by
  obtain ⟨own, hown⟩ := h.layers
  have hheight := h.height
  rw [← hown, List.length_append, List.length_nil] at hheight
  exact ⟨own, hown.symm, by omega⟩

/-- The uppermost frame has a layer to hand its effects to. -/
theorem Stacked.world_below_ne_nil {w : World} (h : (a.atop below).Stacked w.layers) :
    a.world.below ≠ [] := by
  obtain ⟨own, hlayers, hlength⟩ := h.layers
  intro hnil
  have := congrArg List.length hlayers
  simp only [world_atop, World.layers, hnil, List.length_cons, List.length_append, List.length_nil,
    hlength, frames_atop] at this
  omega

variable {r : Round σ}

/-- A frame put on top of the others. -/
theorem Stacked.of_pushes (h : (a.atop below).Stacked ls) (hr : r.Pushes a below)
    (hready : r.machine.IsReady) (hstands : r.machine.StandsOn [] ls) : r.machine.Stacked ls := by
  have hlayers := hstands.exists_own
  obtain ⟨child, world, access, hmachine, hchild, -⟩ := hr.machine
  obtain ⟨htop, hbelow⟩ := (depths_cons a.frame below).1 h.depths
  have hdepth := hchild.depth
  have hlimit := hchild.limit
  rw [hr.context, htop] at hdepth
  rw [hmachine] at hready hlayers ⊢
  refine ⟨?_, ?_, hready, List.forall_mem_cons.2 ⟨hr.status, h.waiting⟩, hlayers⟩
  · refine (depths_cons ..).2 ⟨?_, (depths_cons ..).2 ⟨by rw [hr.context, htop], hbelow⟩⟩
    rw [hdepth, List.length_cons]
    rfl
  · simp only [List.length_cons]
    omega

/-- The uppermost frame taken away from the others. -/
theorem Stacked.of_pops (h : (a.atop below).Stacked ls) (hr : r.Pops a below)
    (hready : r.machine.IsReady) (hstands : r.machine.StandsOn [] ls) : r.machine.Stacked ls := by
  obtain ⟨-, hbelow⟩ := (depths_cons a.frame below).1 h.depths
  have hheight := h.height
  have hwaiting : ∀ f ∈ below, f.status = .suspended := h.waiting
  simp only [frames_atop, List.length_cons] at hheight
  refine ⟨?_, ?_, hready, ?_, hstands.exists_own⟩ <;> rw [hr.frames]
  · cases below with
    | nil => rfl
    | cons opener rest =>
      obtain ⟨hopener, hrest⟩ := (depths_cons opener rest).1 hbelow
      exact (depths_cons ..).2 ⟨by rw [Frame.resume_context, hopener], hrest⟩
  · rw [length_woken]
    omega
  · cases below with
    | nil => rintro f ⟨⟩
    | cons opener rest => exact fun f hf => hwaiting f (List.mem_cons_of_mem _ hf)

end Machine

namespace Round
open Machine

variable {r : Round σ} {s : Machine}

/-- A run that has met no fault can go on from where moves have led. -/
theorem next_reaches (hfault : (r.next rules see).fault = none)
    (h : r.fault = none → Reaches rules s r.machine ∧ r.machine.IsReady) :
    Reaches rules s (r.next rules see).machine ∧ (r.next rules see).machine.IsReady := by
  by_cases hover : r.IsOver
  · rw [next_of_isOver hover] at hfault ⊢
    exact h hfault
  · rw [IsOver, not_or, not_not] at hover
    obtain ⟨hreach, hready⟩ := h hover.1
    obtain ⟨a, below, hmachine⟩ := exists_atop hover.2
    rw [next_atop hover.1 hmachine] at hfault ⊢
    rw [hmachine] at hreach hready
    have hfollows := process_follows rules see below (hready _ rfl) r.seen
    rw [Follows, hfault] at hfollows
    obtain ⟨⟨t, ht, hturn⟩, -⟩ := hfollows
    exact ⟨(hreach.trans ht).tail hturn.1, ready_of_turn hturn⟩

theorem iterate_reaches (see : Observer σ) (hready : s.IsReady) (last : Frame) (seen : σ) (n : Nat)
    (hfault : ((Round.next rules see)^[n] ⟨last, s, seen, none⟩).fault = none) :
    let r := (Round.next rules see)^[n] ⟨last, s, seen, none⟩
    Reaches rules s r.machine ∧ r.machine.IsReady := by
  induction n with
  | zero => exact ⟨.refl, hready⟩
  | succ n ih =>
    rw [Function.iterate_succ_apply'] at hfault ⊢
    exact next_reaches hfault ih

theorem not_isOver_of_next (h : ¬ (r.next rules see).IsOver) : ¬ r.IsOver :=
  fun hover => h (by rwa [next_of_isOver hover])

end Round

namespace Meter
open Machine Round

variable {m : Meter} {code : Bytes} {world : World} {gasLimit : Int} {r : Round σ}

theorem opening_stacked : (m.opening code world gasLimit).Stacked world.layers where
  depths := rfl
  height := show (1 : Int) ≤ Exec.maxDepth + 1 by decide
  ready := opening_isReady
  waiting := by rintro f ⟨⟩
  layers := opening_standsOn.exists_own

/-- The next round of a launch, from where its frames are stacked. -/
theorem next_turns (see : Observer σ) (hstacked : r.machine.Stacked world.layers)
    (hover : ¬ r.IsOver) :
    ∃ a below, r.machine = Activity.atop a below ∧
      ((r.next {} see).Pushes a below ∨ (r.next {} see).Pops a below ∨
        (r.next {} see).Snaps a below) := by
  rw [IsOver, not_or, not_not] at hover
  obtain ⟨a, below, hmachine⟩ := exists_atop hover.2
  rw [next_atop hover.1 hmachine]
  rw [hmachine] at hstacked
  exact ⟨a, below, hmachine, process_turns {} see below (hstacked.ready _ rfl)
    hstacked.world_below_ne_nil r.seen⟩

theorem stacked_iterate (m : Meter) (see : Observer σ) (code : Bytes) (world : World)
    (gasLimit : Int) (seen : σ) (n : Nat)
    (hover : ¬ ((Round.next {} see)^[n] (m.firstRound code world gasLimit seen)).IsOver) :
    ((Round.next {} see)^[n] (m.firstRound code world gasLimit seen)).machine.Stacked
      world.layers := by
  induction n with
  | zero => exact opening_stacked
  | succ n ih =>
    rw [IsOver, not_or, not_not] at hover
    obtain ⟨hreach, hready⟩ := iterate_reaches see opening_isReady _ seen (n + 1) hover.1
    have hstands := standsOn_of_reaches hreach hover.2
    rw [firstRound, Function.iterate_succ_apply'] at *
    have hbefore := not_isOver_of_next (not_or.2 ⟨not_not.2 hover.1, hover.2⟩)
    obtain ⟨a, below, hmachine, hturns⟩ := next_turns see (ih hbefore) hbefore
    have hstacked := hmachine ▸ ih hbefore
    rcases hturns with hpushes | hpops | hsnaps
    · exact hstacked.of_pushes hpushes hready hstands
    · exact hstacked.of_pops hpops hready hstands
    · exact absurd hover.1 hsnaps.fault

/-- Between two rounds of a launch the frames are stacked: they lie at the depths 0, 1, ..., up to
1024 at most, all but the uppermost wait, and their layers lie one on another over the given world.
The next round puts one new frame on top of the one that it processes, or brings it to its end,
takes it away and resumes the one beneath once; or it meets a fault, and the run is over. In a
launch of words with less gas than a shortage takes, no round meets a fault. -/
theorem launch_stack (m : Meter) (see : Observer σ) (code : Bytes) (world : World) (gasLimit : Int)
    (seen : σ) (n : Nat) :
    let r := (Round.next {} see)^[n] (m.firstRound code world gasLimit seen)
    (¬ r.IsOver → r.machine.Stacked world.layers ∧
      ∃ a below, r.machine = Activity.atop a below ∧
        ((r.next {} see).Pushes a below ∨ (r.next {} see).Pops a below ∨
          (r.next {} see).Snaps a below)) ∧
    (m.block.Sound .word → (code.size : Int) < Word.ceiling → world.IsWordSized →
      0 ≤ m.initialGas gasLimit → m.initialGas gasLimit ≤ Gas.shortagePrice → r.fault = none) := by
  intro r
  refine ⟨fun hover => ?_, fun hblock hcode hworld hpositive hgas => ?_⟩
  · have hstacked := stacked_iterate m see code world gasLimit seen n hover
    exact ⟨hstacked, next_turns see hstacked hover⟩
  · obtain ⟨k, hwords, hlimit, hstarts⟩ :=
      starts_words hblock hcode hworld hpositive (hgas.trans_lt (by decide))
    have hstands :=
      stands_iterate see hstarts opening_isReady (m.initialFrame code world gasLimit) seen n
    cases hfault : r.fault with
    | none => rfl
    | some fault =>
      have hexcused := hstands.excuses hstarts hfault
      rw [Scale.Excuses, hwords, hlimit] at hexcused
      exact absurd hexcused.2 (not_lt.2 hgas)

def returningCall : Bytes :=
  #[0x3d, 0x3d, 0x3d, 0x3d, 0x3d, 0x62, 0x0c, 0xa1, 0x1e, 0x5a, 0xf1]

theorem launch_stack_returningCall :
    let r := (Round.next {} .blind)^[1]
      (({} : Meter).firstRound returningCall (Fixture.world returningCall) 100 ())
    (¬ r.IsOver ∧ r.machine.frames.map (·.context.depth) = [1, 0] ∧
      ({} : Meter).initialGas 100 ≤ Gas.shortagePrice) ∧
    r.machine.Stacked (Fixture.world returningCall).layers ∧ r.fault = none := by
  intro r
  have hopen : (r.fault.isNone && !r.machine.frames.isEmpty) = true := by decide +kernel
  rw [Bool.and_eq_true, Option.isNone_iff_eq_none, Bool.not_eq_true', List.isEmpty_eq_false_iff]
    at hopen
  have hover : ¬ r.IsOver := not_or.2 ⟨not_not.2 hopen.1, hopen.2⟩
  have hcode : (returningCall.size : Int) < Word.ceiling := by decide
  have hgas : ({} : Meter).initialGas 100 ≤ Gas.shortagePrice := by decide
  obtain ⟨hstack, hquiet⟩ :=
    launch_stack {} .blind returningCall (Fixture.world returningCall) 100 () 1
  exact ⟨⟨hover, by decide +kernel, hgas⟩, (hstack hover).1,
    hquiet (Block.sound_default .word) hcode (Fixture.world_isWordSized hcode) (by decide) hgas⟩

end Meter
end Gasometer
