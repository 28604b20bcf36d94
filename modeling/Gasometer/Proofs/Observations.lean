import Gasometer.Proofs.Launches

/-!
# Observed moves

An observer is told of a run move by move. A run that meets no fault is a sequence of moves, and
what its observer has gathered at the end is what these moves have told, up to the one that takes
the last frame away.
-/
namespace Gasometer

variable {σ : Type} {rules : CreationRules} {see : Observer σ} {a a' : Activity}
  {below : List Frame} {seen : σ}

/-- A move with what the observer has gathered before and after it. -/
inductive Watched (rules : CreationRules) (see : Observer σ) : Machine × σ → Machine × σ → Prop
  | start {a : Activity} (below : List Frame) (seen : σ) (hstatus : a.frame.status = .notStarted) :
    Watched rules see (a.atop below, seen) ((a.start rules).atop below, see (.enter a.frame) seen)
  | runOff {a : Activity} (below : List Frame) (seen : σ) (hstatus : a.frame.status = .executing)
    (hbyte : a.nextByte? = none) :
    Watched rules see (a.atop below, seen) (a.runOff.atop below, seen)
  | step {a a' : Activity} {byte : UInt8} (below : List Frame) (seen : σ)
    (hstatus : a.frame.status = .executing) (hbyte : a.nextByte? = some byte)
    (hstep : Exec.step byte a = .ok none a') :
    Watched rules see (a.atop below, seen) (a'.atop below, a.told see byte a' seen)
  | open_ {a a' : Activity} {byte : UInt8} {child : Frame} (below : List Frame) (seen : σ)
    (hstatus : a.frame.status = .executing) (hbyte : a.nextByte? = some byte)
    (hstep : Exec.step byte a = .ok (some child) a') :
    Watched rules see (a.atop below, seen) (a'.opening child below,
      see (.processed { a'.frame with status := .suspended } (below.length + 2))
        (a.told see byte a' seen))
  | halt {a a' : Activity} {byte : UInt8} {reason : HaltReason} (below : List Frame) (seen : σ)
    (hstatus : a.frame.status = .executing) (hbyte : a.nextByte? = some byte)
    (hstep : Exec.step byte a = .error (.halt reason) a') :
    Watched rules see (a.atop below, seen) ((a'.mapFrame (·.halt reason)).atop below, seen)
  | close {a : Activity} (below : List Frame) (seen : σ) (hleft : a.frame.status.IsLeft) :
    Watched rules see (a.atop below, seen) ((a.finish rules).leave below,
      see (.processed (a.finish rules).frame below.length)
        (see (.exit (a.finish rules).frame) seen))

abbrev Watches (rules : CreationRules) (see : Observer σ) : Machine × σ → Machine × σ → Prop :=
  Relation.ReflTransGen (Watched rules see)

/-- What a run of the code has shown of the machine, if it has met no fault. -/
def Run.Shows (r : Run σ) (rules : CreationRules) (see : Observer σ) (s : Machine × σ)
    (below : List Frame) : Prop :=
  match r.ending with
  | .left => Watches rules see s (r.activity.atop below, r.seen) ∧ r.activity.frame.status.IsLeft
  | .opened child => Watches rules see s
      (⟨child :: r.activity.frame :: below, r.activity.world.open_, r.activity.access⟩,
        see (.processed r.activity.frame (below.length + 2)) r.seen)
  | .faulted _ => True

theorem Run.Shows.head {r : Run σ} {s t : Machine × σ} (h : Watched rules see s t)
    (hr : r.Shows rules see t below) : r.Shows rules see s below := by
  unfold Run.Shows at *
  cases hending : r.ending with
  | left => rw [hending] at hr; exact ⟨.head h hr.1, hr.2⟩
  | opened child => rw [hending] at hr; exact .head h hr
  | faulted fault => trivial

/-- How a run from `s` has ended without a fault: the only frame left was brought to its end. -/
def Round.Closes (r : Round σ) (rules : CreationRules) (see : Observer σ) (s : Machine × σ) :
    Prop :=
  ∃ (a : Activity) (seen : σ), Watches rules see s (a.atop [], seen) ∧ a.frame.status.IsLeft ∧
    r.frame = (a.finish rules).frame ∧
    r.seen = see (.processed r.frame 0) (see (.exit r.frame) seen)

theorem Round.Closes.of_watches {r : Round σ} {s t : Machine × σ} (h : Watches rules see s t)
    (hr : r.Closes rules see t) : r.Closes rules see s := by
  obtain ⟨a, seen, ha, hrest⟩ := hr
  exact ⟨a, seen, h.trans ha, hrest⟩

theorem Watched.frames_ne_nil {s t : Machine} {seen seen' : σ}
    (h : Watched rules see (s, seen) (t, seen')) : s.frames ≠ [] := by
  cases h <;> exact List.cons_ne_nil _ _

/-- What every move keeps up as long as a frame is open holds of all states with an open frame. -/
theorem Watches.holds {s t : Machine} {seen seen' : σ} {p : Machine → σ → Prop}
    (hp : ∀ {s t seen seen'}, Watched rules see (s, seen) (t, seen') → t.frames ≠ [] →
      p s seen → p t seen')
    (hs : p s seen) (h : Watches rules see (s, seen) (t, seen')) (ht : t.frames ≠ []) :
    p t seen' := by
  generalize hu : (t, seen') = u at h
  induction h generalizing t seen' with
  | refl =>
    obtain ⟨rfl, rfl⟩ := Prod.mk.inj hu
    exact hs
  | @tail v u hbefore hmove ih =>
    subst hu
    obtain ⟨w, seen''⟩ := v
    exact hp hmove ht (ih hmove.frames_ne_nil rfl)

namespace Activity

/-- A run of the code is a sequence of observed moves. -/
theorem RunsTo.shows {r : Run σ} {fuel : Nat} (h : RunsTo see fuel a seen r) (below : List Frame)
    (hstatus : a.frame.status = .executing) : r.Shows rules see (a.atop below, seen) below := by
  induction h with
  | cutOff | fault => trivial
  | runOff hbyte => exact ⟨.single (.runOff below _ hstatus hbyte), trivial⟩
  | halt hbyte hstep => exact ⟨.single (.halt below _ hstatus hbyte hstep), trivial⟩
  | open_ hbyte hstep => exact .single (.open_ below _ hstatus hbyte hstep)
  | leave hbyte hstep hleft =>
    exact ⟨.single (.step below _ hstatus hbyte hstep),
      (isLeft_of_step hstatus hstep).resolve_left hleft⟩
  | next hbyte hstep hgoes _ ih => exact (ih hgoes).head (.step below _ hstatus hbyte hstep)

end Activity

namespace Machine
open Activity

theorem runStarted_shows (see : Observer σ) (below : List Frame)
    (hstatus : a.frame.status = .executing ∨ a.frame.status.IsLeft) (seen : σ) :
    (runStarted see a seen).Shows rules see (a.atop below, seen) below := by
  unfold runStarted
  split
  · exact (runsTo_run see a seen).shows below (by assumption)
  · rename_i hne
    exact ⟨.refl, hstatus.resolve_left hne⟩

theorem advance_shows (rules : CreationRules) (see : Observer σ) (below : List Frame)
    (hready : a.frame.status.IsReady) (seen : σ) :
    (advance rules see a seen).Shows rules see (a.atop below, seen) below := by
  unfold advance
  rcases hready.cases with hs | hs <;> rw [hs]
  · exact (runStarted_shows see below (start_status rules a) _).head (.start below seen hs)
  · exact runStarted_shows see below (.inl hs) seen

/-- A round that meets no fault is a sequence of observed moves. -/
theorem process_watches (rules : CreationRules) (see : Observer σ) (below : List Frame)
    (hready : a.frame.status.IsReady) (seen : σ) :
    let r := process rules see a below seen
    r.fault = none → Watches rules see (a.atop below, seen) (r.machine, r.seen) ∧
      (r.machine.frames = [] → r.Closes rules see (a.atop below, seen)) := by
  have h := advance_shows rules see below hready seen
  unfold process
  generalize advance rules see a seen = run at h ⊢
  unfold Run.Shows at h
  unfold conclude
  cases hending : run.ending with
  | faulted fault => simp
  | opened child =>
    rw [hending] at h
    exact fun _ => ⟨h, fun hempty => by cases hempty⟩
  | left =>
    rw [hending] at h
    dsimp only
    rw [length_woken]
    refine fun _ => ⟨h.1.tail (.close below run.seen h.2), fun hempty => ?_⟩
    obtain rfl : below = [] := by
      have := congrArg List.length hempty
      rwa [length_woken, List.length_nil, List.length_eq_zero_iff] at this
    exact ⟨_, _, h.1, h.2, rfl, rfl⟩

/-- A run that meets no fault is a sequence of observed moves up to its end. -/
theorem runFor_closes (rules : CreationRules) (see : Observer σ) (fuel : Nat) (last : Frame)
    {m : Machine} (hready : m.IsReady) (hframes : m.frames ≠ []) (seen : σ)
    (hfault : (runFor rules see fuel last m seen).fault = none) :
    (runFor rules see fuel last m seen).Closes rules see (m, seen) := by
  induction fuel generalizing last m seen with
  | zero =>
    obtain ⟨a, below, rfl⟩ := exists_atop hframes
    rw [runFor_atop_zero] at hfault
    cases hfault
  | succ fuel ih =>
    obtain ⟨a, below, rfl⟩ := exists_atop hframes
    have h := process_watches rules see below (hready _ rfl) seen
    have hfollows := process_follows rules see below (hready _ rfl) seen
    rw [runFor_atop_succ] at hfault ⊢
    dsimp only at h hfault ⊢
    generalize process rules see a below seen = round at h hfollows hfault ⊢
    obtain ⟨frame, machine, seen', fault⟩ := round
    cases fault with
    | some fault => cases hfault
    | none =>
      obtain ⟨hwatches, hcloses⟩ := h rfl
      obtain ⟨⟨t, -, hturn⟩, -⟩ := hfollows
      by_cases hempty : machine.frames = []
      · dsimp only
        rw [runFor_of_frames_eq_nil hempty]
        exact hcloses hempty
      · exact (ih frame (ready_of_turn hturn) hempty seen' hfault).of_watches hwatches

end Machine

/-- A launch that meets no fault is a sequence of observed moves up to its end. -/
theorem Meter.launch_closes (m : Meter) (see : Observer σ) (code : Bytes) (world : World)
    (gasLimit : Int) (seen : σ) (hfault : (m.launch see code world gasLimit seen).fault = none) :
    (m.launch see code world gasLimit seen).Closes {} see (m.opening code world gasLimit, seen) :=
  Machine.runFor_closes {} see _ _ opening_isReady opening_frames_ne_nil seen hfault

end Gasometer
