import Gasometer.Proofs.Tenure
import Gasometer.Proofs.Trails

/-!
# How frames come to their ends

A frame that is at work goes on until its code is left, whatever it opens on the way, or until a
fault is met; it cannot go on for ever. Meanwhile nothing is seen of the frames beneath it: with
others in their place, it makes the same moves.
-/
namespace Gasometer

variable {rules : CreationRules} {k : Scale} {s t : Machine} {a : Activity}
  {below lower : List Frame} {fault : Fault} {low : Nat}

namespace Machine
open Activity

/-! Frames at work come to an end. -/

def IsLive (m : Machine) : Prop := ∀ f ∈ m.frames.head?, f.status.IsReady ∨ f.status.IsLeft

theorem isLive_atop (h : a.frame.status.IsReady ∨ a.frame.status.IsLeft) :
    (a.atop below).IsLive := by
  rintro _ ⟨⟩
  exact h

theorem isLive_of_executing (h : a.frame.status = .executing ∨ a.frame.status.IsLeft) :
    (a.atop below).IsLive := by
  refine isLive_atop (h.imp_left fun hexecuting => ?_)
  rw [hexecuting]
  trivial

/-- After every move there is a frame to be processed, or to be brought to its end. -/
theorem isLive_of_move (h : Move rules s t) : t.IsLive := by
  by_cases hlength : t.frames.length = s.frames.length
  · cases h with
    | start below hstatus => exact isLive_of_executing (start_status rules _)
    | runOff below hstatus hbyte => exact isLive_atop (.inr trivial)
    | step below hstatus hbyte hstep =>
      exact isLive_of_executing (isLeft_of_step hstatus hstep)
    | halt below hstatus hbyte hstep => exact isLive_atop (.inr trivial)
    | open_ below hstatus hbyte hstep => simp [atop] at hlength
    | close below hleft => simp [leave, atop, length_woken] at hlength
  · exact fun f hf => .inl (ready_of_turn ⟨h, hlength⟩ f hf)

/-- A machine with such a frame makes a move or meets a fault. -/
theorem IsLive.progress (h : (a.atop below).IsLive) (rules : CreationRules) :
    (∃ t, Move rules (a.atop below) t) ∨ ∃ fault t, Faults (a.atop below) fault t := by
  rcases h a.frame rfl with hready | hleft
  · rcases hready.cases with hstatus | hstatus
    · exact .inl ⟨_, .start below hstatus⟩
    · cases hbyte : a.nextByte? with
      | none => exact .inl ⟨_, .runOff below hstatus hbyte⟩
      | some byte =>
        cases hstep : Exec.step byte a with
        | ok child? a' =>
          cases child? with
          | none => exact .inl ⟨_, .step below hstatus hbyte hstep⟩
          | some child => exact .inl ⟨_, .open_ below hstatus hbyte hstep⟩
        | error cause a' =>
          cases cause with
          | halt reason => exact .inl ⟨_, .halt below hstatus hbyte hstep⟩
          | fault fault =>
            exact .inr ⟨fault, _, a, a', byte, below, rfl, hstatus, hbyte, hstep, rfl⟩
  · exact .inl ⟨_, .close below hleft⟩

/-- Only the end of the lowest of the upper frames leaves no more than `low` frames. -/
theorem closes_of_move (h : Move rules s t) (hopen : low < s.frames.length)
    (hclosed : t.frames.length ≤ low) :
    ∃ (c : Activity) (below : List Frame), s = c.atop below ∧ below.length = low ∧
      c.frame.status.IsLeft := by
  cases h with
  | start | runOff | step | halt => exact absurd hopen hclosed.not_gt
  | open_ below hstatus hbyte hstep =>
    simp only [frames_opening, frames_atop, List.length_cons] at hopen hclosed
    omega
  | @close c below hleft =>
    simp only [frames_leave, length_woken, frames_atop, List.length_cons] at hopen hclosed
    exact ⟨c, below, rfl, by omega, hleft⟩

/-- The frames above the lowest ones come to their ends, or a fault is met. -/
theorem Starts.comes_to_end (h : s.Starts rules k) (hlive : s.IsLive)
    (hopen : low < s.frames.length) :
    ∃ t, ReachesAbove rules low s t ∧
      ((∃ (c : Activity) (below : List Frame), t = c.atop below ∧ below.length = low ∧
        c.frame.status.IsLeft) ∨ ∃ fault u, Faults t fault u) := by
  -- Each move leaves fewer moves.
  induction hn : s.movesLeft.toNat using Nat.strong_induction_on generalizing s k with
  | _ n ih =>
    obtain ⟨a, below, rfl⟩ := exists_atop (List.ne_nil_of_length_pos (Nat.zero_lt_of_lt hopen))
    rcases hlive.progress rules with ⟨t, hmove⟩ | hfault
    · by_cases hclosed : t.frames.length ≤ low
      · exact ⟨_, .refl, .inl (closes_of_move hmove hopen hclosed)⟩
      · have hadvances := advances_of_move (h.rules 0) (h.space (n := 0) h.sound (by simp)) hmove
          h.sound
        have hfewer := hadvances.moves
        have hleft := hadvances.sound.movesLeft_nonneg
        obtain ⟨i, hstarts⟩ := h.of_reaches (.single hmove)
        obtain ⟨v, hreach, hends⟩ :=
          ih _ (by omega) hstarts (isLive_of_move hmove) (not_le.1 hclosed) rfl
        exact ⟨v, .head ⟨hmove, not_le.1 hclosed⟩ hreach, hends⟩
    · exact ⟨_, .refl, .inr hfault⟩

/-! Frames beneath are not seen. -/

def on (m : Machine) (lower : List Frame) : Machine := ⟨m.frames ++ lower, m.world, m.access⟩

@[simp] theorem frames_on (m : Machine) (lower : List Frame) :
    (m.on lower).frames = m.frames ++ lower := rfl

theorem atop_on (a : Activity) (below lower : List Frame) :
    (a.atop below).on lower = a.atop (below ++ lower) := rfl

/-- A move that leaves a frame above the lower ones is made over others as well. -/
theorem move_on (h : Move rules ((a.atop below).on lower) t)
    (hopen : lower.length < t.frames.length) :
    ∃ u : Machine, t = u.on lower ∧ u.frames ≠ [] ∧
      ∀ lower', Move rules ((a.atop below).on lower') (u.on lower') := by
  rw [atop_on] at h
  generalize hs : a.atop (below ++ lower) = s at h
  cases h with
  | @start b rest hstatus =>
    obtain ⟨rfl, rfl⟩ := atop_inj.1 hs
    exact ⟨(a.start rules).atop below, rfl, List.cons_ne_nil _ _,
      fun lower' => .start (below ++ lower') hstatus⟩
  | @runOff b rest hstatus hbyte =>
    obtain ⟨rfl, rfl⟩ := atop_inj.1 hs
    exact ⟨a.runOff.atop below, rfl, List.cons_ne_nil _ _,
      fun lower' => .runOff (below ++ lower') hstatus hbyte⟩
  | @step b b' byte rest hstatus hbyte hstep =>
    obtain ⟨rfl, rfl⟩ := atop_inj.1 hs
    exact ⟨b'.atop below, rfl, List.cons_ne_nil _ _,
      fun lower' => .step (below ++ lower') hstatus hbyte hstep⟩
  | @open_ b b' byte child rest hstatus hbyte hstep =>
    obtain ⟨rfl, rfl⟩ := atop_inj.1 hs
    exact ⟨b'.opening child below, rfl, List.cons_ne_nil _ _,
      fun lower' => .open_ (below ++ lower') hstatus hbyte hstep⟩
  | @halt b b' byte reason rest hstatus hbyte hstep =>
    obtain ⟨rfl, rfl⟩ := atop_inj.1 hs
    exact ⟨(b'.mapFrame (·.halt reason)).atop below, rfl, List.cons_ne_nil _ _,
      fun lower' => .halt (below ++ lower') hstatus hbyte hstep⟩
  | @close b rest hleft =>
    obtain ⟨rfl, rfl⟩ := atop_inj.1 hs
    cases below with
    | nil =>
      rw [frames_leave, length_woken] at hopen
      exact absurd hopen (lt_irrefl _)
    | cons opener below =>
      exact ⟨(a.finish rules).leave (opener :: below), rfl, List.cons_ne_nil _ _,
        fun lower' => .close (opener :: below ++ lower') hleft⟩

/-- Whatever is done above the lower frames is done over others as well. -/
theorem reachesAbove_on (h : ReachesAbove rules lower.length (s.on lower) t) (hs : s.frames ≠ []) :
    ∃ u : Machine, t = u.on lower ∧ u.frames ≠ [] ∧
      ∀ lower', lower'.length = lower.length →
        ReachesAbove rules lower.length (s.on lower') (u.on lower') := by
  induction h with
  | refl => exact ⟨s, rfl, hs, fun _ _ => .refl⟩
  | @tail v t _ hmove ih =>
    obtain ⟨u, rfl, hu, hreach⟩ := ih
    obtain ⟨a, below, rfl⟩ := exists_atop hu
    obtain ⟨u', rfl, hu', hmoves⟩ := move_on hmove.1 hmove.2
    refine ⟨u', rfl, hu', fun lower' hlength => (hreach lower' hlength).tail ⟨hmoves lower', ?_⟩⟩
    have hopen := hmove.2
    rw [frames_on, List.length_append] at hopen ⊢
    rwa [hlength]

/-- A fault is met over other frames as well. -/
theorem faults_on (h : Faults ((a.atop below).on lower) fault t) (lower' : List Frame) :
    ∃ u, Faults ((a.atop below).on lower') fault u := by
  obtain ⟨b, b', byte, rest, hs, hstatus, hbyte, hstep, -⟩ := h
  obtain ⟨rfl, -⟩ := atop_inj.1 (hs : a.atop (below ++ lower) = b.atop rest)
  exact ⟨_, a, b', byte, below ++ lower', rfl, hstatus, hbyte, hstep, rfl⟩

/-- A frame at work over others comes to its end in the same way whatever frames lie there, or it
meets a fault that the scale excuses. -/
theorem Starts.ends_over (h : (a.atop lower).Starts rules k) (hlive : (a.atop lower).IsLive) :
    (∃ c : Activity, c.frame.status.IsLeft ∧ ∀ lower' : List Frame, lower'.length = lower.length →
      ReachesAbove rules lower.length (a.atop lower') (c.atop lower')) ∨
    ∃ fault, k.Excuses fault ∧ ∀ lower' : List Frame, lower'.length = lower.length →
      ∃ t u, ReachesAbove rules lower.length (a.atop lower') t ∧ Faults t fault u := by
  obtain ⟨t, hreach, hend⟩ := h.comes_to_end hlive (Nat.lt_succ_self _)
  obtain ⟨u, rfl, hu, hreaches⟩ := reachesAbove_on (s := a.atop []) hreach (List.cons_ne_nil _ _)
  obtain ⟨b, below, rfl⟩ := exists_atop hu
  rcases hend with ⟨c, rest, hc, hlength, hleft⟩ | ⟨fault, v, hfault⟩
  · -- no other frames than the lower ones are left beneath it
    rw [atop_on, atop_inj] at hc
    obtain ⟨rfl, rfl⟩ := hc
    rw [List.length_append, Nat.add_eq_right, List.length_eq_zero_iff] at hlength
    obtain rfl := hlength
    exact .inl ⟨b, hleft, hreaches⟩
  · obtain ⟨i, hstarts⟩ := h.of_reaches hreach.reaches
    refine .inr ⟨fault, (hstarts.sound_of_faults hfault).2.2, fun lower' hlength => ?_⟩
    obtain ⟨w, hw⟩ := faults_on hfault lower'
    exact ⟨_, w, hreaches lower' hlength, hw⟩

end Machine
end Gasometer
