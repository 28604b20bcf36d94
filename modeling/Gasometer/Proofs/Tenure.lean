import Gasometer.Proofs.Beginnings
import Gasometer.Proofs.StaticCalls

/-!
# The time that a frame is open

A frame keeps its context for as long as it is open, and so do the frames beneath it. A frame that
was just opened is started first. When its code was left and no other frame stands on it, nothing
follows but that it is taken away.
-/
namespace Gasometer

variable {rules : CreationRules} {a b : Activity} {child : Frame} {below rest : List Frame}
  {s t u : Machine} {n : Nat}

namespace Machine

def contexts (m : Machine) : List Context := m.frames.map (·.context)

theorem length_contexts (m : Machine) : m.contexts.length = m.frames.length := List.length_map ..

theorem contexts_leave (a : Activity) (below : List Frame) :
    (a.leave below).contexts = below.map (·.context) := by
  cases below with
  | nil => rfl
  | cons opener rest => exact congrArg (· :: rest.map (·.context)) (Frame.resume_context ..)

theorem contexts_suffix {a' : Activity} (h : a'.frame.context = a.frame.context)
    (below : List Frame) : (a.atop below).contexts <:+ (a'.atop below).contexts := by
  rw [show (a.atop below).contexts = (a'.atop below).contexts by simp [contexts, h]]

/-- A move puts one context on the others, or takes one away, or leaves them as they are. -/
theorem contexts_of_move (h : Move rules s t) :
    s.contexts <:+ t.contexts ∨ t.contexts <:+ s.contexts := by
  cases h with
  | @start a below => exact .inl (contexts_suffix (Activity.start_context rules a) below)
  | @runOff a below => exact .inl (contexts_suffix rfl below)
  | step below _ _ hstep => exact .inl (contexts_suffix (Exec.Local.of_ok hstep).context below)
  | open_ below _ _ hstep =>
    have hopener := contexts_suffix (Exec.Local.of_ok hstep).context below
    exact .inl (hopener.trans (List.suffix_cons _ _))
  | @halt a a' byte reason below _ _ hstep =>
    have hhalted : (a.atop below).contexts <:+
        ((a'.mapFrame (·.halt reason)).atop below).contexts :=
      contexts_suffix (Exec.Local.of_error hstep).context below
    exact .inl hhalted
  | close below =>
    rw [contexts_leave]
    exact .inr (List.suffix_cons _ _)

end Machine

/-- The frame beneath one that was just opened, and what is visible there. -/
theorem Activity.opening_standsOn (a : Activity) (child : Frame) (below : List Frame) :
    (a.opening child below).StandsOn (a.waiting :: below) a.world.layers where
  frames := List.suffix_cons _ _
  layers := List.suffix_cons _ _
  height := by
    simp only [opening, World.open_, World.layers, List.length_cons]
    omega

namespace ReachesAbove
open Machine

/-- The lowest frames keep their contexts while they and one more are open. -/
theorem contexts {cs : List Context} (h : ReachesAbove rules n s t) (hlength : cs.length ≤ n + 1)
    (hs : cs <:+ s.contexts) : cs <:+ t.contexts := by
  induction h with
  | refl => exact hs
  | @tail t u _ hmove ih =>
    rcases contexts_of_move hmove.1 with hgrown | hshrunk
    · exact ih.trans hgrown
    · refine List.suffix_of_suffix_length_le ih hshrunk ?_
      rw [length_contexts]
      exact hlength.trans hmove.2

/-- A frame has the context with which it was opened. -/
theorem context_of_opening (h : ReachesAbove rules (below.length + 1) (a.opening child below)
      (b.atop rest)) (hlength : rest.length = below.length + 1) :
    b.frame.context = child.context := by
  have hsuffix : (a.opening child below).contexts <:+ (b.atop rest).contexts :=
    h.contexts (by rw [length_contexts]; rfl) (List.suffix_refl _)
  have hcontexts := hsuffix.eq_of_length (by
    rw [length_contexts, length_contexts]
    exact congrArg (· + 1) hlength.symm)
  exact (List.cons.inj hcontexts).1.symm

/-- Beneath a frame that was opened lies what lay there, until it is taken away. -/
theorem beneath_of_opening (h : ReachesAbove rules (below.length + 1) (a.opening child below)
      (b.atop rest)) (hlength : rest.length = below.length + 1) :
    rest = a.waiting :: below ∧ b.world.below = a.world.layers := by
  have hstands := (a.opening_standsOn child below).of_reachesAbove (Nat.lt_succ_self _) h
  have hrests := hstands.1.restsOn hlength.ge
  have hheight := hrests.height
  rw [List.length_cons, hlength] at hheight
  exact ⟨(hrests.frames.eq_of_length hlength.symm).symm,
    (hrests.layers.eq_of_length (by omega)).symm⟩

/-- A new frame is started first. -/
theorem started (h : ReachesAbove rules n (a.atop below) t)
    (hnew : a.frame.status = .notStarted) :
    t = a.atop below ∨ ReachesAbove rules n ((a.start rules).atop below) t := by
  rcases h.cases_head with rfl | ⟨u, hmove, hrest⟩
  · exact .inl rfl
  · rw [← hmove.1.unique (.start below hnew)]
    exact .inr hrest

/-- A frame that has left its code is taken away next. -/
theorem eq_of_isLeft (h : ReachesAbove rules n (a.atop below) t) (hleft : a.frame.status.IsLeft)
    (hlength : below.length ≤ n) : t = a.atop below := by
  rcases h.cases_head with rfl | ⟨u, hmove, -⟩
  · rfl
  · have hopen := hmove.2
    rw [hmove.1.unique (.close below hleft), frames_leave, length_woken] at hopen
    omega

end ReachesAbove

/-- Whether a frame is about to execute the operation with this byte, and this holds of the state
after it and of the frame that it opens. -/
def Activity.opensWith (byte : UInt8) (p : Activity → Frame → Bool) (a : Activity) : Bool :=
  a.frame.status == .executing && a.nextByte? == some byte &&
    match Exec.step byte a with
    | .ok (some child) a' => p a' child
    | _ => false

theorem Activity.exists_of_opensWith {byte : UInt8} {p : Activity → Frame → Bool}
    (h : a.opensWith byte p = true) :
    a.frame.status = .executing ∧ a.nextByte? = some byte ∧
      ∃ a' child, Exec.step byte a = .ok (some child) a' ∧ p a' child = true := by
  unfold opensWith at h
  rw [Bool.and_eq_true, Bool.and_eq_true, beq_iff_eq, beq_iff_eq] at h
  obtain ⟨⟨hstatus, hbyte⟩, h⟩ := h
  split at h
  · rename_i child a' hstep
    exact ⟨hstatus, hbyte, a', child, hstep, h⟩
  · cases h

/-- No frame of a launch lies at a depth below zero. -/
theorem Meter.depth_nonneg_of_reaches {m : Meter} {code : Bytes} {world : World} {gasLimit : Int}
    (h : Reaches {} (m.opening code world gasLimit) (a.atop below)) :
    0 ≤ a.frame.context.depth := by
  refine (context_of_reaches (q := fun c => 0 ≤ c.depth) le_rfl (fun h hdeed => ?_) h).1
  rw [hdeed.depth.1]
  omega

end Gasometer
