import Gasometer.Proofs.Towers

/-!
# Frames that have begun

A frame runs only if its value can be paid and, where it makes a contract, only if no account stands
in the way of it. So a property of frames may rest on this if it is asked of a frame only once that
frame has begun: beneath the uppermost frame all have begun, and a frame that was halted leaves
nothing behind.
-/
namespace Gasometer
open World (through)

/-- Whether no account stands in the way of a frame; only one that makes a contract needs this. -/
def View.Free (v : View) (c : Context) : Prop :=
  c.kind = .contractCreation → Activity.isTaken (v c.address) = false

/-- The outside of a frame that has done nothing yet. -/
def Outward.fresh (c : Context) (v : View) : Outward := ⟨c, v, [], []⟩

/-- A property that a frame has when it has begun, and that nothing it does breaks. -/
structure Enduring (rules : CreationRules) (p : Outward → View → Prop) : Prop where
  begins : ∀ {c v}, v.Funds c → v.Free c → p ((Outward.fresh c v).started rules) v
  deed : ∀ {o child? o' v}, p o v → Deed o child? o' → p o' v
  joins : ∀ {o inner v}, p o v → p inner o.view → ∀ output, p (o.joined (inner.ended output)) v

variable {rules : CreationRules} {p : Outward → View → Prop} {ls : List Layer} {a : Activity}
  {below : List Frame} {s t : Machine}

namespace Activity

/-- How a frame stands over what is visible beneath its layer: it is new, it was halted, or it has
begun, and has this property. -/
inductive Stands (p : Outward → View → Prop) (a : Activity) : Prop
  | new (hstatus : a.frame.status = .notStarted)
    (hfresh : a.outward = .fresh a.frame.context (through a.world.below))
  | halted (reason : HaltReason) (hstatus : a.frame.status = .halted reason)
  | begun (hstatus : a.frame.status ≠ .notStarted) (h : p a.outward (through a.world.below))

theorem Stands.of_executing (h : a.Stands p) (hstatus : a.frame.status = .executing) :
    p a.outward (through a.world.below) := by
  cases h with
  | new hnew => cases hstatus.symm.trans hnew
  | halted reason hhalted => cases hstatus.symm.trans hhalted
  | begun _ h => exact h

theorem Stands.fresh (h : a.Stands p) (hstatus : a.frame.status = .notStarted) :
    a.outward = .fresh a.frame.context (through a.world.below) := by
  cases h with
  | new _ hfresh => exact hfresh
  | halted reason hhalted => cases hstatus.symm.trans hhalted
  | begun hbegun => exact absurd hstatus hbegun

/-- A frame that makes a contract does not begin where an account stands in its way. -/
theorem free_of_start (h : (a.start rules).frame.status = .executing) :
    View.Free a.world.get? a.frame.context := by
  intro hkind
  by_contra htaken
  rw [Bool.not_eq_false] at htaken
  unfold start at h
  dsimp only at h
  rw [hkind] at h
  dsimp only at h
  rw [if_pos htaken] at h
  cases h

/-- A frame that is started is halted at once, or has begun. -/
theorem start_begins (rules : CreationRules) (a : Activity) :
    (∃ reason, (a.start rules).frame.status = .halted reason) ∨
      (a.outward.view.Funds a.outward.context ∧ a.outward.view.Free a.outward.context ∧
        (a.start rules).frame.status = .executing ∧
        (a.start rules).outward = a.outward.started rules) := by
  rcases start_cases rules a with ⟨reason, -, h⟩ | ⟨w, hw, h⟩
  · exact .inl ⟨reason, by rw [h]; rfl⟩
  · have hstatus : (a.start rules).frame.status = .executing := by rw [h]; rfl
    obtain ⟨hfunds, hpaid⟩ := transfer?_get? hw
    have hview := claimed_get? rules a.frame.context w
    rw [hpaid] at hview
    refine .inr ⟨hfunds, free_of_start hstatus, hstatus, ?_⟩
    rw [h]
    show Frame.outward _ (claimed rules a.frame.context w).get? = _
    rw [hview]
    rfl

/-- Only a frame that has returned succeeds. -/
theorem returned_of_finish (h : (a.finish rules).frame.status = .succeeded)
    (hleft : a.frame.status.IsLeft) : a.frame.status = .returned := by
  unfold finish at h
  rcases hleft.cases with hstatus | ⟨reason, hstatus⟩ | hstatus
  · exact hstatus
  · rw [hstatus, settle_status_of_halted hstatus] at h
    cases h
  · rw [hstatus, settle_status_of_reverted hstatus] at h
    cases h

/-- A frame that succeeds has begun. -/
theorem Stands.of_finish (h : a.Stands p) (hleft : a.frame.status.IsLeft)
    (hsucceeded : (a.finish rules).frame.status = .succeeded) :
    p a.outward (through a.world.below) := by
  have hreturned := returned_of_finish hsucceeded hleft
  cases h with
  | new hnew => cases hreturned.symm.trans hnew
  | halted reason hhalted => cases hreturned.symm.trans hhalted
  | begun _ h => exact h

end Activity

namespace Machine
open Activity

/-- All frames beneath the uppermost one have the property, with their layers over these, and the
uppermost one stands. -/
def Upholds (p : Outward → View → Prop) (ls : List Layer) (m : Machine) : Prop :=
  ∀ a below, m = Activity.atop a below → Tower p [] ls below a.world.below ∧ a.Stands p

theorem Upholds.atop (h : Tower p [] ls below a.world.below) (ha : a.Stands p) :
    (a.atop below).Upholds p ls := by
  rintro ⟨top, world, access⟩ _ ⟨⟩
  exact ⟨h, ha⟩

/-- A frame that was just opened over one with the property. -/
theorem Upholds.opening {child : Frame} (h : Tower p [] ls below a.world.below)
    (htop : p a.outward (through a.world.below))
    (hchild : child = { context := child.context, gas := child.gas }) :
    (a.opening child below).Upholds p ls := by
  refine Upholds.atop (a := ⟨child, a.world.open_, a.access⟩) (.storey h htop) (.new ?_ ?_)
  · rw [hchild]
  · show child.outward (through (Table.empty :: a.world.layers)) = .fresh child.context _
    rw [World.through_empty, hchild]
    rfl

/-- A frame has come to its end, and the one beneath it has the property again. -/
theorem Upholds.leave {opener : Frame} (hp : Enduring rules p)
    (h : Tower p [] ls (opener :: below) a.world.below) (ha : a.Stands p)
    (hleft : a.frame.status.IsLeft) :
    ((a.finish rules).leave (opener :: below)).Upholds p ls := by
  obtain ⟨l, lower, hbelow, hlower, hopener⟩ := h.of_storey (Nat.zero_le _)
  obtain ⟨l', hlayers, hleaves⟩ := finish_outward rules hleft hbelow
  have hwoken : (opener.resume (a.finish rules).frame).status ≠ .notStarted := by
    rw [Frame.resume_status]
    simp
  let a' : Activity :=
    ⟨opener.resume (a.finish rules).frame, (a.finish rules).world.close, (a.finish rules).access⟩
  -- the opener goes on in the layer `l'`, over what lay beneath its layer before
  have hlower' : a'.world.below = lower := (List.cons.inj hlayers).2
  refine Upholds.atop (a := a') (hlower' ▸ hlower) (.begun hwoken ?_)
  show p ((opener.resume _).outward (through (a.finish rules).world.close.layers)) _
  rw [hlower', hlayers]
  rw [hbelow] at hopener
  rcases hleaves with ⟨hfailed, rfl⟩ | ⟨hsucceeded, heffects, hview⟩
  · rwa [Frame.resume_outward_of_failed hfailed]
  · have htop := ha.of_finish hleft hsucceeded
    rw [hbelow] at htop
    rw [hview, Frame.resume_outward_of_succeeded hsucceeded _ (through (l :: lower)),
      Frame.outward_of_effects (finish_context rules a) heffects]
    exact hp.joins hopener htop a.frame.output

/-- The frames that have begun keep the property when the machine moves. -/
theorem Upholds.move (hp : Enduring rules p) (h : s.Upholds p ls) (hmove : Move rules s t) :
    t.Upholds p ls := by
  cases hmove with
  | @start a below hstatus =>
    obtain ⟨hlower, hstands⟩ := h a below rfl
    have hfresh := hstands.fresh hstatus
    rw [← start_below rules a] at hlower
    refine .atop hlower ?_
    rcases start_begins rules a with ⟨reason, hhalted⟩ | ⟨hfunds, hfree, hbegun, houtward⟩
    · exact .halted reason hhalted
    · refine .begun (by rw [hbegun]; simp) ?_
      rw [hfresh] at hfunds hfree
      rw [houtward, start_below, hfresh]
      exact hp.begins hfunds hfree
  | @runOff a below hstatus hbyte =>
    obtain ⟨hlower, hstands⟩ := h a below rfl
    exact .atop (a := a.runOff) hlower (.begun (by simp [runOff, mapFrame])
      (hstands.of_executing hstatus))
  | @step a a' byte below hstatus hbyte hstep =>
    obtain ⟨hlower, hstands⟩ := h a below rfl
    have htop := hstands.of_executing hstatus
    rw [← (Exec.Local.of_ok hstep).below] at hlower htop
    refine .atop hlower (.begun ?_ (hp.deed htop (Exec.deed_of_step hstep)))
    rcases isLeft_of_step hstatus hstep with hgoes | hleft
    · rw [hgoes]
      simp
    · intro hnew
      rw [hnew] at hleft
      exact hleft
  | @open_ a a' byte child below hstatus hbyte hstep =>
    obtain ⟨hlower, hstands⟩ := h a below rfl
    have htop := hstands.of_executing hstatus
    rw [← (Exec.Local.of_ok hstep).below] at hlower htop
    exact .opening hlower (hp.deed htop (Exec.deed_of_step hstep)) (Exec.Fresh.of_ok hstep)
  | @halt a a' byte reason below hstatus hbyte hstep =>
    obtain ⟨hlower, -⟩ := h a below rfl
    rw [← (Exec.Local.of_error hstep).below] at hlower
    exact .atop (a := a'.mapFrame (·.halt reason)) hlower (.halted reason rfl)
  | @close a below hleft =>
    obtain ⟨hlower, hstands⟩ := h a below rfl
    cases below with
    | nil =>
      rintro _ _ hnone
      cases congrArg Machine.frames hnone
    | cons opener rest => exact .leave hp hlower hstands hleft

theorem Upholds.of_reaches (hp : Enduring rules p) (h : s.Upholds p ls)
    (hreach : Reaches rules s t) : t.Upholds p ls := by
  induction hreach with
  | refl => exact h
  | tail _ hmove ih => exact ih.move hp hmove

/-- What the only frame left leaves behind when it succeeds: its own view. -/
theorem Upholds.leave_last (h : (a.atop []).Upholds p ls) (hleft : a.frame.status.IsLeft)
    (hne : ls ≠ []) (hsucceeded : (a.finish rules).frame.status = .succeeded) :
    let w := ((a.finish rules).leave []).world
    w.layers.length = ls.length ∧ p a.outward (through ls) ∧
      (a.finish rules).frame.selfDestructs = a.frame.selfDestructs ∧
      w.get? = (a.outward.ended a.frame.output).view := by
  intro w
  obtain ⟨hlower, hstands⟩ := h a [] rfl
  have htop := hstands.of_finish hleft hsucceeded
  have hbelow : a.world.below = ls :=
    (hlower.layers_suffix.eq_of_length (by simpa using hlower.length.symm)).symm
  rw [hbelow] at htop
  obtain ⟨l, lower, rfl⟩ := List.exists_cons_of_ne_nil hne
  obtain ⟨l', hlayers, ⟨hfailed, -⟩ | ⟨-, heffects, hview⟩⟩ := finish_outward rules hleft hbelow
  · exact absurd hsucceeded hfailed
  · change w.layers = l' :: lower at hlayers
    refine ⟨by rw [hlayers]; rfl, htop, congrArg Prod.snd heffects, ?_⟩
    exact (congrArg through hlayers).trans hview

def lowestContext? (m : Machine) : Option Context := (m.frames.map (·.context)).getLast?

/-- The lowest frame keeps its context for as long as there is one. -/
theorem lowestContext?_of_move (hmove : Move rules s t) (ht : t.frames ≠ []) :
    t.lowestContext? = s.lowestContext? := by
  unfold lowestContext?
  cases hmove with
  | @start a below => rw [frames_atop, List.map_cons, start_context]; rfl
  | runOff below => rfl
  | @step a a' byte below _ _ hstep =>
    rw [frames_atop, List.map_cons, (Exec.Local.of_ok hstep).context]
    rfl
  | @open_ a a' byte child below _ _ hstep =>
    rw [frames_opening, List.map_cons, List.map_cons, List.getLast?_cons_cons]
    dsimp only
    rw [(Exec.Local.of_ok hstep).context]
    rfl
  | @halt a a' byte reason below _ _ hstep =>
    show (a'.frame.context :: _).getLast? = _
    rw [(Exec.Local.of_error hstep).context]
    rfl
  | @close a below hleft =>
    cases below with
    | nil => exact absurd rfl ht
    | cons opener rest =>
      rw [frames_leave, woken, List.map_cons, Frame.resume_context, frames_atop, List.map_cons,
        List.map_cons, List.getLast?_cons_cons]

theorem lowestContext?_of_reaches (hreach : Reaches rules s t) (ht : t.frames ≠ []) :
    t.lowestContext? = s.lowestContext? := by
  induction hreach with
  | refl => rfl
  | tail _ hmove ih =>
    refine (lowestContext?_of_move hmove ht).trans (ih fun hnone => ?_)
    cases hmove <;> cases hnone

end Machine

namespace Meter
open Machine

/-- In all states of a launch the frames that have begun have an enduring property. -/
theorem upholds_of_reaches {m : Meter} {code : Bytes} {world : World} {gasLimit : Int}
    (hp : Enduring {} p) (hreach : Reaches {} (m.opening code world gasLimit) t) :
    t.Upholds p world.layers := by
  refine Upholds.of_reaches hp (s := m.opening code world gasLimit) ?_ hreach
  refine .atop (a := ⟨m.initialFrame code world gasLimit, world.open_, _⟩) .ground (.new rfl ?_)
  show Frame.outward _ (through (Table.empty :: world.layers)) = .fresh _ (through world.layers)
  rw [World.through_empty]
  rfl

end Meter
end Gasometer
