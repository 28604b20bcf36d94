import Gasometer.Proofs.Effects

/-!
# Towers of frames

Every open frame has a layer of its own, so frames and layers pair off from a given frame and its
layer upwards. A property of the outside of a frame, and of what is visible beneath its layer, holds
of such a tower at every moment if it is stable: if it is kept by what a frame does, by what it
takes over from a frame that it opened, and if frames that are opened have it from the beginning.
-/
namespace Gasometer
open World (through)

namespace Outward

/-- The outside of a frame that has moved its value and claimed its address. -/
def started (o : Outward) (rules : CreationRules) : Outward :=
  { o with view := (o.view.paid o.context).claimed rules o.context }

/-- The outside of a frame that succeeded with this output. -/
def ended (o : Outward) (output : Bytes) : Outward :=
  { o with view := (o.view.deposited o.context output).swept o.context o.selfDestructs }

/-- The outside of a frame that has taken over the effects of one that it opened. -/
def joined (o inner : Outward) : Outward where
  context := o.context
  view := inner.view
  logs := o.logs ++ inner.logs
  selfDestructs := Frame.uniteAddresses o.selfDestructs inner.selfDestructs

end Outward

/-- Frames above `fs` with their layers above `ls`, each of which has a property that may refer to
what is visible beneath its layer. -/
inductive Tower (p : Outward → View → Prop) (fs : List Frame) (ls : List Layer) :
    List Frame → List Layer → Prop
  | ground : Tower p fs ls fs ls
  | storey {f : Frame} {l : Layer} {frames : List Frame} {layers : List Layer}
    (hlower : Tower p fs ls frames layers)
    (htop : p (f.outward (through (l :: layers))) (through layers)) :
    Tower p fs ls (f :: frames) (l :: layers)

/-- A property that no deed of this kind breaks, if the contexts of new frames satisfy `q`. -/
structure Upheld (rules : CreationRules) (q : Context → Prop)
    (d : Outward → Option Frame → Outward → Prop) (p : Outward → View → Prop) : Prop where
  start : ∀ {o v}, p o v → o.view.Funds o.context → p (o.started rules) v
  deed : ∀ {o child? o' v}, p o v → d o child? o' → p o' v
  opens : ∀ {o child o' v}, p o v → d o (some child) o' → q child.context →
    p (child.outward o'.view) o'.view
  joins : ∀ {o inner v}, p o v → p inner o.view → ∀ output, p (o.joined (inner.ended output)) v

/-- A property that nothing a frame does breaks, if the contexts of new frames satisfy `q`. -/
structure Stable (rules : CreationRules) (q : Context → Prop) (p : Outward → View → Prop) :
    Prop where
  start : ∀ {o v}, p o v → o.view.Funds o.context → p (o.started rules) v
  deed : ∀ {o child? o' v}, p o v → Deed o child? o' → p o' v
  opens : ∀ {o child o' v}, p o v → Deed o (some child) o' → q child.context →
    p (child.outward o'.view) o'.view
  joins : ∀ {o inner v}, p o v → p inner o.view → ∀ output, p (o.joined (inner.ended output)) v

def Machine.Performs (d : Outward → Option Frame → Outward → Prop) (s : Machine) : Prop :=
  ∀ {a a' : Activity} {byte : UInt8} {child? : Option Frame} {below : List Frame},
    s = a.atop below → a.frame.status = .executing → a.nextByte? = some byte →
    Exec.step byte a = .ok child? a' → d a.outward child? a'.outward

theorem Machine.performs_deed (s : Machine) : s.Performs Deed := fun _ _ _ h => Exec.deed_of_step h

theorem Stable.upheld {rules : CreationRules} {q : Context → Prop} {p : Outward → View → Prop}
    (h : Stable rules q p) : Upheld rules q Deed p := ⟨h.start, h.deed, h.opens, h.joins⟩

variable {rules : CreationRules} {p : Outward → View → Prop} {q : Context → Prop}
  {d : Outward → Option Frame → Outward → Prop} {fs frames : List Frame} {ls layers : List Layer}
  {a : Activity} {below : List Frame}
  {s t : Machine}

namespace Activity

/-- A frame that is started is halted at once, or has moved its value. -/
theorem start_outward (rules : CreationRules) (a : Activity) :
    (a.start rules).outward = a.outward ∨
      (a.outward.view.Funds a.outward.context ∧
        (a.start rules).outward = a.outward.started rules) := by
  rcases start_cases rules a with ⟨reason, -, h⟩ | ⟨w, hw, h⟩
  · exact .inl (by rw [h]; rfl)
  · obtain ⟨hfunds, hpaid⟩ := transfer?_get? hw
    refine .inr ⟨hfunds, ?_⟩
    have hview := claimed_get? rules a.frame.context w
    rw [hpaid] at hview
    rw [h]
    show Frame.outward _ (claimed rules a.frame.context w).get? = _
    rw [hview]
    rfl

/-- What is left of a frame that has come to its end: the layer beneath is as it was, or it shows
the view of that frame. -/
theorem finish_outward (rules : CreationRules) (hleft : a.frame.status.IsLeft) {l : Layer}
    (hbelow : a.world.below = l :: layers) :
    ∃ l', (a.finish rules).world.close.layers = l' :: layers ∧
      (((a.finish rules).frame.status ≠ .succeeded ∧ l' = l) ∨
        ((a.finish rules).frame.status = .succeeded ∧
          (a.finish rules).frame.effects = a.frame.effects ∧
          through (l' :: layers) = (a.outward.ended a.frame.output).view)) := by
  obtain ⟨htail, hlength⟩ := finish_below rules a
  rw [hbelow] at htail hlength
  rw [World.layers_close (by rw [hlength]; exact Nat.succ_ne_zero _)]
  rcases finish_ends rules hleft with ⟨failure, h⟩ | h
  · exact ⟨l, (finish_below_of_failed h).trans hbelow, .inl ⟨by rw [h]; simp, rfl⟩⟩
  · obtain ⟨l', lower, hlower⟩ : ∃ l' lower, (a.finish rules).world.below = l' :: lower :=
      List.exists_cons_of_length_pos (by rw [hlength]; exact Nat.succ_pos _)
    have hview := settle_succeed_view (a := a) (by rw [hbelow]; exact List.cons_ne_nil _ _)
    rw [hlower] at htail ⊢
    rw [h] at hlower ⊢
    rw [hlower] at hview
    obtain rfl : lower = layers := htail
    exact ⟨l', rfl, .inr ⟨rfl, rfl, hview⟩⟩

end Activity

namespace Frame

variable {f child : Frame}

theorem outward_of_effects {f f' : Frame} (hcontext : f'.context = f.context)
    (heffects : f'.effects = f.effects) (v : View) : f'.outward v = f.outward v := by
  obtain ⟨hlogs, hended⟩ := Prod.mk.inj heffects
  rw [outward, outward, hcontext, hlogs, hended]

theorem resume_outward_of_failed (h : child.status ≠ .succeeded) (v : View) :
    (f.resume child).outward v = f.outward v :=
  outward_of_effects (resume_context f child) (resume_effects h) v

theorem resume_outward_of_succeeded (h : child.status = .succeeded) (v w : View) :
    (f.resume child).outward v = (f.outward w).joined (child.outward v) := by
  obtain ⟨hlogs, hended⟩ := Prod.mk.inj (resume_effects_of_succeeded (f := f) h)
  rw [outward, hlogs, hended, resume_context]
  rfl

end Frame

/-- How the opener of a frame that has come to its end goes on: as it was, or with what it has taken
over. -/
theorem Activity.resume_outward (rules : CreationRules) (hleft : a.frame.status.IsLeft) {l : Layer}
    (hbelow : a.world.below = l :: layers) (opener : Frame) :
    ∃ l', (a.finish rules).world.close.layers = l' :: layers ∧
      ((l' = l ∧ ∀ v, (opener.resume (a.finish rules).frame).outward v = opener.outward v) ∨
        ∀ v, (opener.resume (a.finish rules).frame).outward (through (l' :: layers)) =
          (opener.outward v).joined (a.outward.ended a.frame.output)) := by
  obtain ⟨l', hlayers, ⟨hfailed, hl⟩ | ⟨hsucceeded, heffects, hview⟩⟩ :=
    finish_outward rules hleft hbelow
  · exact ⟨l', hlayers, .inl ⟨hl, Frame.resume_outward_of_failed hfailed⟩⟩
  · refine ⟨l', hlayers, .inr fun v => ?_⟩
    obtain ⟨hlogs, hended⟩ := Prod.mk.inj heffects
    rw [Frame.resume_outward_of_succeeded hsucceeded _ v, hview]
    simp only [Outward.joined, Frame.outward, hlogs, hended]
    rfl

namespace Tower

theorem length (h : Tower p fs ls frames layers) :
    layers.length + fs.length = frames.length + ls.length := by
  induction h with
  | ground => omega
  | storey _ _ ih => simp only [List.length_cons]; omega

theorem layers_suffix (h : Tower p fs ls frames layers) : ls <:+ layers := by
  induction h with
  | ground => exact List.suffix_refl _
  | storey _ _ ih => exact ih.trans (List.suffix_cons _ _)

/-- The uppermost frame of a tower and what it stands on. -/
theorem of_storey {f : Frame} (h : Tower p fs ls (f :: frames) layers)
    (hlt : fs.length ≤ frames.length) :
    ∃ l lower, layers = l :: lower ∧ Tower p fs ls frames lower ∧
      p (f.outward (through layers)) (through lower) := by
  cases h with
  | ground => exact absurd hlt (by simp)
  | storey hlower htop => exact ⟨_, _, rfl, hlower, htop⟩

theorem of_atop (h : Tower p fs ls (a.frame :: below) a.world.layers)
    (hlt : fs.length ≤ below.length) :
    Tower p fs ls below a.world.below ∧ p a.outward (through a.world.below) := by
  obtain ⟨l, lower, hlayers, hlower, htop⟩ := h.of_storey hlt
  obtain ⟨-, rfl⟩ := List.cons.inj hlayers
  exact ⟨hlower, htop⟩

theorem atop (h : Tower p fs ls below a.world.below) (htop : p a.outward (through a.world.below)) :
    Tower p fs ls (a.atop below).frames (a.atop below).world.layers := .storey h htop

theorem opening (h : Tower p fs ls below a.world.below)
    (htop : p a.outward (through a.world.below)) {child : Frame}
    (hchild : p (child.outward a.world.get?) a.world.get?) :
    Tower p fs ls (a.opening child below).frames (a.opening child below).world.layers := by
  refine .storey (.storey h htop) ?_
  show p (child.outward (through (Table.empty :: a.world.layers))) (through a.world.layers)
  rw [World.through_empty]
  exact hchild

/-- A frame has come to its end, and its opener has the property of the tower again. -/
theorem leave {opener : Frame} (hp : Upheld rules q d p)
    (h : Tower p fs ls (opener :: below) a.world.below) (hlt : fs.length ≤ below.length)
    (htop : p a.outward (through a.world.below)) (hleft : a.frame.status.IsLeft) :
    Tower p fs ls ((a.finish rules).leave (opener :: below)).frames
      ((a.finish rules).leave (opener :: below)).world.layers := by
  obtain ⟨l, lower, hbelow, hlower, hopener⟩ := h.of_storey hlt
  obtain ⟨l', hlayers, ⟨rfl, hsame⟩ | hjoined⟩ :=
    Activity.resume_outward rules hleft hbelow opener
  · show Tower p fs ls (opener.resume _ :: below) (a.finish rules).world.close.layers
    rw [hlayers]
    rw [hbelow, ← hsame] at hopener
    exact .storey hlower hopener
  · show Tower p fs ls (opener.resume _ :: below) (a.finish rules).world.close.layers
    rw [hlayers]
    refine .storey hlower ?_
    rw [hjoined]
    exact hp.joins hopener htop a.frame.output

/-- A tower stands after every move. -/
theorem move (hp : Upheld rules q d p) (h : Tower p fs ls s.frames s.world.layers)
    (hs : fs.length < s.frames.length) (hmove : Move rules s t) (ht : fs.length < t.frames.length)
    (hd : s.Performs d) (hq : ∀ f ∈ t.frames, q f.context) :
    Tower p fs ls t.frames t.world.layers := by
  cases hmove with
  | @start a below hstatus =>
    obtain ⟨hlower, htop⟩ := of_atop (a := a) h (Nat.lt_succ_iff.1 hs)
    rw [← Activity.start_below rules a] at hlower htop
    refine hlower.atop ?_
    rcases Activity.start_outward rules a with hsame | ⟨hfunds, hstarted⟩
    · rwa [hsame]
    · rw [hstarted]
      exact hp.start htop hfunds
  | @runOff a below hstatus hbyte =>
    obtain ⟨hlower, htop⟩ := of_atop (a := a) h (Nat.lt_succ_iff.1 hs)
    exact atop (a := a.runOff) hlower htop
  | @step a a' byte below hstatus hbyte hstep =>
    obtain ⟨hlower, htop⟩ := of_atop (a := a) h (Nat.lt_succ_iff.1 hs)
    rw [← (Exec.Local.of_ok hstep).below] at hlower htop
    exact hlower.atop (hp.deed htop (hd rfl hstatus hbyte hstep))
  | @open_ a a' byte child below hstatus hbyte hstep =>
    obtain ⟨hlower, htop⟩ := of_atop (a := a) h (Nat.lt_succ_iff.1 hs)
    rw [← (Exec.Local.of_ok hstep).below] at hlower htop
    have hdeed := hd rfl hstatus hbyte hstep
    exact hlower.opening (hp.deed htop hdeed)
      (hp.opens htop hdeed (hq child (List.mem_cons_self ..)))
  | @halt a a' byte reason below hstatus hbyte hstep =>
    obtain ⟨hlower, htop⟩ := of_atop (a := a) h (Nat.lt_succ_iff.1 hs)
    rw [← (Exec.Local.of_error hstep).below] at hlower htop
    refine atop (a := a'.mapFrame (·.halt reason)) hlower ?_
    rwa [← Exec.outward_of_halt hstep] at htop
  | @close a below hleft =>
    obtain ⟨hlower, htop⟩ := of_atop (a := a) h (Nat.lt_succ_iff.1 hs)
    rw [Machine.frames_leave, Machine.length_woken] at ht
    obtain ⟨opener, rest, rfl⟩ := List.exists_cons_of_length_pos (Nat.zero_lt_of_lt ht)
    exact hlower.leave hp (Nat.lt_succ_iff.1 ht) htop hleft

/-- A tower stands until its lowest frame is taken away. -/
theorem of_upheld (hp : Upheld rules q d p) (h : Tower p fs ls s.frames s.world.layers)
    (hs : fs.length < s.frames.length) (hreach : ReachesAbove rules fs.length s t)
    (hd : ∀ u, ReachesAbove rules fs.length s u → u.Performs d)
    (hq : ∀ u, ReachesAbove rules fs.length s u → ∀ f ∈ u.frames, q f.context) :
    Tower p fs ls t.frames t.world.layers := by
  have hopen : ∀ {u}, ReachesAbove rules fs.length s u → fs.length < u.frames.length := by
    intro u hu
    cases hu with
    | refl => exact hs
    | tail _ hmove => exact hmove.2
  induction hreach with
  | refl => exact h
  | tail hbefore hmove ih =>
    exact ih.move hp (hopen hbefore) hmove.1 hmove.2 (hd _ hbefore) (hq _ (hbefore.tail hmove))

theorem of_reachesAbove (hp : Stable rules q p) (h : Tower p fs ls s.frames s.world.layers)
    (hs : fs.length < s.frames.length) (hreach : ReachesAbove rules fs.length s t)
    (hq : ∀ u, ReachesAbove rules fs.length s u → ∀ f ∈ u.frames, q f.context) :
    Tower p fs ls t.frames t.world.layers :=
  h.of_upheld hp.upheld hs hreach (fun u _ => u.performs_deed) hq

/-- What the last frame of a tower leaves behind when it has come to its end: what was visible
beneath it, or its own view. -/
theorem leave_last (rules : CreationRules) (h : Tower p [] ls [a.frame] a.world.layers)
    (hleft : a.frame.status.IsLeft) (hne : ls ≠ []) :
    let w := ((a.finish rules).leave []).world
    w.layers.length = ls.length ∧ p a.outward (through ls) ∧
      (w.get? = through ls ∨
        ((a.finish rules).frame.effects = a.frame.effects ∧
          w.get? = (a.outward.ended a.frame.output).view)) := by
  intro w
  obtain ⟨hlower, htop⟩ := h.of_atop le_rfl
  have hbelow : a.world.below = ls :=
    (hlower.layers_suffix.eq_of_length (by simpa using hlower.length.symm)).symm
  rw [hbelow] at htop
  obtain ⟨l, lower, rfl⟩ := List.exists_cons_of_ne_nil hne
  obtain ⟨l', hlayers, hleaves⟩ := Activity.finish_outward rules hleft hbelow
  change w.layers = l' :: lower at hlayers
  have hget : w.get? = through (l' :: lower) := congrArg through hlayers
  rw [hlayers, hget]
  refine ⟨rfl, htop, ?_⟩
  rcases hleaves with ⟨-, rfl⟩ | ⟨-, heffects, hview⟩
  · exact .inl rfl
  · exact .inr ⟨heffects, hview⟩

end Tower

namespace Meter

/-- A launch begins with a tower of one frame. -/
theorem opening_tower {m : Meter} {code : Bytes} {world : World} {gasLimit : Int}
    (hfirst : p ((m.initialFrame code world gasLimit).outward (through world.layers))
      (through world.layers)) :
    Tower p [] world.layers (m.opening code world gasLimit).frames
      (m.opening code world gasLimit).world.layers := by
  refine .storey .ground ?_
  show p ((m.initialFrame code world gasLimit).outward (through (Table.empty :: world.layers))) _
  rwa [World.through_empty]

/-- Beneath each frame of a launch lies the world that it was given. What holds of the first
context, and of those of frames that are opened if it holds of their openers, holds of them all. -/
theorem context_of_reaches {m : Meter} {code : Bytes} {world : World} {gasLimit : Int}
    (hfirst : q (m.initialFrame code world gasLimit).context)
    (hopens : ∀ {o child o'}, q o.context → Deed o (some child) o' → q child.context)
    (h : Reaches {} (m.opening code world gasLimit) (a.atop below)) :
    q a.frame.context ∧ world.layers <:+ a.world.below := by
  have hstable : Stable {} (fun _ => True) fun o _ => q o.context :=
    { start := fun h _ => h
      deed := fun h hdeed => by rwa [hdeed.context]
      opens := fun h hdeed _ => hopens h hdeed
      joins := fun h _ _ => h }
  have htower := Tower.of_reachesAbove (s := m.opening code world gasLimit) hstable
    (opening_tower hfirst) Nat.one_pos (Reaches.above_zero h (List.cons_ne_nil _ _))
    fun _ _ _ _ => trivial
  obtain ⟨hlower, htop⟩ := htower.of_atop (Nat.zero_le _)
  exact ⟨htop, hlower.layers_suffix⟩

/-- A launch ends by itself, or it leaves the world that it was given as it was. -/
theorem ends_or_suffix {σ : Type} {m : Meter} {see : Observer σ} {code : Bytes} {world : World}
    {gasLimit : Int} {seen : σ} {round : Round σ}
    (hround : m.launch see code world gasLimit seen = round) :
    round.Ends {} (m.opening code world gasLimit) ∨
      world.layers <:+ round.machine.world.layers := by
  have hconcludes := launch_concludes m see code world gasLimit seen
  rw [hround] at hconcludes
  by_cases hfault : round.fault = none
  · rw [Round.Concludes, hfault] at hconcludes
    exact .inl hconcludes
  · obtain ⟨fault, hfault⟩ := Option.ne_none_iff_exists'.1 hfault
    have hstatus : (round.result 0 0).status ≠ .normal := by simp [Round.result, hfault]
    exact .inr (hconcludes.suffix (fun t hreach ht => standsOn_of_reaches hreach ht)
      (List.cons_ne_nil _ _) hstatus)

end Meter
end Gasometer
