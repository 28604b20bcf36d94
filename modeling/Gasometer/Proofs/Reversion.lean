import Gasometer.Proofs.Launches

/-!
# Reversion

While a frame is open, it and the frames above it write to the layers from its own upwards. What
lies beneath is the same at every moment of its life, so a frame that fails leaves the world as it
was, and hands nothing to its opener but gas and output.
-/
namespace Gasometer

variable {σ : Type} {rules : CreationRules} {a : Activity} {below fs : List Frame} {ls : List Layer}
  {s t : Machine}

namespace Activity

theorem start_below (rules : CreationRules) (a : Activity) :
    (a.start rules).world.below = a.world.below := by
  rcases start_cases rules a with ⟨reason, -, h⟩ | ⟨w, hw, h⟩
  · rw [h]
    rfl
  · rw [h]
    exact (claimed_below rules a.frame.context w).trans (transfer?_below hw)

theorem accept_below (rules : CreationRules) (a : Activity) :
    (a.accept rules).world.below = a.world.below := by
  rcases accept_cases rules a with ⟨reason, -, h⟩ | ⟨-, h⟩ <;> rw [h]
  · rfl
  · exact deposited_below a

/-- A commit changes no layer but the uppermost two. -/
theorem tail_below_commit (w : World) : w.commit.below.tail = w.below.tail := by
  obtain ⟨t, below⟩ := w
  cases below <;> rfl

/-- Keeping or taking back the effects changes at most the layer beneath. -/
theorem settle_below (a : Activity) :
    a.settle.world.below.tail = a.world.below.tail ∧
      a.settle.world.below.length = a.world.below.length := by
  unfold settle
  dsimp only
  cases a.frame.status with
  | succeeded =>
    have hswept := swept_below a.frame a.world
    have htail := tail_below_commit (swept a.frame a.world)
    have hlength := below_commit (swept a.frame a.world)
    rw [hswept] at htail hlength
    exact ⟨htail, hlength⟩
  | _ => exact ⟨rfl, rfl⟩

theorem finish_below (rules : CreationRules) (a : Activity) :
    (a.finish rules).world.below.tail = a.world.below.tail ∧
      (a.finish rules).world.below.length = a.world.below.length := by
  unfold finish
  split
  · have h := settle_below (a.accept rules)
    rwa [accept_below] at h
  · exact settle_below a

/-- A frame that fails changes no layer beneath its own. -/
theorem settle_below_of_failed {failure : Failure}
    (h : a.settle.frame.status = .failed failure) : a.settle.world.below = a.world.below := by
  unfold settle at h ⊢
  dsimp only at h ⊢
  cases hstatus : a.frame.status with
  | succeeded =>
    rw [hstatus] at h
    exact absurd (hstatus.symm.trans h) (by simp)
  | _ => rfl

theorem finish_below_of_failed {failure : Failure}
    (h : (a.finish rules).frame.status = .failed failure) :
    (a.finish rules).world.below = a.world.below := by
  unfold finish at h ⊢
  split at h
  · rw [settle_below_of_failed h, accept_below]
  · exact settle_below_of_failed h

theorem settle_status_of_halted {reason : HaltReason} (h : a.frame.status = .halted reason) :
    a.settle.frame.status = .failed (.halt reason) := by
  simp only [settle, h]

theorem settle_status_of_reverted (h : a.frame.status = .reverted) :
    a.settle.frame.status = .failed .revert := by
  simp only [settle, h]

theorem settle_status_of_succeeded (h : a.frame.status = .succeeded) :
    a.settle.frame.status = .succeeded := by
  simp only [settle, h]

theorem accept_status (rules : CreationRules) (a : Activity) :
    (a.accept rules).frame.status = .succeeded ∨
      ∃ reason, (a.accept rules).frame.status = .halted reason := by
  rcases accept_cases rules a with ⟨reason, -, h⟩ | ⟨-, h⟩ <;> rw [h]
  · exact .inr ⟨reason, rfl⟩
  · exact .inl rfl

/-- A frame whose code was left succeeds or fails. -/
theorem finish_status (rules : CreationRules) (hleft : a.frame.status.IsLeft) :
    (a.finish rules).frame.status = .succeeded ∨
      ∃ failure, (a.finish rules).frame.status = .failed failure := by
  unfold finish
  rcases hleft.cases with hstatus | ⟨reason, hstatus⟩ | hstatus <;> rw [hstatus]
  · rcases accept_status rules a with h | ⟨reason, h⟩
    · exact .inl (settle_status_of_succeeded h)
    · exact .inr ⟨_, settle_status_of_halted h⟩
  · exact .inr ⟨_, settle_status_of_halted hstatus⟩
  · exact .inr ⟨_, settle_status_of_reverted hstatus⟩

end Activity

/-- A state that moves lead to while more than `n` frames are open. -/
abbrev ReachesAbove (rules : CreationRules) (n : Nat) : Machine → Machine → Prop :=
  Relation.ReflTransGen fun s t => Move rules s t ∧ n < t.frames.length

theorem ReachesAbove.reaches {n : Nat} (h : ReachesAbove rules n s t) : Reaches rules s t := by
  induction h with
  | refl => exact .refl
  | tail _ hmove ih => exact ih.tail hmove.1

namespace Machine
open Activity

/-- The state after so many moves, if more than `low` frames are open after each of them. -/
def movedAbove? (rules : CreationRules) (low : Nat) : Nat → Machine → Option Machine
  | 0, m => some m
  | n + 1, m =>
    match m.moved? rules with
    | none => none
    | some t => if low < t.frames.length then movedAbove? rules low n t else none

theorem reachesAbove_of_movedAbove? {low n : Nat} (h : s.movedAbove? rules low n = some t) :
    ReachesAbove rules low s t := by
  induction n generalizing s with
  | zero =>
    cases h
    exact .refl
  | succ n ih =>
    rw [movedAbove?] at h
    split at h
    · cases h
    · rename_i u hmoved
      split_ifs at h with hlow
      exact .head ⟨move_of_moved? hmoved, hlow⟩ (ih h)

def sees (p : Activity → List Frame → Bool) (m : Machine) : Bool :=
  match m.frames with
  | [] => false
  | f :: below => p ⟨f, m.world, m.access⟩ below

theorem exists_of_sees {p : Activity → List Frame → Bool} {low n : Nat}
    (h : (s.movedAbove? rules low n).any (sees p) = true) :
    ∃ a below, ReachesAbove rules low s (a.atop below) ∧ p a below = true := by
  obtain ⟨⟨frames, world, access⟩, hmoved, hp⟩ := (Option.any_eq_true _ _).1 h
  cases frames with
  | nil => cases hp
  | cons f below => exact ⟨⟨f, world, access⟩, below, reachesAbove_of_movedAbove? hmoved, hp⟩

/-- Whether the lowest frames of a machine are these, and the lowest layers are these, with as many
layers above them as there are frames. -/
structure StandsOn (fs : List Frame) (ls : List Layer) (m : Machine) : Prop where
  frames : fs <:+ m.frames
  layers : ls <:+ m.world.layers
  height : m.world.layers.length + fs.length = m.frames.length + ls.length

structure RestsOn (fs : List Frame) (ls : List Layer) (below : List Frame) (lower : List Layer) :
    Prop where
  frames : fs <:+ below
  layers : ls <:+ lower
  height : lower.length + fs.length = below.length + ls.length

theorem StandsOn.restsOn (h : (a.atop below).StandsOn fs ls) (hlt : fs.length ≤ below.length) :
    RestsOn fs ls below a.world.below := by
  have hheight := h.height
  simp only [frames_atop, world_atop, World.layers, List.length_cons] at hheight
  refine ⟨?_, ?_, by omega⟩
  · rcases List.suffix_cons_iff.1 h.frames with rfl | hfs
    · exact absurd hlt (by simp)
    · exact hfs
  · rcases List.suffix_cons_iff.1 h.layers with rfl | hls
    · simp only [world_atop, List.length_cons] at hheight
      omega
    · exact hls

theorem RestsOn.atop (h : RestsOn fs ls below a.world.below) : (a.atop below).StandsOn fs ls where
  frames := h.frames.trans (List.suffix_cons _ _)
  layers := h.layers.trans (List.suffix_cons _ _)
  height := by
    have := h.height
    simp only [frames_atop, world_atop, World.layers, List.length_cons]
    omega

/-- A frame opened on top of another. -/
theorem RestsOn.opening (h : RestsOn fs ls below a.world.below) (child : Frame) :
    (a.opening child below).StandsOn fs ls where
  frames := (h.frames.trans (List.suffix_cons _ _)).trans (List.suffix_cons _ _)
  layers := h.atop.layers.trans (List.suffix_cons _ _)
  height := by
    have := h.height
    simp only [Activity.opening, World.open_, World.layers, List.length_cons]
    omega

theorem RestsOn.tail {opener : Frame} {rest : List Frame} {lower : List Layer}
    (h : RestsOn fs ls (opener :: rest) lower) (hlt : fs.length ≤ rest.length) :
    RestsOn fs ls rest lower.tail := by
  have hheight := h.height
  rw [List.length_cons] at hheight
  cases lower with
  | nil =>
    rw [List.length_nil] at hheight
    omega
  | cons l lower =>
    rw [List.length_cons] at hheight
    refine ⟨?_, ?_, by rw [List.tail_cons]; omega⟩
    · rcases List.suffix_cons_iff.1 h.frames with rfl | hfs
      · exact absurd hlt (by simp)
      · exact hfs
    · rcases List.suffix_cons_iff.1 h.layers with rfl | hls
      · rw [List.length_cons] at hheight
        omega
      · exact hls

theorem below_close (w : World) : w.close.below = w.below.tail := by
  obtain ⟨t, below⟩ := w
  cases below <;> rfl

/-- A frame that is taken away from others that stand above these. -/
theorem RestsOn.leave {opener : Frame} {rest : List Frame}
    (h : RestsOn fs ls (opener :: rest) a.world.below) (hlt : fs.length ≤ rest.length) :
    ((a.finish rules).leave (opener :: rest)).StandsOn fs ls := by
  have hrest := h.tail hlt
  rw [← (finish_below rules a).1, ← below_close] at hrest
  exact RestsOn.atop (a := ⟨opener.resume (a.finish rules).frame, _, (a.finish rules).access⟩) hrest

/-- What lies beneath the frames that are open is the same after every move. -/
theorem StandsOn.move (h : s.StandsOn fs ls) (hs : fs.length < s.frames.length)
    (hmove : Move rules s t) (ht : fs.length < t.frames.length) : t.StandsOn fs ls := by
  cases hmove with
  | @start a below hstatus =>
    have hrest := h.restsOn (Nat.lt_succ_iff.1 hs)
    rw [← start_below rules a] at hrest
    exact hrest.atop
  | @runOff a below hstatus hbyte =>
    exact RestsOn.atop (a := a.runOff) (h.restsOn (Nat.lt_succ_iff.1 hs))
  | step below hstatus hbyte hstep =>
    have hrest := h.restsOn (Nat.lt_succ_iff.1 hs)
    rw [← (Exec.Local.of_ok hstep).below] at hrest
    exact hrest.atop
  | open_ below hstatus hbyte hstep =>
    have hrest := h.restsOn (Nat.lt_succ_iff.1 hs)
    rw [← (Exec.Local.of_ok hstep).below] at hrest
    exact hrest.opening _
  | @halt a a' byte reason below hstatus hbyte hstep =>
    have hrest := h.restsOn (Nat.lt_succ_iff.1 hs)
    rw [← (Exec.Local.of_error hstep).below] at hrest
    exact RestsOn.atop (a := a'.mapFrame (·.halt reason)) hrest
  | close below hleft =>
    have hrest := h.restsOn (Nat.lt_succ_iff.1 hs)
    rw [frames_leave, length_woken] at ht
    obtain ⟨opener, rest, rfl⟩ := List.exists_cons_of_length_pos (Nat.zero_lt_of_lt ht)
    exact hrest.leave (Nat.lt_succ_iff.1 ht)

theorem StandsOn.of_reachesAbove (h : s.StandsOn fs ls) (hs : fs.length < s.frames.length)
    (hreach : ReachesAbove rules fs.length s t) :
    t.StandsOn fs ls ∧ fs.length < t.frames.length := by
  induction hreach with
  | refl => exact ⟨h, hs⟩
  | tail _ hmove ih => exact ⟨ih.1.move ih.2 hmove.1 hmove.2, hmove.2⟩

/-- A frame that fails leaves the frames and the layers beneath it as they were. -/
theorem StandsOn.leave_of_failed {failure : Failure} (h : (a.atop below).StandsOn fs ls)
    (hls : ls ≠ []) (hlength : below.length = fs.length)
    (hfailed : (a.finish rules).frame.status = .failed failure) :
    below = fs ∧ ((a.finish rules).leave below).world.layers = ls := by
  have hrest := h.restsOn hlength.ge
  have hheight := hrest.height
  have hlayers : ls = a.world.below := hrest.layers.eq_of_length (by omega)
  refine ⟨(hrest.frames.eq_of_length hlength.symm).symm, ?_⟩
  have hbelow := finish_below_of_failed hfailed
  show (a.finish rules).world.close.layers = ls
  rw [World.layers_close, hbelow, hlayers]
  rw [hbelow, ← hlayers]
  exact fun h => hls (List.length_eq_zero_iff.1 h)

end Machine

/-- What a frame hands to its opener besides gas and output. -/
def Frame.effects (f : Frame) : List Log × List Address := (f.logs, f.selfDestructs)

/-- The opener of a frame that failed has the effects that it had. -/
theorem Frame.resume_effects {f child : Frame} (h : child.status ≠ .succeeded) :
    (f.resume child).effects = f.effects := by
  have hfailed : (child.status == .succeeded) = false := by simpa using h
  unfold resume effects
  cases child.context.completion with
  | silent | call => simp [hfailed]
  | creation number =>
    simp only [hfailed, Bool.false_eq_true, if_false]
    split_ifs <;> rfl

namespace World

theorem eq_of_layers {w w' : World} (h : w.layers = w'.layers) : w = w' := by
  obtain ⟨t, below⟩ := w
  obtain ⟨t', below'⟩ := w'
  obtain ⟨rfl, rfl⟩ := List.cons.inj h
  rfl

theorem getLast?_layers (w : World) : w.layers.getLast? = some w.bottom.top := by
  rw [layers, List.getLast?_cons, bottom, root?]

/-- A world over another one has the same root. -/
theorem bottom_of_suffix {w w' : World} (h : w.layers <:+ w'.layers) : w'.bottom = w.bottom := by
  obtain ⟨upper, hupper⟩ := h
  have hlast : w'.layers.getLast? = w.layers.getLast? := by
    rw [← hupper, List.getLast?_append, getLast?_layers, Option.some_or]
  rw [getLast?_layers, getLast?_layers] at hlast
  exact eq_of_layers (congrArg (fun l => [l]) (Option.some.inj hlast))

end World

/-- Only the end of a run has no frames. -/
theorem Reaches.above_zero (h : Reaches rules s t) (ht : t.frames ≠ []) :
    ReachesAbove rules 0 s t := by
  induction h with
  | refl => exact .refl
  | tail _ hmove ih => exact (ih hmove.frames_ne_nil).tail ⟨hmove, List.length_pos_iff.2 ht⟩

namespace Meter

variable {m : Meter} {code : Bytes} {world : World} {gasLimit : Int}

theorem opening_standsOn : (m.opening code world gasLimit).StandsOn [] world.layers where
  frames := List.nil_suffix
  layers := List.suffix_cons _ _
  height := by simp [opening, World.open_, World.layers, Nat.add_comm]

theorem standsOn_of_reaches (h : Reaches {} (m.opening code world gasLimit) s)
    (hs : s.frames ≠ []) : s.StandsOn [] world.layers :=
  (opening_standsOn.of_reachesAbove Nat.one_pos (Reaches.above_zero h hs)).1

/-- A frame of a launch that fails leaves no trace beneath it. -/
theorem leave_of_failed {f : Frame} {failure : Failure}
    (hreach : Reaches {} (m.opening code world gasLimit) s) (hframes : s.frames = f :: fs)
    (hlife : ReachesAbove {} fs.length s (a.atop below)) (hlength : below.length = fs.length)
    (hfailed : (a.finish {}).frame.status = .failed failure) :
    below = fs ∧ ((a.finish {}).leave below).world = s.world.close := by
  have hne : s.frames ≠ [] := by rw [hframes]; exact List.cons_ne_nil _ _
  have hs := standsOn_of_reaches hreach hne
  have hheight := hs.height
  rw [hframes, List.length_cons, List.length_nil, World.layers, List.length_cons] at hheight
  have hlayers : 0 < world.layers.length := Nat.succ_pos _
  have hstands : s.StandsOn fs s.world.below := by
    refine ⟨?_, List.suffix_cons _ _, ?_⟩
    · rw [hframes]
      exact List.suffix_cons _ _
    · rw [hframes, World.layers, List.length_cons, List.length_cons]
      omega
  have hopen : fs.length < s.frames.length := by rw [hframes]; exact Nat.lt_succ_self _
  have hend := (hstands.of_reachesAbove hopen hlife).1
  have hlower : s.world.below.length ≠ 0 := by omega
  obtain ⟨rfl, hleave⟩ := hend.leave_of_failed (fun h => hlower (by rw [h]; rfl)) hlength hfailed
  exact ⟨rfl, World.eq_of_layers (hleave.trans (World.layers_close hlower).symm)⟩

end Meter

/-- A run that does not succeed leaves the world beneath it as it was. -/
theorem Round.Concludes.suffix {r : Round σ} {gas elapsed : Int}
    (h : r.Concludes rules s) (hs : ∀ t, Reaches rules s t → t.frames ≠ [] → t.StandsOn [] ls)
    (hls : ls ≠ []) (hstatus : (r.result gas elapsed).status ≠ .normal) :
    ls <:+ r.machine.world.layers := by
  unfold Concludes at h
  cases hfault : r.fault with
  | none =>
    rw [hfault] at h
    obtain ⟨a, hreach, hleft, hframe, hmachine⟩ := h
    have hstands := hs _ hreach (List.cons_ne_nil _ _)
    rcases Activity.finish_status rules hleft with hsucceeded | ⟨failure, hfailed⟩
    · refine absurd ?_ hstatus
      simp [result, hfault, hframe, hsucceeded, Frame.haltReason?]
    · rw [hmachine, (hstands.leave_of_failed hls rfl hfailed).2]
  | some fault =>
    rw [hfault] at h
    obtain ⟨-, hreach, hframes⟩ | ⟨t, hreach, a, a', byte, below, rfl, -, -, hstep, hmachine⟩ := h
    · exact (hs _ hreach hframes).layers
    · have hrest := (hs _ hreach (List.cons_ne_nil _ _)).restsOn (Nat.zero_le _)
      rw [← (Exec.Local.of_error hstep).below] at hrest
      rw [hmachine]
      exact hrest.atop.layers

namespace Meter

/-- A frame of a launch that fails leaves what lies beneath it as it was when the frame was opened,
or at any other moment of its life; its opener gets none of its effects. A launch that does not end
normally leaves the world that it was given as it was. -/
theorem launch_reverts (m : Meter) (see : Observer σ) (code : Bytes) (world : World)
    (gasLimit : Int) (seen : σ) (elapsed : Int) :
    let round := m.launch see code world gasLimit seen
    (∀ s f fs a below failure, Reaches {} (m.opening code world gasLimit) s → s.frames = f :: fs →
      ReachesAbove {} fs.length s (Activity.atop a below) → below.length = fs.length →
      (a.finish {}).frame.status = .failed failure →
        below = fs ∧ ((a.finish {}).leave below).world = s.world.close ∧
        ((a.finish {}).leave below).frames.map Frame.effects = fs.map Frame.effects) ∧
    ((round.result (m.initialGas gasLimit) elapsed).status ≠ .normal →
      world.layers <:+ round.machine.world.layers ∧ round.machine.world.bottom = world.bottom) := by
  refine ⟨fun s f fs a below failure hreach hframes hlife hlength hfailed => ?_, fun hstatus => ?_⟩
  · obtain ⟨rfl, hworld⟩ := leave_of_failed hreach hframes hlife hlength hfailed
    refine ⟨rfl, hworld, ?_⟩
    cases below with
    | nil => rfl
    | cons opener rest =>
      have hopener : (opener.resume (a.finish {}).frame).effects = opener.effects :=
        Frame.resume_effects (by rw [hfailed]; simp)
      simp [Machine.woken, hopener]
  · have hsuffix := (launch_concludes m see code world gasLimit seen).suffix
      (fun t hreach ht => standsOn_of_reaches hreach ht) (List.cons_ne_nil _ _) hstatus
    exact ⟨hsuffix, World.bottom_of_suffix hsuffix⟩

/-- Writes a log, calls itself, and halts. The call changes the preset slot, writes a log, and halts
as well. -/
def failingCall : Bytes :=
  #[0x33, 0x32, 0x14, 0x60, 0x10, 0x57, 0x60, 0x01, 0x60, 0x54, 0x55, 0x58, 0x3d, 0x3d, 0xa1, 0xfe,
    0x5b, 0x58, 0x3d, 0x3d, 0xa1, 0x3d, 0x3d, 0x3d, 0x3d, 0x3d, 0x30, 0x5a, 0xf1, 0xfe]

def presetIn (w : World) : Int := (w.account Fixture.receiver).load Fixture.presetSlot

theorem launch_reverts_failingCall :
    let world := Fixture.world failingCall
    let round := ({} : Meter).launch .blind failingCall world 1000 ()
    (∃ f a fs, (Reaches {} (({} : Meter).opening failingCall world 1000) (Activity.atop f fs) ∧
        ReachesAbove {} fs.length (Activity.atop f fs) (Activity.atop a fs) ∧
        (a.finish {}).frame.status = .failed (.halt .invalidOperation)) ∧
      (fs.length = 1 ∧ presetIn f.world = Fixture.presetValue) ∧
      (a.frame.logs.map Log.topics = [[11]] ∧ presetIn a.world = 1) ∧
      presetIn ((a.finish {}).leave fs).world = Fixture.presetValue ∧
      ((a.finish {}).leave fs).frames.map (·.effects.1.map Log.topics) = [[[17]]]) ∧
    (round.result 300000 0).status = .exceptionalHalt ∧
      round.machine.world.bottom = world.bottom := by
  intro world round
  have hrun : ((({} : Meter).opening failingCall world 1000).movedAbove? {} 0 19).any
      (Machine.sees fun f fs =>
        ((f.atop fs).movedAbove? {} fs.length 14).any (Machine.sees fun a below => decide
          (fs.length = 1 ∧ below.length = 1 ∧ presetIn f.world = Fixture.presetValue ∧
            presetIn f.world.close = Fixture.presetValue ∧
            (fs.map Frame.effects).map (·.1.map Log.topics) = [[[17]]] ∧
            (a.finish {}).frame.status = .failed (.halt .invalidOperation) ∧
            a.frame.logs.map Log.topics = [[11]] ∧ presetIn a.world = 1))) = true := by
    decide +kernel
  have hstatus : (round.result 300000 0).status = .exceptionalHalt := by decide +kernel
  obtain ⟨hframe, hlaunch⟩ := launch_reverts {} .blind failingCall world 1000 () 0
  obtain ⟨f, fs, hreach, hlater⟩ := Machine.exists_of_sees hrun
  obtain ⟨a, below, hlife, hfails⟩ := Machine.exists_of_sees hlater
  obtain ⟨hdepth, hheight, hopened, hbeneath, hlogs, hfailed, hwritten, hstored⟩ :=
    of_decide_eq_true hfails
  obtain ⟨rfl, hworld, heffects⟩ := hframe (f.atop fs) f.frame fs a below _ hreach.reaches rfl hlife
    (hheight.trans hdepth.symm) hfailed
  refine ⟨⟨f, a, below, ⟨hreach.reaches, hlife, hfailed⟩, ⟨hdepth, hopened⟩, ⟨hwritten, hstored⟩,
    ?_, ?_⟩, hstatus, (hlaunch ?_).2⟩
  · rw [hworld]
    exact hbeneath
  · rw [← hlogs, ← heffects, List.map_map]
    rfl
  · rw [show ({} : Meter).initialGas 1000 = 300000 from rfl, hstatus]
    decide

end Meter
end Gasometer
