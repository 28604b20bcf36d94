import Gasometer.Proofs.Moves
import Gasometer.Proofs.Steps

/-!
# Sound machines

A machine is sound if its frames and its world are, if all frames together keep to the scale with
their stakes, and if every frame but the uppermost waits for the one above it. Every move keeps a
machine sound and makes no gas. Three quantities fall: the gas of all frames, the turns that are
left, and the moves that are left.
-/
namespace Gasometer

def FrameStatus.rank : FrameStatus → Int
  | .notStarted => 3
  | .executing | .suspended => 2
  | .returned | .halted _ | .reverted => 1
  | .succeeded | .failed _ => 0

theorem FrameStatus.rank_nonneg (s : FrameStatus) : 0 ≤ s.rank := by
  cases s <;> simp [rank]

namespace Machine

def gas (m : Machine) : Int := (m.frames.map Frame.gas).sum

def stake (m : Machine) : Int := (m.frames.map Frame.stake).sum

/-- No run of the machine has more turns than this. -/
def turnsLeft (m : Machine) : Int := 2 * m.gas + m.frames.length

/-- No run of the machine has more moves than this. -/
def movesLeft (m : Machine) : Int := 4 * m.gas + (m.frames.map (·.status.rank)).sum

/-- Whether frames wait for one that ends with this completion. -/
def Waiting : Completion → List Frame → Prop
  | _, [] => True
  | c, opener :: rest =>
    opener.status = .suspended ∧ opener.Awaits c ∧ Waiting opener.context.completion rest

def Waits : List Frame → Prop
  | [] => True
  | top :: below => Waiting top.context.completion below

structure Sound (k : Scale) (m : Machine) : Prop where
  world : m.world.Sound k
  frames : ∀ f ∈ m.frames, f.Sound k
  reasons : ∀ f ∈ m.frames, f.haltReason? ≠ some .internalError
  stake : m.stake ≤ k.gas
  height : m.world.layers.length = m.frames.length + k.base
  waits : Waits m.frames

/-- What a move does: it keeps a machine sound, and takes from what is left. -/
structure Advances (k : Scale) (s t : Machine) : Prop where
  sound : t.Sound k.raised
  gas : t.gas ≤ s.gas
  turns : t.turnsLeft ≤ s.turnsLeft
  turn : t.frames.length ≠ s.frames.length → t.turnsLeft + 1 ≤ s.turnsLeft
  moves : t.movesLeft + 1 ≤ s.movesLeft

variable {k : Scale} {rules : CreationRules} {a a' : Activity} {below : List Frame}
  {s t m : Machine}

@[simp] theorem frames_atop (a : Activity) (below : List Frame) :
    (a.atop below).frames = a.frame :: below := rfl

@[simp] theorem world_atop (a : Activity) (below : List Frame) :
    (a.atop below).world = a.world := rfl

theorem gas_atop (a : Activity) (below : List Frame) :
    (a.atop below).gas = a.frame.gas + (below.map Frame.gas).sum := by
  simp [gas]

theorem stake_atop (a : Activity) (below : List Frame) :
    (a.atop below).stake = a.frame.stake + (below.map Frame.stake).sum := by
  simp [stake]

theorem movesLeft_atop (a : Activity) (below : List Frame) :
    (a.atop below).movesLeft = 4 * a.frame.gas + a.frame.status.rank +
      (4 * (below.map Frame.gas).sum + (below.map (·.status.rank)).sum) := by
  simp only [movesLeft, gas_atop, frames_atop, List.map_cons, List.sum_cons]
  omega

theorem sum_gas_nonneg {fs : List Frame} (h : ∀ f ∈ fs, f.Sound k) :
    0 ≤ (fs.map Frame.gas).sum := by
  refine List.sum_nonneg fun x hx => ?_
  obtain ⟨f, hf, rfl⟩ := List.mem_map.1 hx
  exact (h f hf).gas

theorem sum_stake_nonneg {fs : List Frame} (h : ∀ f ∈ fs, f.Sound k) :
    0 ≤ (fs.map Frame.stake).sum := by
  refine List.sum_nonneg fun x hx => ?_
  obtain ⟨f, hf, rfl⟩ := List.mem_map.1 hx
  exact (h f hf).gas.trans f.gas_le_stake

theorem sum_rank_nonneg (fs : List Frame) : 0 ≤ (fs.map (·.status.rank)).sum := by
  refine List.sum_nonneg fun x hx => ?_
  obtain ⟨f, -, rfl⟩ := List.mem_map.1 hx
  exact f.status.rank_nonneg

theorem Sound.activity (h : (a.atop below).Sound k) : a.Sound k :=
  ⟨h.frames _ (List.mem_cons_self ..), h.world⟩

theorem Sound.raised (h : m.Sound k) : m.Sound k.raised where
  world := h.world.raised
  frames f hf := (h.frames f hf).raised
  reasons := h.reasons
  stake := h.stake
  height := h.height
  waits := h.waits

theorem Sound.frames_below (h : (a.atop below).Sound k) : ∀ f ∈ below, f.Sound k :=
  fun f hf => h.frames f (List.mem_cons_of_mem _ hf)

theorem Sound.height_below (h : (a.atop below).Sound k) :
    a.world.below.length = below.length + k.base := by
  have := h.height
  simp only [frames_atop, world_atop, World.layers, List.length_cons] at this
  omega

/-- The uppermost frame has moved on, with the frames beneath it as they were. -/
theorem Sound.atop (h : (a.atop below).Sound k) (hsound : a'.Sound k.raised)
    (hkept : a'.frame.context = a.frame.context ∧ a'.world.below = a.world.below)
    (hstake : a'.frame.stake ≤ a.frame.stake)
    (hreason : a'.frame.haltReason? ≠ some .internalError) :
    (a'.atop below).Sound k.raised where
  world := hsound.world
  frames := List.forall_mem_cons.2 ⟨hsound.frame, fun f hf => (h.frames_below f hf).raised⟩
  reasons := List.forall_mem_cons.2 ⟨hreason, fun f hf => h.reasons f (List.mem_cons_of_mem _ hf)⟩
  stake := by
    have := h.stake
    rw [stake_atop] at *
    simp only [Scale.raised_gas]
    omega
  height := by
    have := h.height_below
    simp only [frames_atop, world_atop, World.layers, List.length_cons, hkept.2,
      Scale.raised_base]
    omega
  waits := by
    have := h.waits
    simp only [Waits, frames_atop] at *
    rwa [hkept.1]

/-- A move of the uppermost frame alone. -/
theorem advances_atop (h : (a.atop below).Sound k) (hsound : a'.Sound k.raised)
    (hkept : a'.frame.context = a.frame.context ∧ a'.world.below = a.world.below)
    (hgas : a'.frame.gas ≤ a.frame.gas) (hstake : a'.frame.stake ≤ a.frame.stake)
    (hreason : a'.frame.haltReason? ≠ some .internalError)
    (hmoves : 4 * a'.frame.gas + a'.frame.status.rank + 1 ≤
      4 * a.frame.gas + a.frame.status.rank) :
    Advances k (a.atop below) (a'.atop below) where
  sound := h.atop hsound hkept hstake hreason
  gas := by rw [gas_atop, gas_atop]; omega
  turns := by
    simp only [turnsLeft, gas_atop, frames_atop, List.length_cons]
    omega
  turn hne := absurd (by simp) hne
  moves := by rw [movesLeft_atop, movesLeft_atop]; omega

@[simp] theorem frames_opening (a : Activity) (child : Frame) (below : List Frame) :
    (a.opening child below).frames = child :: { a.frame with status := .suspended } :: below := rfl

theorem gas_opening (a : Activity) (child : Frame) (below : List Frame) :
    (a.opening child below).gas = child.gas + (a.atop below).gas := by
  simp [gas]

theorem stake_opening (a : Activity) (child : Frame) (below : List Frame) :
    (a.opening child below).stake = child.stake + (a.atop below).stake := by
  simp only [stake, frames_opening, frames_atop, List.map_cons, List.sum_cons]
  rfl

theorem Sound.opening {child : Frame} (h : (a.atop below).Sound k) (ho : Opens k a child a')
    (hkept : a'.frame.context = a.frame.context ∧ a'.world.below = a.world.below) :
    (a'.opening child below).Sound k.raised where
  world := ho.sound.world.open_
  frames := List.forall_mem_cons.2 ⟨ho.opened.raised, List.forall_mem_cons.2
    ⟨{ ho.sound.frame with }, fun f hf => (h.frames_below f hf).raised⟩⟩
  reasons := by
    refine List.forall_mem_cons.2 ⟨?_, List.forall_mem_cons.2 ⟨?_, ?_⟩⟩
    · simp [Frame.haltReason?, ho.fresh]
    · simp [Frame.haltReason?]
    · exact fun f hf => h.reasons f (List.mem_cons_of_mem _ hf)
  stake := by
    have hlimit := h.stake
    have hstake := ho.stake
    have hwarm : 0 ≤ Gas.warmAccess := by decide
    rw [stake_atop] at hlimit
    rw [stake_opening, stake_atop, Scale.raised_gas]
    omega
  height := by
    have := h.height_below
    simp only [Activity.opening, World.open_, World.layers, List.length_cons, hkept.2,
      Scale.raised_base]
    omega
  waits := by
    have := h.waits
    simp only [Waits, frames_atop] at this
    exact ⟨rfl, ho.awaits, by dsimp only; rwa [hkept.1]⟩

/-- A move that opens a frame. -/
theorem advances_opening {child : Frame} (h : (a.atop below).Sound k) (ho : Opens k a child a')
    (hstatus : a.frame.status = .executing)
    (hkept : a'.frame.context = a.frame.context ∧ a'.world.below = a.world.below) :
    Advances k (a.atop below) (a'.opening child below) := by
  have hgas : (a'.opening child below).gas + Gas.warmAccess ≤ (a.atop below).gas := by
    have := ho.gas
    rw [gas_opening, gas_atop, gas_atop]
    omega
  have hwarm : 2 ≤ Gas.warmAccess := by decide
  refine ⟨h.opening ho hkept, by omega, ?_, fun _ => ?_, ?_⟩
  · simp only [turnsLeft, frames_opening, frames_atop, List.length_cons]
    omega
  · simp only [turnsLeft, frames_opening, frames_atop, List.length_cons]
    omega
  · simp only [movesLeft, frames_opening, frames_atop, List.map_cons, List.sum_cons, hstatus,
      ho.fresh, FrameStatus.rank]
    omega

@[simp] theorem frames_leave (a : Activity) (below : List Frame) :
    (a.leave below).frames = woken a.frame below := rfl

theorem gas_leave (a : Activity) (opener : Frame) (rest : List Frame) :
    (a.leave (opener :: rest)).gas = (a.atop (opener :: rest)).gas := by
  simp only [gas, frames_leave, woken, frames_atop, List.map_cons, List.sum_cons,
    Frame.resume_gas]
  omega

/-- Bringing the uppermost frame to its end. -/
theorem Sound.ended (rules : CreationRules) (h : (a.atop below).Sound k)
    (hleft : a.frame.status.IsLeft) : Activity.Ended k a (a.finish rules) := by
  have hbase := h.height_below
  exact Activity.finish_ended h.activity (by omega) hleft

theorem Sound.leave (h : (a.atop below).Sound k) (he : Activity.Ended k a a') :
    (a'.leave below).Sound k := by
  have hheight := h.height_below
  have hbase := k.base_pos
  have hclose : a'.world.close.Sound k := he.sound.world.close (by rw [he.height]; omega)
  have hlayers : a'.world.close.layers.length = below.length + k.base := by
    have hsame := he.height.trans hheight
    rw [World.layers_close (by omega), hsame]
  cases below with
  | nil =>
    exact
      { world := hclose
        frames := by rintro f ⟨⟩
        reasons := by rintro f ⟨⟩
        stake := k.holds_gas.nonneg
        height := hlayers
        waits := trivial }
  | cons opener rest =>
    obtain ⟨-, hawaits, hrest⟩ := h.waits
    have hlimit := h.stake
    rw [stake_atop, List.map_cons, List.sum_cons] at hlimit
    have hothers := sum_stake_nonneg fun f hf => h.frames_below f (List.mem_cons_of_mem _ hf)
    have hpaid := he.stake
    have hgas := a'.frame.gas_le_stake
    rw [← he.context] at hawaits
    have hstake := Frame.resume_stake hawaits
    have hopener :=
      Frame.resume_sound (h.frames_below opener (List.mem_cons_self ..)) he.sound.frame
      hawaits (by omega)
    exact
      { world := hclose
        frames := List.forall_mem_cons.2 ⟨hopener, fun f hf =>
          h.frames_below f (List.mem_cons_of_mem _ hf)⟩
        reasons := by
          refine List.forall_mem_cons.2 ⟨by simp [Frame.haltReason?], fun f hf => ?_⟩
          exact h.reasons f (List.mem_cons_of_mem _ (List.mem_cons_of_mem _ hf))
        stake := by
          simp only [Machine.stake, frames_leave, woken, List.map_cons, List.sum_cons]
          omega
        height := by simpa [Activity.leave, length_woken] using hlayers
        waits := by
          simp only [Waits, Activity.leave, woken, Frame.resume_context]
          exact hrest }

theorem rank_of_isLeft {s : FrameStatus} (h : s.IsLeft) : s.rank = 1 := by
  rcases h.cases with rfl | ⟨reason, rfl⟩ | rfl <;> rfl

/-- A move that takes away a frame which has come to its end. -/
theorem advances_leave (h : (a.atop below).Sound k) (he : Activity.Ended k a a')
    (hleft : a.frame.status.IsLeft) : Advances k (a.atop below) (a'.leave below) := by
  have hgas := he.gas
  have hrank := rank_of_isLeft hleft
  have hsound := (h.leave he).raised
  have hsum : (a'.leave below).gas ≤ (a.atop below).gas := by
    cases below with
    | nil => simpa [gas, woken] using h.activity.frame.gas
    | cons opener rest =>
      rw [gas_leave, gas_atop, gas_atop]
      omega
  refine ⟨hsound, hsum, ?_, fun _ => ?_, ?_⟩
  · simp only [turnsLeft, frames_leave, length_woken, frames_atop, List.length_cons]
    omega
  · simp only [turnsLeft, frames_leave, length_woken, frames_atop, List.length_cons]
    omega
  · cases below with
    | nil =>
      simp only [movesLeft, frames_leave, woken, frames_atop, List.map_cons, List.map_nil,
        List.sum_cons, List.sum_nil, hrank]
      omega
    | cons opener rest =>
      have hwaits : opener.status.rank = 2 := by rw [h.waits.1]; rfl
      have hwoken : (opener.resume a'.frame).status.rank = 2 := by rw [Frame.resume_status]; rfl
      simp only [movesLeft, frames_leave, woken, frames_atop, List.map_cons, List.sum_cons, hrank,
        hwaits, hwoken]
      omega

theorem advances_start (h : (a.atop below).Sound k) (hrules : rules.Fits k)
    (hstatus : a.frame.status = .notStarted) :
    Advances k (a.atop below) ((a.start rules).atop below) := by
  have hsound := (Activity.start_sound h.activity hrules).raised
  rcases Activity.start_cases rules a with ⟨reason, hreason, hs⟩ | ⟨w, hw, hs⟩
  · rw [hs] at hsound ⊢
    refine advances_atop h hsound ⟨rfl, rfl⟩ le_rfl le_rfl ?_ ?_
    · simpa [Frame.haltReason?, Activity.mapFrame, Frame.halt] using hreason
    · simp only [hstatus, Activity.mapFrame, Frame.halt, FrameStatus.rank]
      omega
  · rw [hs] at hsound ⊢
    have hbelow : (Activity.claimed rules a.frame.context w).below = a.world.below := by
      rw [Activity.claimed_below, Activity.transfer?_below hw]
    refine advances_atop h hsound ⟨rfl, hbelow⟩ le_rfl le_rfl ?_ ?_
    · simp [Frame.haltReason?, Activity.begin_]
    · simp only [hstatus, Activity.begin_, FrameStatus.rank]
      omega

theorem pc_le_of_nextByte {byte : UInt8} (h : a.nextByte? = some byte) :
    a.frame.pc ≤ a.frame.context.code.size := by
  obtain ⟨hlt, -⟩ := Array.getElem?_eq_some_iff.1 h
  exact hlt.le

section
variable {byte : UInt8} (hs : (a.atop below).Sound k)
  (hroom : k.numbers = .word → (k.nonce : Int) < Address.nonceLimit)
  (hstatus : a.frame.status = .executing) (hbyte : a.nextByte? = some byte)
include hs hroom hstatus hbyte

theorem advances_step (hstep : Exec.step byte a = .ok none a') :
    Advances k (a.atop below) (a'.atop below) := by
  have hkept := Exec.Local.of_ok hstep
  have hstage := Stage.step hs.activity (pc_le_of_nextByte hbyte) hroom byte
  obtain ⟨rest, outputs, hgo | hleave⟩ := hstage.of_ok hstep
  · have hgas := hgo.gas
    have hstake := hgo.stake
    have hgoes : a'.frame.status = .executing := hgo.status.trans hstatus
    refine advances_atop hs hgo.sound ⟨hkept.context, hkept.below⟩ (by omega) (by omega) ?_ ?_
    · simp [Frame.haltReason?, hgoes]
    · rw [hgoes, hstatus]
      omega
  · have hgas := hleave.gas
    refine advances_atop hs hleave.sound ⟨hkept.context, hkept.below⟩ hgas hleave.stake ?_ ?_
    · rcases hleave.status with h | h <;> simp [Frame.haltReason?, h]
    · rcases hleave.status with h | h <;> simp only [h, hstatus, FrameStatus.rank] <;> omega

theorem advances_open {child : Frame} (hstep : Exec.step byte a = .ok (some child) a') :
    Advances k (a.atop below) (a'.opening child below) := by
  have hkept := Exec.Local.of_ok hstep
  have hstage := Stage.step hs.activity (pc_le_of_nextByte hbyte) hroom byte
  obtain ⟨rest, outputs, hopens⟩ := hstage.of_ok hstep
  exact advances_opening hs hopens hstatus ⟨hkept.context, hkept.below⟩

theorem advances_halt {reason : HaltReason} (hstep : Exec.step byte a = .error (.halt reason) a') :
    Advances k (a.atop below) ((a'.mapFrame (·.halt reason)).atop below) := by
  have hkept := Exec.Local.of_error hstep
  have hstage := Stage.step hs.activity (pc_le_of_nextByte hbyte) hroom byte
  have hbroken := hstage.of_error hstep
  have hgas := hbroken.gas
  have hreason : reason ≠ .internalError := hbroken.cause
  refine advances_atop hs (hbroken.sound.of_status (.halted reason)) ⟨hkept.context, hkept.below⟩
    hgas hbroken.stake ?_ ?_
  · simpa [Frame.haltReason?, Activity.mapFrame, Frame.halt] using hreason
  · simp only [hstatus, Activity.mapFrame, Frame.halt, FrameStatus.rank]
    omega

end

/-- Every move keeps a machine sound, and takes from what is left. -/
theorem advances_of_move (hrules : rules.Fits k)
    (hroom : k.numbers = .word → (k.nonce : Int) < Address.nonceLimit) (h : Move rules s t)
    (hs : s.Sound k) : Advances k s t := by
  cases h with
  | start below hstatus => exact advances_start hs hrules hstatus
  | close below hleft => exact advances_leave hs (hs.ended rules hleft) hleft
  | @runOff a below hstatus hbyte =>
    have hsound : a.runOff.Sound k.raised :=
      ⟨{ hs.activity.frame.raised with output := Bytes.held_empty }, hs.world.raised⟩
    refine advances_atop hs hsound ⟨rfl, rfl⟩ le_rfl le_rfl ?_ ?_
    · simp [Frame.haltReason?, Activity.runOff, Activity.mapFrame]
    · simp only [hstatus, Activity.runOff, Activity.mapFrame, FrameStatus.rank]
      omega
  | step below hstatus hbyte hstep => exact advances_step hs hroom hstatus hbyte hstep
  | open_ below hstatus hbyte hstep => exact advances_open hs hroom hstatus hbyte hstep
  | halt below hstatus hbyte hstep => exact advances_halt hs hroom hstatus hbyte hstep

/-- A fault is one that the scale excuses, and leaves a sound machine behind without more gas. -/
theorem sound_of_faults {fault : Fault}
    (hroom : k.numbers = .word → (k.nonce : Int) < Address.nonceLimit) (h : Faults s fault t)
    (hs : s.Sound k) : t.Sound k.raised ∧ t.gas ≤ s.gas ∧ k.Excuses fault := by
  obtain ⟨a, a', byte, below, rfl, hstatus, hbyte, hstep, rfl⟩ := h
  have hkept := Exec.Local.of_error hstep
  have hstage := Stage.step hs.activity (pc_le_of_nextByte hbyte) hroom byte
  have hbroken := hstage.of_error hstep
  have hgas := hbroken.gas
  have hreason : a'.frame.haltReason? ≠ some .internalError := by
    rcases hkept.status with h | h | h <;> simp [Frame.haltReason?, h, hstatus]
  refine ⟨hs.atop hbroken.sound ⟨hkept.context, hkept.below⟩ hbroken.stake hreason, ?_,
    hbroken.cause⟩
  rw [gas_atop, gas_atop]
  omega

theorem Sound.gas_nonneg (h : m.Sound k) : 0 ≤ m.gas := sum_gas_nonneg h.frames

theorem Sound.movesLeft_nonneg (h : m.Sound k) : 0 ≤ m.movesLeft := by
  have := h.gas_nonneg
  have := sum_rank_nonneg m.frames
  unfold movesLeft
  omega

theorem Sound.turnsLeft_nonneg (h : m.Sound k) : 0 ≤ m.turnsLeft := by
  have := h.gas_nonneg
  unfold turnsLeft
  omega

/-- A machine with which a run of this scale can begin: it is sound, contracts made under the rules
keep to the scale, and nonces cannot grow beyond what addresses are made from. -/
structure Starts (rules : CreationRules) (k : Scale) (m : Machine) : Prop where
  sound : m.Sound k
  rules : ∀ n, rules.Fits (k.raisedBy n)
  room : k.numbers = .word → (k.nonce : Int) + m.movesLeft < Address.nonceLimit

structure Runs (k : Scale) (s t : Machine) : Prop where
  sound : ∃ n : Nat, t.Sound (k.raisedBy n) ∧ n + t.movesLeft ≤ s.movesLeft
  gas : t.gas ≤ s.gas
  turns : t.turnsLeft ≤ s.turnsLeft

/-- After `n` moves there is still room for a nonce. -/
theorem Starts.space (h : s.Starts rules k) {n : Nat} (hsound : t.Sound (k.raisedBy n))
    (hmoves : n + t.movesLeft ≤ s.movesLeft) :
    (k.raisedBy n).numbers = .word → ((k.raisedBy n).nonce : Int) < Address.nonceLimit := by
  intro hk
  have hroom := h.room hk
  have hleft := hsound.movesLeft_nonneg
  simp only [Scale.raisedBy, Nat.cast_add]
  omega

/-- Whatever moves a machine has made, it is sound, and has no more left than at the beginning. -/
theorem Starts.runs (h : s.Starts rules k) (hreach : Reaches rules s t) : Runs k s t := by
  induction hreach with
  | refl => exact ⟨⟨0, h.sound, by simp⟩, le_rfl, le_rfl⟩
  | tail _ hmove ih =>
    obtain ⟨n, hsound, hmoves⟩ := ih.sound
    have hadv := advances_of_move (h.rules n) (h.space hsound hmoves) hmove hsound
    have hfewer := hadv.moves
    refine ⟨⟨n + 1, hadv.sound, ?_⟩, hadv.gas.trans ih.gas, hadv.turns.trans ih.turns⟩
    push_cast
    omega

/-- A machine goes on as one with which a run can begin. -/
theorem Starts.of_reaches (h : s.Starts rules k) (hreach : Reaches rules s t) :
    ∃ n, t.Starts rules (k.raisedBy n) := by
  obtain ⟨n, hsound, hmoves⟩ := (h.runs hreach).sound
  refine ⟨n, hsound, fun i => ?_, fun hk => ?_⟩
  · have := h.rules (n + i)
    rwa [← Scale.raisedBy_raisedBy] at this
  · have hroom := h.room hk
    simp only [Scale.raisedBy, Nat.cast_add]
    omega

/-- A fault that a run meets is one that the scale excuses; it leaves a sound machine behind. -/
theorem Starts.sound_of_faults {fault : Fault} (h : s.Starts rules k) (hf : Faults s fault t) :
    t.Sound k.raised ∧ t.gas ≤ s.gas ∧ k.Excuses fault :=
  Machine.sound_of_faults (h.space (n := 0) h.sound (by simp)) hf h.sound

end Machine
end Gasometer
