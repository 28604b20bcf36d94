import Gasometer.Proofs.Machines
import Mathlib.Logic.Function.Iterate

/-!
# Rounds

A run is an iteration of rounds until no frame is left or a fault was met. Every round costs a turn
and every operation costs gas, so a run of a sound machine is over when its turns are used up, and
more fuel changes nothing.
-/
namespace Gasometer

variable {σ : Type} {rules : CreationRules} {see : Observer σ} {k : Scale} {a : Activity}
  {below : List Frame} {s t : Machine}

namespace Round

/-- Whether a run is over: no frame is left, or a fault was met. -/
def IsOver (r : Round σ) : Prop := r.fault ≠ none ∨ r.machine.frames = []

/-- The next round of a run, if it is not over. -/
def next (rules : CreationRules) (see : Observer σ) (r : Round σ) : Round σ :=
  match r.fault, r.machine.frames with
  | none, top :: below =>
    Machine.process rules see ⟨top, r.machine.world, r.machine.access⟩ below r.seen
  | _, _ => r

theorem next_atop {r : Round σ} (hfault : r.fault = none) (hmachine : r.machine = a.atop below) :
    r.next rules see = Machine.process rules see a below r.seen := by
  rw [next, hfault, hmachine]
  rfl

theorem next_of_isOver {r : Round σ} (h : r.IsOver) : r.next rules see = r := by
  unfold next
  rcases h with h | h
  · cases hfault : r.fault with
    | none => exact absurd hfault h
    | some fault => rfl
  · rw [h]
    cases r.fault <;> rfl

theorem iterate_of_isOver {r : Round σ} (h : r.IsOver) (n : Nat) : (next rules see)^[n] r = r :=
  Function.iterate_fixed (next_of_isOver h) n

end Round

namespace Machine

/-- Fuel beyond the number of rounds that a run takes changes nothing. -/
theorem runFor_eq_iterate {n fuel : Nat} {last : Frame} {seen : σ}
    (hover : ((Round.next rules see)^[n] ⟨last, s, seen, none⟩).IsOver) (hn : n ≤ fuel) :
    runFor rules see fuel last s seen = (Round.next rules see)^[n] ⟨last, s, seen, none⟩ := by
  induction n generalizing fuel last s seen with
  | zero =>
    have hempty : s.frames = [] := hover.resolve_left fun h => h rfl
    exact runFor_of_frames_eq_nil hempty fuel last seen
  | succ n ih =>
    obtain ⟨fuel, rfl⟩ : ∃ i, fuel = i + 1 := ⟨fuel - 1, by omega⟩
    by_cases hempty : s.frames = []
    · rw [Round.iterate_of_isOver (.inr hempty), runFor_of_frames_eq_nil hempty]
    · obtain ⟨a, below, rfl⟩ := exists_atop hempty
      rw [Function.iterate_succ_apply, Round.next_atop rfl rfl] at hover ⊢
      rw [runFor_atop_succ]
      generalize process rules see a below seen = round at hover ⊢
      obtain ⟨frame, machine, seen, fault⟩ := round
      cases fault with
      | some fault => rw [Round.iterate_of_isOver (.inl (by simp))]
      | none => exact ih hover (by omega)

theorem turnsLeft_pos (h : s.Sound k) (hframes : s.frames ≠ []) : 0 < s.turnsLeft := by
  have hgas := h.gas_nonneg
  have hlength := List.length_pos_iff.2 hframes
  unfold turnsLeft
  omega

theorem Starts.turnsLeft_of_turn (h : s.Starts rules k) (hturn : Turn rules s t) :
    t.turnsLeft + 1 ≤ s.turnsLeft :=
  (advances_of_move (h.rules 0) (h.space (n := 0) h.sound (by simp)) hturn.1 h.sound).turn hturn.2

end Machine

theorem Scale.Excuses.ne_cutOff {fault : Fault} (h : k.Excuses fault) : fault ≠ .cutOff := by
  unfold Scale.Excuses at h
  split at h
  · exact h
  · rcases h.1 with rfl | rfl <;> decide

/-! The code of a frame runs until its gas is used up. -/

namespace Activity
open Machine

theorem RunsTo.add {fuel : Nat} {seen : σ} {r : Run σ} (h : RunsTo see fuel a seen r)
    (extra : Nat) (hcut : r.ending ≠ .faulted .cutOff) :
    RunsTo see (extra + fuel) a seen r := by
  induction h with
  | cutOff => exact absurd rfl hcut
  | runOff hbyte => exact .runOff hbyte
  | halt hbyte hstep => exact .halt hbyte hstep
  | fault hbyte hstep => exact .fault hbyte hstep
  | open_ hbyte hstep => exact .open_ hbyte hstep
  | leave hbyte hstep hleft => exact .leave hbyte hstep hleft
  | next hbyte hstep hgoes _ ih => exact .next hbyte hstep hgoes (ih hcut)

/-- More fuel changes nothing in a run of the code that is not cut off. -/
theorem RunsTo.runFor_of_le {n fuel : Nat} {seen : σ} {r : Run σ} (h : RunsTo see n a seen r)
    (hn : n ≤ fuel) (hcut : r.ending ≠ .faulted .cutOff) : a.runFor see fuel seen = r := by
  obtain ⟨extra, rfl⟩ := Nat.exists_eq_add_of_le' hn
  exact (h.add extra hcut).runFor_eq

/-- An operation after which the code goes on costs gas. -/
theorem gas_of_step {a' : Activity} {byte : UInt8} (h : (a.atop below).Starts rules k)
    (hstatus : a.frame.status = .executing) (hbyte : a.nextByte? = some byte)
    (hstep : Exec.step byte a = .ok none a') (hgoes : a'.frame.status = .executing) :
    a'.frame.gas < a.frame.gas := by
  have hadv := advances_of_move (h.rules 0) (h.space (n := 0) h.sound (by simp))
    (.step below hstatus hbyte hstep) h.sound
  have hmoves := hadv.moves
  rw [movesLeft_atop, movesLeft_atop, hstatus, hgoes] at hmoves
  omega

/-- With more fuel than gas a run of the code is not cut off. -/
theorem RunsTo.ne_cutOff {fuel : Nat} {seen : σ} {r : Run σ} (hrun : RunsTo see fuel a seen r)
    (h : (a.atop below).Starts rules k) (hstatus : a.frame.status = .executing)
    (hfuel : a.frame.gas < fuel) : r.ending ≠ .faulted .cutOff := by
  induction hrun generalizing k with
  | cutOff =>
    have := h.sound.activity.frame.gas
    omega
  | runOff | halt | open_ | leave => simp
  | fault hbyte hstep =>
    have hf : Faults _ _ _ := ⟨_, _, _, below, rfl, hstatus, hbyte, hstep, rfl⟩
    simpa using (h.sound_of_faults hf).2.2.ne_cutOff
  | next hbyte hstep hgoes _ ih =>
    obtain ⟨i, hnext⟩ := h.of_reaches (.single (.step below hstatus hbyte hstep))
    have := gas_of_step h hstatus hbyte hstep hgoes
    exact ih hnext hgoes (by omega)

theorem run_ne_cutOff (see : Observer σ) (h : (a.atop below).Starts rules k)
    (hstatus : a.frame.status = .executing) (seen : σ) :
    (a.run see seen).ending ≠ .faulted .cutOff := by
  have : 0 < allowance := Nat.two_pow_pos 60
  exact (runsTo_run see a seen).ne_cutOff h hstatus (by omega)

/-- A run of the code ends as it would with any other fuel that exceeds its gas. -/
theorem runFor_eq_run (see : Observer σ) {fuel : Nat} (h : (a.atop below).Starts rules k)
    (hstatus : a.frame.status = .executing) (hfuel : a.frame.gas < fuel) (seen : σ) :
    a.runFor see fuel seen = a.run see seen := by
  obtain ⟨gas, hgas⟩ := Int.eq_ofNat_of_zero_le h.sound.activity.frame.gas
  have hrun := runsTo_runFor see (gas + 1) a seen
  have hcut := hrun.ne_cutOff h hstatus (by omega)
  have : 0 < allowance := Nat.two_pow_pos 60
  calc a.runFor see fuel seen
    _ = a.runFor see (gas + 1) seen := hrun.runFor_of_le (by omega) hcut
    _ = a.run see seen := .symm (hrun.runFor_of_le (by omega) hcut)

end Activity

namespace Machine
open Activity

theorem runStarted_ne_cutOff (h : (a.atop below).Starts rules k) (seen : σ) :
    (runStarted see a seen).ending ≠ .faulted .cutOff := by
  unfold runStarted
  split
  · rename_i hstatus
    exact run_ne_cutOff see h hstatus seen
  · simp

theorem advance_ne_cutOff (see : Observer σ) (h : (a.atop below).Starts rules k) (seen : σ) :
    (advance rules see a seen).ending ≠ .faulted .cutOff := by
  unfold advance
  split
  · rename_i hstatus
    obtain ⟨i, hnext⟩ := h.of_reaches (.single (.start below hstatus))
    exact runStarted_ne_cutOff hnext _
  · exact runStarted_ne_cutOff h seen

theorem process_ne_cutOff (see : Observer σ) (h : (a.atop below).Starts rules k) (seen : σ) :
    (process rules see a below seen).fault ≠ some .cutOff := by
  have hadvance := advance_ne_cutOff see h seen
  unfold process conclude
  cases hending : (advance rules see a seen).ending with
  | left | opened => simp
  | faulted fault =>
    rw [hending] at hadvance
    simpa using hadvance

end Machine

namespace Round
open Machine

/-- What a round has done that was not cut off: it makes no gas, and takes a turn unless it met a
fault. -/
structure Passes (rules : CreationRules) (s : Machine) (r : Round σ) : Prop where
  gas : r.machine.gas ≤ s.gas
  goes : r.fault = none →
    Reaches rules s r.machine ∧ r.machine.IsReady ∧ r.machine.turnsLeft + 1 ≤ s.turnsLeft
  breaks : ∀ fault, r.fault = some fault →
    fault ≠ .cutOff ∧ ∃ t, Reaches rules s t ∧ Faults t fault r.machine

theorem process_passes (see : Observer σ) (h : (a.atop below).Starts rules k)
    (hready : a.frame.status.IsReady) (seen : σ) :
    (process rules see a below seen).Passes rules (a.atop below) := by
  have hcut := process_ne_cutOff see h seen
  have hfollows := process_follows rules see below hready seen
  generalize process rules see a below seen = r at hcut hfollows ⊢
  obtain ⟨frame, machine, seen, fault⟩ := r
  cases fault with
  | none =>
    obtain ⟨⟨t, hreach, hturn⟩, -⟩ := hfollows
    obtain ⟨i, hstarts⟩ := h.of_reaches hreach
    have hfewer := hstarts.turnsLeft_of_turn hturn
    have hturns := (h.runs hreach).turns
    have hnext := hreach.tail hturn.1
    have htaken : machine.turnsLeft + 1 ≤ (a.atop below).turnsLeft := hfewer.trans hturns
    exact ⟨(h.runs hnext).gas, fun _ => ⟨hnext, ready_of_turn hturn, htaken⟩, by rintro fault ⟨⟩⟩
  | some fault =>
    obtain ⟨rfl, -⟩ | ⟨t, hreach, hf⟩ := hfollows
    · exact absurd rfl hcut
    · obtain ⟨i, hstarts⟩ := h.of_reaches hreach
      obtain ⟨-, hgas, hexcused⟩ := hstarts.sound_of_faults hf
      refine ⟨hgas.trans (h.runs hreach).gas, by rintro ⟨⟩, ?_⟩
      rintro _ ⟨⟩
      exact ⟨hexcused.ne_cutOff, t, hreach, hf⟩

/-- Where a run from `s` stands after some rounds: it can go on, or has met a fault. -/
structure Stands (rules : CreationRules) (s : Machine) (r : Round σ) : Prop where
  goes : r.fault = none → Reaches rules s r.machine ∧ r.machine.IsReady
  breaks : ∀ fault, r.fault = some fault →
    fault ≠ .cutOff ∧ ∃ t, Reaches rules s t ∧ Faults t fault r.machine

variable {r : Round σ}

/-- A run that is not over goes on with a round. -/
theorem Stands.next_passes (see : Observer σ) (hs : s.Starts rules k) (h : r.Stands rules s)
    (hover : ¬ r.IsOver) :
    Reaches rules s r.machine ∧ (r.next rules see).Passes rules r.machine := by
  rw [IsOver, not_or, not_not] at hover
  obtain ⟨hreach, hready⟩ := h.goes hover.1
  obtain ⟨a, below, hmachine⟩ := exists_atop hover.2
  rw [next_atop hover.1 hmachine]
  rw [hmachine] at hreach hready ⊢
  obtain ⟨i, hstarts⟩ := hs.of_reaches hreach
  exact ⟨hreach, process_passes see hstarts (hready _ rfl) r.seen⟩

theorem Stands.next (hs : s.Starts rules k) (h : r.Stands rules s) :
    (r.next rules see).Stands rules s := by
  by_cases hover : r.IsOver
  · rwa [next_of_isOver hover]
  · obtain ⟨hreach, hpasses⟩ := h.next_passes see hs hover
    refine ⟨fun hfault => ?_, fun fault hfault => ?_⟩
    · obtain ⟨hnext, hready, -⟩ := hpasses.goes hfault
      exact ⟨hreach.trans hnext, hready⟩
    · obtain ⟨hcut, t, ht, hf⟩ := hpasses.breaks fault hfault
      exact ⟨hcut, t, hreach.trans ht, hf⟩

/-- What a run from `s` has come to after so many rounds. -/
theorem stands_iterate (see : Observer σ) (hs : s.Starts rules k) (hready : s.IsReady)
    (last : Frame) (seen : σ) (n : Nat) :
    ((Round.next rules see)^[n] ⟨last, s, seen, none⟩).Stands rules s := by
  induction n with
  | zero => exact ⟨fun _ => ⟨.refl, hready⟩, by rintro fault ⟨⟩⟩
  | succ n ih =>
    rw [Function.iterate_succ_apply']
    exact ih.next hs

/-- The next round makes no gas. -/
theorem Stands.gas_next (hs : s.Starts rules k) (h : r.Stands rules s) :
    (r.next rules see).machine.gas ≤ r.machine.gas := by
  by_cases hover : r.IsOver
  · rw [next_of_isOver hover]
  · exact (h.next_passes see hs hover).2.gas

/-- Every round takes a turn until the run is over. -/
theorem isOver_or_turnsLeft (see : Observer σ) (hs : s.Starts rules k) (hready : s.IsReady)
    (last : Frame) (seen : σ) (n : Nat) :
    let r := (Round.next rules see)^[n] ⟨last, s, seen, none⟩
    r.IsOver ∨ r.machine.turnsLeft + n ≤ s.turnsLeft := by
  induction n with
  | zero => exact .inr (by simp)
  | succ n ih =>
    have hstands := stands_iterate see hs hready last seen n
    rw [Function.iterate_succ_apply']
    generalize (Round.next rules see)^[n] ⟨last, s, seen, none⟩ = r at ih hstands ⊢
    by_cases hover : r.IsOver
    · rw [next_of_isOver hover]
      exact .inl hover
    · have hpasses := (hstands.next_passes see hs hover).2
      by_cases hfault : (r.next rules see).fault = none
      · have hturns := (hpasses.goes hfault).2.2
        have hbefore := ih.resolve_left hover
        exact .inr (by omega)
      · exact .inl (.inl hfault)

/-- A run is over when its turns are used up. -/
theorem isOver_iterate (see : Observer σ) (hs : s.Starts rules k) (hready : s.IsReady)
    (last : Frame) (seen : σ) {n : Nat} (hn : s.turnsLeft ≤ n) :
    ((Round.next rules see)^[n] ⟨last, s, seen, none⟩).IsOver := by
  rcases isOver_or_turnsLeft see hs hready last seen n with hover | hturns
  · exact hover
  · have hstands := stands_iterate see hs hready last seen n
    generalize (Round.next rules see)^[n] ⟨last, s, seen, none⟩ = r at hturns hstands ⊢
    by_contra hover
    rw [IsOver, not_or, not_not] at hover
    obtain ⟨i, hstarts⟩ := hs.of_reaches (hstands.goes hover.1).1
    have := turnsLeft_pos hstarts.sound hover.2
    omega

end Round

namespace Machine

/-- With fuel for as many rounds as there are turns, a run ends as its rounds do. -/
theorem Starts.runFor_eq (hs : s.Starts rules k) (hready : s.IsReady) (last : Frame) (seen : σ)
    {n fuel : Nat} (hn : s.turnsLeft ≤ n) (hfuel : s.turnsLeft ≤ fuel) :
    runFor rules see fuel last s seen = (Round.next rules see)^[n] ⟨last, s, seen, none⟩ := by
  have hnonneg := hs.sound.turnsLeft_nonneg
  obtain ⟨turns, hturns⟩ := Int.eq_ofNat_of_zero_le hnonneg
  have hover := Round.isOver_iterate see hs hready last seen hturns.le
  obtain ⟨i, rfl⟩ : ∃ i, n = i + turns := ⟨n - turns, by omega⟩
  rw [Function.iterate_add_apply, Round.iterate_of_isOver hover]
  exact runFor_eq_iterate hover (by omega)

end Machine
end Gasometer
