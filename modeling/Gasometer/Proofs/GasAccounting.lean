import Gasometer.Proofs.Events
import Gasometer.Proofs.Launches

/-!
# The gas of a launch

No frame of a launch ever owes gas, and the gas of all open frames together never grows, with the
stipends that calls with value hand out. What the result says was used lies between nothing and all
of the initial gas, and it is all of it if the launch ended with a halt.
-/
namespace Gasometer

/-- No event of a run is about a frame that owes gas. -/
theorem Event.Arises.gas_nonneg {rules : CreationRules} {k : Scale} {s : Machine} {e : Event}
    (hs : s.Starts rules k) (h : e.Arises rules s) : 0 ≤ e.frame.gas := by
  have hframe {t : Machine} {f : Frame} (h : Reaches rules s t) (hf : f ∈ t.frames) :
      0 ≤ f.gas := by
    obtain ⟨n, hsound, -⟩ := (hs.runs h).sound
    exact (hsound.frames f hf).gas
  have hended {a : Activity} {below : List Frame} (h : Reaches rules s (a.atop below))
      (hleft : a.frame.status.IsLeft) : 0 ≤ (a.finish rules).frame.gas := by
    obtain ⟨n, hsound, -⟩ := (hs.runs h).sound
    exact (hsound.ended rules hleft).sound.frame.gas
  cases h with
  | enter h hf | waits _ h hf => exact hframe h hf
  | exit h hleft | closed _ h hleft => exact hended h hleft
  | @operation a a' below byte child? h hstatus hbyte hstep =>
    cases child? with
    | none => exact hframe (h.tail (.step below hstatus hbyte hstep)) (List.mem_cons_self ..)
    | some child =>
      have hopened := h.tail (.open_ below hstatus hbyte hstep)
      obtain ⟨n, hsound, -⟩ := (hs.runs hopened).sound
      exact (hsound.frames { a'.frame with status := .suspended } (by simp)).gas

namespace Round

variable {σ : Type} {rules : CreationRules} {k : Scale} {s : Machine} {r : Round σ}

/-- What is left of the gas when a run ends without a fault. -/
theorem Concludes.gas_left (hs : s.Starts rules k) (h : r.Concludes rules s)
    (hfault : r.fault = none) :
    0 ≤ r.frame.gas ∧ r.frame.gas ≤ s.gas ∧
      ∀ reason, r.frame.haltReason? = some reason → r.frame.gas = 0 := by
  rw [Concludes, hfault] at h
  obtain ⟨a, hreach, hleft, hframe, -⟩ := h
  obtain ⟨⟨n, hsound, -⟩, hgas, -⟩ := hs.runs hreach
  rw [Machine.gas_atop, List.map_nil, List.sum_nil, Int.add_zero] at hgas
  have hended := hsound.ended rules hleft
  rw [hframe]
  exact ⟨hended.sound.frame.gas, hended.gas.trans hgas,
    fun reason h => (Activity.finish_haltReason hsound.activity.frame.gas hleft h).1⟩

/-- What a result says was used. -/
theorem Concludes.gasUsed (hs : s.Starts rules k) (h : r.Concludes rules s) (elapsed : Int) :
    0 ≤ (r.result s.gas elapsed).gasUsed ∧ (r.result s.gas elapsed).gasUsed ≤ s.gas ∧
      ((r.result s.gas elapsed).status = .exceptionalHalt →
        (r.result s.gas elapsed).gasUsed = s.gas) := by
  have hgas := hs.sound.gas_nonneg
  unfold result
  cases hfault : r.fault with
  | some fault => exact ⟨hgas, le_rfl, fun _ => rfl⟩
  | none =>
    obtain ⟨hleft, hle, hhalted⟩ := h.gas_left hs hfault
    refine ⟨Int.sub_nonneg_of_le hle, Int.sub_le_self _ hleft, fun hstatus => ?_⟩
    cases hreason : r.frame.haltReason? with
    | some reason =>
      dsimp only
      rw [hhalted reason hreason, Int.sub_zero]
    | none =>
      rw [hreason] at hstatus
      dsimp only at hstatus
      split at hstatus <;> simp_all

end Round

namespace Meter

/-- The gas of a launch is accounted for, whatever program it runs. -/
theorem launch_gas {σ : Type} (m : Meter) (see : Observer σ) (code : Bytes) (world : World)
    (gasLimit : Int)
    (seen : σ) (elapsed : Int) (hblock : m.block.Sound .natural) (hworld : world.IsNatural)
    (hlimit : 0 ≤ gasLimit) (hmultiplier : 1 ≤ m.gasMultiplier) :
    let first := m.firstRound code world gasLimit seen
    let result := (m.launch see code world gasLimit seen).result (m.initialGas gasLimit) elapsed
    (∀ t, Reaches {} first.machine t → ∀ f ∈ t.frames, 0 ≤ f.gas) ∧
    (∀ e ∈ (m.launch .record code world gasLimit []).seen, 0 ≤ e.frame.gas) ∧
    (∀ n, ((Round.next {} see)^[n + 1] first).machine.gas ≤
      ((Round.next {} see)^[n] first).machine.gas) ∧
    0 ≤ result.gasUsed ∧ result.gasUsed ≤ m.initialGas gasLimit ∧
    (result.status = .exceptionalHalt → result.gasUsed = m.initialGas gasLimit) := by
  have hgas : 0 ≤ m.initialGas gasLimit := Int.mul_nonneg hlimit (by omega)
  obtain ⟨k, -, hstarts⟩ := starts_natural code hblock hworld hgas
  refine ⟨fun t hreach f hf => ?_, fun e he => ?_, fun n => ?_, ?_⟩
  · obtain ⟨n, hsound, -⟩ := (hstarts.runs hreach).sound
    exact (hsound.frames f hf).gas
  · have hn : 2 * m.initialGas gasLimit + 1 ≤ (2 * (m.initialGas gasLimit).toNat + 1 : Nat) := by
      omega
    rw [launch_eq_iterate hstarts .record [] hn] at he
    exact (Round.iterate_recorded hstarts opening_isReady _ _ e he).gas_nonneg hstarts
  · have hstands := Round.stands_iterate see hstarts opening_isReady
      (m.initialFrame code world gasLimit) seen n
    rw [Function.iterate_succ_apply']
    exact hstands.gas_next hstarts
  · have hused := (launch_concludes m see code world gasLimit seen).gasUsed hstarts elapsed
    rwa [opening_gas] at hused

def payingCall : Bytes :=
  #[0x60, 0x00, 0x60, 0x00, 0x60, 0x00, 0x60, 0x00, 0x60, 0x01, 0x62, 0x0c, 0xa1, 0x1e, 0x5a, 0xf1]

theorem launch_gas_payingCall :
    let round := ({} : Meter).launch .blind payingCall (Fixture.world payingCall) 100 ()
    (Block.Sound .natural ({} : Meter).block ∧ (Fixture.world payingCall).IsNatural) ∧
    0 ≤ (round.result 30000 0).gasUsed ∧ (round.result 30000 0).gasUsed ≤ 30000 := by
  have hblock := Block.sound_default .natural
  have hworld := Fixture.world_isNatural payingCall
  obtain ⟨-, -, -, h₀, h₁, -⟩ := launch_gas {} .blind payingCall (Fixture.world payingCall) 100 () 0
    hblock hworld (by decide) (by decide)
  exact ⟨⟨hblock, hworld⟩, h₀, h₁⟩

end Meter
end Gasometer
