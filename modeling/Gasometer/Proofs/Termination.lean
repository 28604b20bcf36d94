import Gasometer.Proofs.Launches

/-!
# Termination

A launch needs no more than `2 * gas + 1` rounds, and the code that a round runs is left after no
more operations than its frame has gas, and one more. The fuel that a launch is given is enough.
-/
namespace Gasometer

variable {σ : Type}

/-- Whether a run of the code was not cut off: the code was left, waits for another frame, or met a
fault of its own. -/
def Run.Settles (r : Run σ) : Prop :=
  match r.ending with
  | .left => r.activity.frame.status.IsLeft
  | .opened _ => r.activity.frame.status = .suspended
  | .faulted fault => fault ≠ .cutOff

theorem Run.Follows.settles {rules : CreationRules} {r : Run σ} {s : Machine} {below : List Frame}
    (h : r.Follows rules s below) (hcut : r.ending ≠ .faulted .cutOff) : r.Settles := by
  unfold Run.Follows at h
  unfold Run.Settles
  cases hending : r.ending with
  | left => rw [hending] at h; exact h.2
  | opened child => rw [hending] at h; exact h.2
  | faulted fault =>
    rw [hending] at hcut
    rintro rfl
    exact hcut rfl

namespace Meter

/-- A launch ends, whatever program it runs: at most `2 * gas + 1` rounds are made, and then no
frame is left unless a fault was met. In each round the code is left, opens a frame or meets a
fault, and more fuel than its gas would change nothing. -/
theorem launch_terminates (m : Meter) (see : Observer σ) (code : Bytes) (world : World)
    (gasLimit : Int) (seen : σ) (hblock : m.block.Sound .natural) (hworld : world.IsNatural)
    (hgas : 0 ≤ m.initialGas gasLimit) :
    let first := m.firstRound code world gasLimit seen
    let result := m.launch see code world gasLimit seen
    (∀ n : Nat, 2 * m.initialGas gasLimit + 1 ≤ n → (Round.next {} see)^[n] first = result) ∧
    (result.fault = none → result.machine.frames = []) ∧ result.fault ≠ some .cutOff ∧
    (∀ n a below, ((Round.next {} see)^[n] first).fault = none →
      ((Round.next {} see)^[n] first).machine = Activity.atop a below →
      (Machine.advance {} see a ((Round.next {} see)^[n] first).seen).Settles) ∧
    ∀ a below, Reaches {} first.machine (Activity.atop a below) → a.frame.status = .executing →
      ∀ (fuel : Nat) (seen : σ), a.frame.gas < fuel →
        a.runFor see fuel seen = a.run see seen := by
  obtain ⟨k, -, hstarts⟩ := starts_natural code hblock hworld hgas
  have hover := launch_isOver hstarts see seen
  have hstands := launch_stands hstarts see seen
  refine ⟨fun n hn => (launch_eq_iterate hstarts see seen hn).symm, fun hfault => ?_,
    fun hcut => ?_, fun n a below hfault hmachine => ?_, fun a below hreach hstatus fuel seen hfuel => ?_⟩
  · exact hover.resolve_left fun h => h hfault
  · exact (hstands.breaks _ hcut).1 rfl
  · have hstands := Round.stands_iterate see hstarts opening_isReady
      (m.initialFrame code world gasLimit) seen n
    obtain ⟨hreach, hready⟩ := hstands.goes hfault
    rw [firstRound] at hmachine
    rw [hmachine] at hreach hready
    obtain ⟨i, hnext⟩ := hstarts.of_reaches hreach
    exact (Machine.advance_follows {} see below (hready _ rfl) _).settles
      (Machine.advance_ne_cutOff see hnext _)
  · obtain ⟨i, hnext⟩ := hstarts.of_reaches hreach
    exact Activity.runFor_eq_run see hnext hstatus hfuel seen

def endless : Bytes := #[0x5b, 0x60, 0x00, 0x56]

theorem launch_terminates_endless :
    (0 ≤ ({} : Meter).initialGas 100 ∧ (Fixture.world endless).IsNatural) ∧
    (({} : Meter).launch Observer.blind endless (Fixture.world endless) 100 ()).fault ≠
      some .cutOff := by
  have hgas : 0 ≤ ({} : Meter).initialGas 100 := by decide
  have hworld := Fixture.world_isNatural endless
  obtain ⟨-, -, hcut, -⟩ :=
    launch_terminates {} Observer.blind endless (Fixture.world endless) 100 ()
    (Block.sound_default .natural) hworld hgas
  exact ⟨⟨hgas, hworld⟩, hcut⟩

end Meter
end Gasometer
