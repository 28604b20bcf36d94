import Gasometer.Proofs.Moves

/-!
# Records

A record can be kept beside the machine: before each move something is noted that depends on the
state of the machine, and the machine knows nothing of it. Every run has its record, and a run that
has come to its end has only this one.
-/
namespace Gasometer

namespace Machine

variable {τ : Type} {rules : CreationRules} {note : Machine → τ → τ} {s t : Machine} {r r' : τ}
  {x y z : Machine × τ}

/-- A sequence of moves, with what is noted before each of them. -/
def Records (rules : CreationRules) (note : Machine → τ → τ) : Machine × τ → Machine × τ → Prop :=
  Relation.ReflTransGen fun x y => Move rules x.1 y.1 ∧ y.2 = note x.1 x.2

theorem reaches_of_records (h : Records rules note x y) : Reaches rules x.1 y.1 := by
  induction h with
  | refl => exact .refl
  | tail _ hmove ih => exact ih.tail hmove.1

theorem exists_records (hreach : Reaches rules s t) (r : τ) :
    ∃ r', Records rules note (s, r) (t, r') := by
  induction hreach with
  | refl => exact ⟨r, .refl⟩
  | tail _ hmove ih =>
    obtain ⟨r', hr⟩ := ih
    exact ⟨_, hr.tail ⟨hmove, rfl⟩⟩

/-- Nothing is noted after the end. -/
theorem Records.eq_of_frames (h : Records rules note x y) (hx : x.1.frames = []) : x = y := by
  rcases h.cases_head with heq | ⟨u, hmove, -⟩
  · exact heq
  · exact absurd hx hmove.1.frames_ne_nil

/-- A run that has come to its end has only one record. -/
theorem Records.unique (hy : Records rules note x y) (hz : Records rules note x z)
    (hyend : y.1.frames = []) (hzend : z.1.frames = []) : y = z := by
  have hunique : Relator.RightUnique fun x y : Machine × τ =>
      Move rules x.1 y.1 ∧ y.2 = note x.1 x.2 := by
    intro u v w hv hw
    exact Prod.ext (hv.1.unique hw.1) (hv.2.trans hw.2.symm)
  rcases Relation.ReflTransGen.total_of_right_unique hunique hy hz with h | h
  · exact Records.eq_of_frames h hyend
  · exact (Records.eq_of_frames h hzend).symm

/-- What each move keeps up as long as a frame is open holds of all states with an open frame. -/
theorem Records.holds {p : Machine → τ → Prop}
    (hp : ∀ {s t r}, p s r → Move rules s t → t.frames ≠ [] → p t (note s r))
    (hs : p s r) (h : Records rules note (s, r) (t, r')) (ht : t.frames ≠ []) : p t r' := by
  generalize hu : (t, r') = u at h
  induction h generalizing t r' with
  | refl =>
    obtain ⟨rfl, rfl⟩ := Prod.mk.inj hu
    exact hs
  | @tail v u _ hmove ih =>
    subst hu
    obtain ⟨hmove, hnoted⟩ := hmove
    subst hnoted
    exact hp (ih hmove.frames_ne_nil rfl) hmove ht

def recorded? (rules : CreationRules) (note : Machine → τ → τ) :
    Nat → Machine → τ → Option (Machine × τ)
  | 0, m, r => some (m, r)
  | n + 1, m, r => (m.moved? rules).bind fun t => recorded? rules note n t (note m r)

theorem records_of_recorded? {n : Nat} (h : s.recorded? rules note n r = some x) :
    Records rules note (s, r) x := by
  induction n generalizing s r with
  | zero =>
    cases h
    exact .refl
  | succ n ih =>
    obtain ⟨t, hmoved, hrest⟩ := Option.bind_eq_some_iff.1 h
    exact .head ⟨move_of_moved? hmoved, rfl⟩ (ih hrest)

/-- A record that is computed, and of which this holds. -/
theorem exists_of_recorded? {n : Nat} {p : Machine × τ → Bool}
    (h : (s.recorded? rules note n r).any p = true) :
    ∃ t r', Records rules note (s, r) (t, r') ∧ p (t, r') = true := by
  obtain ⟨⟨t, r'⟩, hrecorded, hp⟩ := (Option.any_eq_true ..).1 h
  exact ⟨t, r', records_of_recorded? hrecorded, hp⟩

end Machine
end Gasometer
