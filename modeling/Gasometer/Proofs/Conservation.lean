import Gasometer.Proofs.GasAccounting
import Gasometer.Proofs.Recursion
import Gasometer.Proofs.Towers
import Mathlib.Algebra.BigOperators.Finprod

/-!
# Conservation of balances

Value moves between accounts and is never made. Seen from the layer of a frame no account is in
debt, and all hold together no more than is seen beneath that layer. Only contracts that end can
lose what they hold: a frame that has ended none, itself or through frames that it opened, shows as
much as is seen beneath it. So a launch makes no one richer without making others poorer.
-/
namespace Gasometer
open World (through)

namespace View

variable {v v' : View} {a b : Address} {c : Context}

noncomputable def wealth (v : View) : Int := ∑ᶠ a, v.balance a

/-- Finitely many accounts hold something, and none is in debt. -/
structure IsSolvent (v : View) : Prop where
  finite : v.balance.support.Finite
  balance_nonneg : ∀ a, 0 ≤ v.balance a

theorem balance_put (v : View) (a : Address) (entry : Option Account) :
    (v.put a entry).balance = Function.update v.balance a (entry.getD {}).balance := by
  funext b
  by_cases h : b = a
  · rw [h, Function.update_self, balance, put_self]
  · rw [Function.update_of_ne h, balance, put_of_ne _ (Ne.symm h), balance]

theorem balance_modify (v : View) (a : Address) (f : Account → Account) :
    (v.modify a f).balance = Function.update v.balance a (f (v.account a)).balance := balance_put ..

/-- A change of anything but the balance. -/
theorem balance_modify_of_same (v : View) (a : Address) {f : Account → Account}
    (h : ∀ account, (f account).balance = account.balance) :
    (v.modify a f).balance = v.balance := by
  rw [balance_modify, h]
  exact Function.update_eq_self a v.balance

/-- Writing an account changes the wealth by what it holds now, less what it held before. -/
theorem wealth_put (hfinite : v.balance.support.Finite) (a : Address) (entry : Option Account) :
    (v.put a entry).wealth + v.balance a = v.wealth + (entry.getD {}).balance := by
  have hsubset : Function.support (v.put a entry).balance ⊆ ↑(insert a hfinite.toFinset) := by
    intro b hb
    rw [Finset.coe_insert, Set.Finite.coe_toFinset]
    by_cases h : b = a
    · exact .inl h
    · rw [Function.mem_support, balance_put, Function.update_of_ne h] at hb
      exact .inr hb
  have hsubset' : Function.support v.balance ⊆ ↑(insert a hfinite.toFinset) := by
    rw [Finset.coe_insert, Set.Finite.coe_toFinset]
    exact Set.subset_insert _ _
  have hmem : a ∈ insert a hfinite.toFinset := Finset.mem_insert_self ..
  rw [wealth, wealth, finsum_eq_sum_of_support_subset _ hsubset,
    finsum_eq_sum_of_support_subset _ hsubset', balance_put, Finset.sum_update_of_mem hmem,
    ← Finset.sum_sdiff (Finset.singleton_subset_iff.2 hmem), Finset.sum_singleton]
  omega

theorem wealth_modify (hfinite : v.balance.support.Finite) (a : Address) (f : Account → Account) :
    (v.modify a f).wealth + v.balance a = v.wealth + (f (v.account a)).balance :=
  wealth_put hfinite a _

/-- An account was given this much. -/
theorem wealth_modify_add (hfinite : v.balance.support.Finite) (a : Address) {f : Account → Account}
    {value : Int} (hf : ∀ account, (f account).balance = account.balance + value) :
    (v.modify a f).wealth = v.wealth + value := by
  have h : _ + v.balance a = v.wealth + (v.balance a + value) :=
    hf (v.account a) ▸ wealth_modify hfinite a f
  omega

theorem wealth_congr (h : v'.balance = v.balance) : v'.wealth = v.wealth := by
  rw [wealth, h, wealth]

theorem balance_claimed (v : View) (rules : CreationRules) (c : Context) :
    (v.claimed rules c).balance = v.balance := by
  unfold claimed
  cases c.kind with
  | messageCall => rfl
  | contractCreation => exact balance_modify_of_same v c.address fun _ => rfl

theorem balance_deposited (v : View) (c : Context) (output : Bytes) :
    (v.deposited c output).balance = v.balance := by
  unfold deposited
  cases c.kind with
  | messageCall => rfl
  | contractCreation => exact balance_modify_of_same v c.address fun _ => rfl

namespace IsSolvent

theorem congr (h : v.IsSolvent) (hbalance : v'.balance = v.balance) : v'.IsSolvent := by
  constructor <;> rw [hbalance]
  · exact h.finite
  · exact h.balance_nonneg

theorem put (h : v.IsSolvent) (a : Address) {entry : Option Account}
    (hentry : 0 ≤ (entry.getD {}).balance) : (v.put a entry).IsSolvent := by
  refine ⟨?_, fun b => ?_⟩ <;> rw [balance_put]
  · refine (h.finite.insert a).subset fun b hb => ?_
    by_cases hba : b = a
    · exact .inl hba
    · rw [Function.mem_support, Function.update_of_ne hba] at hb
      exact .inr hb
  · by_cases hba : b = a
    · rwa [hba, Function.update_self]
    · rw [Function.update_of_ne hba]
      exact h.balance_nonneg b

theorem modify (h : v.IsSolvent) (a : Address) {f : Account → Account}
    (hf : 0 ≤ (f (v.account a)).balance) : (v.modify a f).IsSolvent := h.put a hf

/-- The value of a frame is moved between accounts. -/
theorem paid (h : v.IsSolvent) (hvalue : 0 ≤ c.value) (hfunds : v.Funds c) :
    (v.paid c).IsSolvent ∧ (v.paid c).wealth = v.wealth := by
  unfold View.paid
  split_ifs with hfree
  · have hsame := balance_modify_of_same v c.address (f := id) fun _ => rfl
    exact ⟨h.congr hsame, wealth_congr hsame⟩
  · rw [not_or] at hfree
    have hrich : c.value ≤ v.balance c.sender := (hfunds.resolve_left hfree.1).resolve_left hfree.2
    have hgiven :
        (v.modify c.sender fun a => { a with balance := a.balance - c.value }).IsSolvent :=
      h.modify _ (Int.sub_nonneg_of_le hrich)
    have htaken := hgiven.balance_nonneg c.address
    refine ⟨hgiven.modify _ (Int.add_nonneg htaken hvalue), ?_⟩
    rw [wealth_modify_add hgiven.finite _ fun _ => rfl,
      wealth_modify_add h.finite _ fun _ => Int.sub_eq_add_neg]
    omega

/-- A contract that ends leaves its balance to its heir; it is lost if that is the contract. -/
theorem bequeath (h : v.IsSolvent) (heir a : Address) :
    let v' := (v.modify heir fun b => { b with balance := b.balance + v.balance a }).modify a
      fun b => { b with balance := 0 }
    v'.IsSolvent ∧ v'.wealth ≤ v.wealth := by
  intro v'
  let given : View := v.modify heir fun b => { b with balance := b.balance + v.balance a }
  have hgiven : given.IsSolvent :=
    h.modify _ (Int.add_nonneg (h.balance_nonneg heir) (h.balance_nonneg a))
  have hkept : v.balance a ≤ given.balance a := by
    rw [balance_modify]
    by_cases hheir : a = heir
    · rw [hheir, Function.update_self]
      exact Int.le_add_of_nonneg_left (h.balance_nonneg heir)
    · rw [Function.update_of_ne hheir]
  have hgives : given.wealth = v.wealth + v.balance a := wealth_modify_add h.finite _ fun _ => rfl
  have hends : v'.wealth + given.balance a = given.wealth + 0 := wealth_modify hgiven.finite ..
  exact ⟨hgiven.modify a le_rfl, by omega⟩

/-- Removing accounts makes no one richer. -/
theorem foldl_put_none (h : v.IsSolvent) (l : List Address) :
    (l.foldl (fun v a => v.put a none) v).IsSolvent ∧
      (l.foldl (fun v a => v.put a none) v).wealth ≤ v.wealth := by
  induction l generalizing v with
  | nil => exact ⟨h, le_rfl⟩
  | cons a r ih =>
    have hput : (v.put a none).IsSolvent := h.put a le_rfl
    have hwealth := wealth_put h.finite a none
    have hlost := h.balance_nonneg a
    obtain ⟨hrest, hle⟩ := ih hput
    refine ⟨hrest, hle.trans ?_⟩
    simp only [Option.getD_none] at hwealth
    omega

theorem swept (h : v.IsSolvent) (c : Context) (ended : List Address) :
    (v.swept c ended).IsSolvent ∧ (v.swept c ended).wealth ≤ v.wealth ∧
      (ended = [] → (v.swept c ended).wealth = v.wealth) := by
  unfold View.swept
  split_ifs
  · obtain ⟨hsolvent, hle⟩ := h.foldl_put_none ended
    exact ⟨hsolvent, hle, by rintro rfl; rfl⟩
  · exact ⟨h, le_rfl, fun _ => rfl⟩

end IsSolvent
end View

/-- Whether a frame makes no value: no account is in debt in its view, all hold together no more
than beneath its layer, and as much if the frame has ended no contract. -/
structure Conserves (o : Outward) (v : View) : Prop where
  value : 0 ≤ o.context.value
  solvent : o.view.IsSolvent
  wealth_le : o.view.wealth ≤ v.wealth
  wealth_eq : o.selfDestructs = [] → o.view.wealth = v.wealth

theorem Frame.uniteAddresses_eq_nil {old new : List Address} (h : uniteAddresses old new = []) :
    old = [] ∧ new = [] := by
  induction new generalizing old with
  | nil => exact ⟨h, rfl⟩
  | cons a r ih =>
    rw [uniteAddresses, List.foldl_cons] at h
    have hold := (ih h).1
    split_ifs at hold with hmem
    rw [hold] at hmem
    cases hmem

namespace Conserves

variable {rules : CreationRules} {o o' inner : Outward} {v w : View} {child? : Option Frame}
  {child : Frame}

/-- The view has changed, but not its wealth. -/
theorem of_view (h : Conserves o v) (hsolvent : w.IsSolvent) (hwealth : w.wealth = o.view.wealth) :
    Conserves { o with view := w } v where
  value := h.value
  solvent := hsolvent
  wealth_le := hwealth.trans_le h.wealth_le
  wealth_eq hended := hwealth.trans (h.wealth_eq hended)

theorem of_balance (h : Conserves o v) (hbalance : w.balance = o.view.balance) :
    Conserves { o with view := w } v :=
  h.of_view (h.solvent.congr hbalance) (View.wealth_congr hbalance)

theorem started (h : Conserves o v) (rules : CreationRules) (hfunds : o.view.Funds o.context) :
    Conserves (o.started rules) v := by
  obtain ⟨hsolvent, hwealth⟩ := h.solvent.paid h.value hfunds
  have hbalance := View.balance_claimed (o.view.paid o.context) rules o.context
  exact h.of_view (hsolvent.congr hbalance) ((View.wealth_congr hbalance).trans hwealth)

theorem deed (h : Conserves o v) (hdeed : Deed o child? o') : Conserves o' v := by
  cases hdeed with
  | works | calls => exact h
  | stores key value => exact h.of_balance (View.balance_modify_of_same _ _ fun _ => rfl)
  | records => exact { h with }
  | creates => exact h.of_balance (View.balance_modify_of_same _ _ fun _ => rfl)
  | ends heir =>
    obtain ⟨hsolvent, hle⟩ := h.solvent.bequeath heir o.context.address
    refine ⟨h.value, hsolvent, hle.trans h.wealth_le, fun hended => ?_⟩
    cases (Frame.uniteAddresses_eq_nil hended).2

/-- A frame begins with the view of its opener. -/
theorem opens (h : Conserves o v) (hdeed : Deed o (some child) o')
    (hvalue : 0 ≤ child.context.value) :
    Conserves (child.outward o'.view) o'.view :=
  ⟨hvalue, (h.deed hdeed).solvent, le_rfl, fun _ => rfl⟩

/-- What a frame leaves behind when it has come to its end. -/
theorem ended (h : Conserves o v) (output : Bytes) : Conserves (o.ended output) v := by
  have hbalance := View.balance_deposited o.view o.context output
  have hwealth := View.wealth_congr hbalance
  obtain ⟨hsolvent, hle, heq⟩ :=
    (h.solvent.congr hbalance).swept o.context o.selfDestructs
  exact
    { value := h.value
      solvent := hsolvent
      wealth_le := hle.trans (hwealth.trans_le h.wealth_le)
      wealth_eq := fun hended => (heq hended).trans (hwealth.trans (h.wealth_eq hended)) }

theorem joined (h : Conserves o v) (hinner : Conserves inner o.view) :
    Conserves (o.joined inner) v where
  value := h.value
  solvent := hinner.solvent
  wealth_le := hinner.wealth_le.trans h.wealth_le
  wealth_eq hended := by
    obtain ⟨houter, hinner'⟩ := Frame.uniteAddresses_eq_nil hended
    exact (hinner.wealth_eq hinner').trans (h.wealth_eq houter)

/-- No frame makes value if no frame is opened with a negative value. -/
theorem stable (rules : CreationRules) : Stable rules (fun c => 0 ≤ c.value) Conserves where
  start h hfunds := h.started rules hfunds
  deed h hdeed := h.deed hdeed
  opens h hdeed hvalue := h.opens hdeed hvalue
  joins h hinner output := h.joined (hinner.ended output)

end Conserves

/-- From a tower of frames that make no value, no more is visible than from beneath it. -/
theorem Tower.conserves {fs frames : List Frame} {ls layers : List Layer}
    (h : Tower Conserves fs ls frames layers) (hls : (through ls).IsSolvent) :
    (through layers).IsSolvent ∧ (through layers).wealth ≤ (through ls).wealth := by
  induction h with
  | ground => exact ⟨hls, le_rfl⟩
  | storey _ htop ih => exact ⟨htop.solvent, htop.wealth_le.trans ih.2⟩

/-- What the first frame leaves behind when it has come to its end. -/
theorem Tower.conserves_leave {rules : CreationRules} {a : Activity} {ls : List Layer}
    (h : Tower Conserves [] ls [a.frame] a.world.layers) (hleft : a.frame.status.IsLeft)
    (hne : ls ≠ []) (hls : (through ls).IsSolvent) :
    let w := ((a.finish rules).leave []).world
    w.layers.length = ls.length ∧ View.IsSolvent w.get? ∧
      View.wealth w.get? ≤ (through ls).wealth ∧
      ((a.finish rules).frame.selfDestructs = [] → View.wealth w.get? = (through ls).wealth) := by
  intro w
  obtain ⟨hlength, htop, hkept | ⟨heffects, hview⟩⟩ := h.leave_last rules hleft hne
  · exact ⟨hlength, hkept ▸ hls, by rw [hkept], fun _ => by rw [hkept]⟩
  · have hended := htop.ended a.frame.output
    rw [show w.get? = _ from hview]
    refine ⟨hlength, hended.solvent, hended.wealth_le, fun hnone => hended.wealth_eq ?_⟩
    rw [← hnone]
    exact (congrArg Prod.snd heffects).symm

namespace World

variable {w w' : World}

theorem support_balance (w : World) : (View.balance w.get?).support ⊆ ↑w.addresses.toFinset := by
  intro a ha
  by_contra hmem
  exact ha (balance_of_not_mem (by simpa using hmem))

/-- The wealth of a world is that of what is visible. -/
theorem wealth_eq (w : World) : w.wealth = View.wealth w.get? := by
  have hnodup : w.addresses.Nodup := nodup_eraseDups _
  rw [View.wealth, finsum_eq_sum_of_support_subset _ w.support_balance,
    List.sum_toFinset _ hnodup, sum_balance_addresses]

theorem isSolvent (h : w.IsNatural) : View.IsSolvent w.get? where
  finite := w.addresses.toFinset.finite_toSet.subset w.support_balance
  balance_nonneg := balance_nonneg_of_visible fun a account hv => (h a account hv).balance

theorem lowest_of_suffix (h : w.layers <:+ w'.layers) : w'.lowest w.layers.length = w := by
  obtain ⟨upper, hupper⟩ := h
  rw [lowest, ← hupper, List.length_append, Nat.add_sub_cancel, List.drop_left]
  rfl

/-- The lowest layer is the root. -/
theorem lowest_one (w : World) : w.lowest 1 = w.bottom :=
  lowest_of_suffix (w := w.bottom)
    (List.singleton_suffix_iff_getLast?_eq_some.2 (getLast?_layers w))

end World

/-! A frame with negative gas comes no further than the first operation. -/

namespace Machine
open Activity

variable {rules : CreationRules} {s t : Machine}

/-- At most one frame is open, which has negative gas and moves no negative value. -/
def IsSpent (m : Machine) : Prop :=
  ∀ f fs, m.frames = f :: fs → fs = [] ∧ f.gas < 0 ∧ 0 ≤ f.context.value

theorem IsSpent.move (h : s.IsSpent) (hmove : Move rules s t) : t.IsSpent := by
  cases hmove with
  | @start a below hstatus =>
    obtain ⟨rfl, hspent⟩ := h _ _ rfl
    rintro _ _ ⟨⟩
    rcases start_cases rules a with ⟨reason, -, hstart⟩ | ⟨w, -, hstart⟩ <;> rw [hstart]
    · exact ⟨rfl, hspent⟩
    · exact ⟨rfl, hspent⟩
  | runOff below =>
    obtain ⟨rfl, hspent⟩ := h _ _ rfl
    rintro _ _ ⟨⟩
    exact ⟨rfl, hspent⟩
  | @step a a' byte below _ _ hstep =>
    cases (Exec.step_refuses (h _ _ rfl).2.1 byte).of_ok hstep
  | @open_ a a' byte child below _ _ hstep =>
    cases (Exec.step_refuses (h _ _ rfl).2.1 byte).of_ok hstep
  | @halt a a' byte reason below _ _ hstep =>
    obtain ⟨rfl, hspent⟩ := h _ _ rfl
    obtain ⟨rfl, -⟩ := (Exec.step_refuses hspent.1 byte).of_error hstep
    rintro _ _ ⟨⟩
    exact ⟨rfl, hspent⟩
  | close below =>
    obtain ⟨rfl, -⟩ := h _ _ rfl
    rintro _ _ ⟨⟩

theorem IsSpent.of_reaches (h : s.IsSpent) (hreach : Reaches rules s t) : t.IsSpent := by
  induction hreach with
  | refl => exact h
  | tail _ hmove ih => exact ih.move hmove

/-- The last move of a run brings its only frame to its end. -/
theorem exists_leave (hreach : Reaches rules s t) (hs : s.frames ≠ []) (ht : t.frames = []) :
    ∃ a : Activity, Reaches rules s (a.atop []) ∧ a.frame.status.IsLeft ∧
      t = (a.finish rules).leave [] := by
  cases hreach with
  | refl => exact absurd ht hs
  | tail hbefore hmove =>
    cases hmove with
    | start | runOff | step | open_ | halt => cases ht
    | @close a below hleft =>
      cases below with
      | nil => exact ⟨a, hbefore, hleft, rfl⟩
      | cons opener rest => cases ht

end Machine

namespace Meter
open Machine

variable {σ : Type} {m : Meter} {code : Bytes} {world : World} {gasLimit : Int} {t : Machine}
  {a : Activity}

/-- No frame of a launch moves a negative value. -/
theorem value_nonneg (hblock : m.block.Sound .natural) (hworld : world.IsNatural)
    (hreach : Reaches {} (m.opening code world gasLimit) t) :
    ∀ f ∈ t.frames, 0 ≤ f.context.value := by
  intro f hf
  by_cases hgas : 0 ≤ m.initialGas gasLimit
  · obtain ⟨k, -, hstarts⟩ := starts_natural code hblock hworld hgas
    obtain ⟨n, hsound, -⟩ := (hstarts.runs hreach).sound
    exact (hsound.frames f hf).context.value
  · have hopening : (m.opening code world gasLimit).IsSpent := by
      rintro _ _ ⟨⟩
      exact ⟨rfl, not_le.1 hgas, le_rfl⟩
    obtain ⟨g, gs, hframes⟩ := List.exists_cons_of_ne_nil (List.ne_nil_of_mem hf)
    obtain ⟨rfl, -, hvalue⟩ := hopening.of_reaches hreach g gs hframes
    rw [hframes, List.mem_singleton] at hf
    rwa [hf]

theorem tower_of_reaches (hblock : m.block.Sound .natural) (hworld : world.IsNatural)
    (hreach : Reaches {} (m.opening code world gasLimit) t) (ht : t.frames ≠ []) :
    Tower Conserves [] world.layers t.frames t.world.layers := by
  have hsolvent := World.isSolvent hworld
  have hopening : Tower Conserves [] world.layers (m.opening code world gasLimit).frames
      (m.opening code world gasLimit).world.layers :=
    opening_tower ⟨le_rfl, hsolvent, le_rfl, fun _ => rfl⟩
  exact hopening.of_reachesAbove (Conserves.stable {}) Nat.one_pos (Reaches.above_zero hreach ht)
    fun u hu => value_nonneg hblock hworld (ReachesAbove.reaches hu)

/-- What a launch leaves behind when its first frame has come to its end. -/
theorem conserves_of_leave (hblock : m.block.Sound .natural) (hworld : world.IsNatural)
    (hreach : Reaches {} (m.opening code world gasLimit) (a.atop []))
    (hleft : a.frame.status.IsLeft) :
    let w := ((a.finish {}).leave []).world
    w.layers.length = world.layers.length ∧ View.IsSolvent w.get? ∧ w.wealth ≤ world.wealth ∧
      ((a.finish {}).frame.selfDestructs = [] → w.wealth = world.wealth) := by
  have htower := tower_of_reaches hblock hworld hreach (List.cons_ne_nil _ _)
  intro w
  rw [World.wealth_eq, World.wealth_eq]
  exact htower.conserves_leave hleft (List.cons_ne_nil _ _) (World.isSolvent hworld)

theorem conserves_of_reaches (hblock : m.block.Sound .natural) (hworld : world.IsNatural)
    (hreach : Reaches {} (m.opening code world gasLimit) t) :
    View.IsSolvent t.world.get? ∧ t.world.wealth ≤ world.wealth := by
  by_cases ht : t.frames = []
  · obtain ⟨a, hbefore, hleft, rfl⟩ := exists_leave hreach opening_frames_ne_nil ht
    obtain ⟨-, hsolvent, hle, -⟩ := conserves_of_leave hblock hworld hbefore hleft
    exact ⟨hsolvent, hle⟩
  · rw [World.wealth_eq, World.wealth_eq]
    exact (tower_of_reaches hblock hworld hreach ht).conserves (World.isSolvent hworld)

/-- What a launch has made of its world when it is over. -/
theorem lowest_conserves (see : Observer σ) (seen : σ) (hblock : m.block.Sound .natural)
    (hworld : world.IsNatural) {round : Round σ}
    (hround : m.launch see code world gasLimit seen = round) :
    let w := round.machine.world.lowest world.layers.length
    w.wealth ≤ world.wealth ∧ (round.first.selfDestructs = [] → w.wealth = world.wealth) := by
  rcases ends_or_suffix hround with ⟨a, hreach, hleft, hframe, hmachine⟩ | hsuffix
  · have hfirst : round.first = (a.finish {}).frame := by
      rw [Round.first, hmachine, hframe]
      rfl
    obtain ⟨hlength, -, hle, heq⟩ := conserves_of_leave hblock hworld hreach hleft
    rw [hfirst, hmachine, ← hlength, World.lowest_of_suffix (List.suffix_refl _)]
    exact ⟨hle, heq⟩
  · rw [World.lowest_of_suffix hsuffix]
    exact ⟨le_rfl, fun _ => rfl⟩

/-- A launch makes no value. In every state of it no visible account is in debt, and all hold no
more together than the accounts of the given world held before. When it is over, the accounts of
that world hold no more than before, and as much if its first frame has ended no contract. -/
theorem launch_conserves (m : Meter) (see : Observer σ) (code : Bytes) (world : World)
    (gasLimit : Int) (seen : σ) (hblock : m.block.Sound .natural) (hworld : world.IsNatural) :
    let round := m.launch see code world gasLimit seen
    let after := round.machine.world.lowest world.layers.length
    (∀ t, Reaches {} (m.opening code world gasLimit) t →
      (∀ x account, t.world.get? x = some account → 0 ≤ account.balance) ∧
        t.world.wealth ≤ world.wealth) ∧
    after.wealth ≤ world.wealth ∧
    (round.first.selfDestructs = [] → after.wealth = world.wealth) := by
  refine ⟨fun t hreach => ?_, lowest_conserves see seen hblock hworld rfl⟩
  obtain ⟨hsolvent, hle⟩ := conserves_of_reaches hblock hworld hreach
  refine ⟨fun x account hv => ?_, hle⟩
  have hbalance := hsolvent.balance_nonneg x
  rwa [View.balance, hv] at hbalance

def payingWorld : World :=
  (Fixture.world payingCall).write Fixture.receiver (some { balance := 1, code := payingCall })

theorem payingWorld_isNatural : payingWorld.IsNatural := by
  intro a account h
  rw [payingWorld, World.get?_write] at h
  split_ifs at h
  · cases h
    exact ⟨by decide, le_rfl, fun _ => le_rfl⟩
  · exact Fixture.world_isNatural payingCall a account h

theorem launch_conserves_payingCall :
    let world := (({} : Meter).launch .blind payingCall payingWorld 100 ()).machine.world.bottom
    (Block.Sound .natural ({} : Meter).block ∧ payingWorld.IsNatural) ∧
    (world.account Fixture.receiver).balance = 0 ∧
    (world.account Fixture.returning).balance = Fixture.contractBalance + 1 ∧
    world.wealth = payingWorld.wealth := by
  have hblock := Block.sound_default .natural
  have hworld := payingWorld_isNatural
  have hended :
      (({} : Meter).launch .blind payingCall payingWorld 100 ()).first.selfDestructs.isEmpty =
        true := by
    decide +kernel
  obtain ⟨-, -, hkept⟩ := launch_conserves {} .blind payingCall payingWorld 100 () hblock hworld
  have hwealth := hkept (List.isEmpty_iff.1 hended)
  rw [show payingWorld.layers.length = 1 from rfl, World.lowest_one] at hwealth
  exact ⟨⟨hblock, hworld⟩, by decide +kernel, by decide +kernel, hwealth⟩

end Meter
end Gasometer
