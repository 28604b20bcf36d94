import Gasometer.Proofs.Beginnings
import Gasometer.Proofs.Confinement
import Gasometer.Proofs.Conservation

/-!
# Permanence of accounts

No frame lets the nonce of an account fall, or changes code that was there, or removes an account
other than a contract that has ended. The nonce and the code stay because a contract is made only at
an address with neither: this is checked before the frame that makes it begins, and what the frame
does there until it deposits its code is done to an account that was free beneath its layer.
-/
namespace Gasometer
open World (through)

/-- What an account keeps: its nonce does not fall, and its code stays if it had a nonce or code. -/
structure Account.Persists (a b : Account) : Prop where
  nonce : a.nonce ≤ b.nonce
  code : Activity.isTaken (some a) = true → b.code = a.code

namespace Account.Persists

variable {a b c : Account}

theorem refl (a : Account) : a.Persists a := ⟨le_rfl, fun _ => rfl⟩

/-- An account that stands in the way of a contract goes on to do so. -/
theorem isTaken (h : a.Persists b) (ha : Activity.isTaken (some a) = true) :
    Activity.isTaken (some b) = true := by
  have hcode := h.code ha
  simp only [Activity.isTaken, Bool.or_eq_true, decide_eq_true_eq] at ha ⊢
  rw [hcode]
  exact ha.imp_left fun hnonce => lt_of_lt_of_le hnonce h.nonce

theorem trans (h : a.Persists b) (h' : b.Persists c) : a.Persists c :=
  ⟨h.nonce.trans h'.nonce, fun ha => (h'.code (h.isTaken ha)).trans (h.code ha)⟩

/-- Whatever is done to an account that stands in no way, it persists if its nonce does not fall. -/
theorem of_free (hfree : Activity.isTaken (some a) = false) (hnonce : a.nonce ≤ b.nonce) :
    a.Persists b := ⟨hnonce, fun ha => absurd ha (Bool.eq_false_iff.1 hfree)⟩

end Account.Persists

namespace View

variable {u v w : View} {ended ended' : List Address} {c : Context}

/-- All accounts are still there and have persisted, but for these. -/
def Lasts (v w : View) (ended : List Address) : Prop :=
  ∀ x account, v x = some account → x ∉ ended → ∃ account', w x = some account' ∧
    account.Persists account'

namespace Lasts

theorem refl (v : View) (ended : List Address) : v.Lasts v ended :=
  fun _ account hx _ => ⟨account, hx, .refl account⟩

theorem trans (h : u.Lasts v ended) (h' : v.Lasts w ended) : u.Lasts w ended := by
  intro x account hx hmem
  obtain ⟨account', hx', hpersists⟩ := h x account hx hmem
  obtain ⟨account'', hx'', hpersists'⟩ := h' x account' hx' hmem
  exact ⟨account'', hx'', hpersists.trans hpersists'⟩

theorem mono (h : v.Lasts w ended) (hended : ended ⊆ ended') : v.Lasts w ended' :=
  fun x account hx hmem => h x account hx (mt (hended ·) hmem)

/-- A change of one account that lets it persist. -/
theorem modify (h : v.Lasts w ended) {a : Address} {f : Account → Account}
    (hf : ∀ account account', v a = some account → w a = some account' →
      account.Persists account' → account.Persists (f account')) :
    v.Lasts (w.modify a f) ended := by
  intro x account hx hmem
  obtain ⟨account', hx', hpersists⟩ := h x account hx hmem
  by_cases heq : a = x
  · subst heq
    refine ⟨f account', ?_, hf account account' hx hx' hpersists⟩
    rw [View.modify, put_self, View.account, hx']
    rfl
  · exact ⟨account', (put_of_ne _ heq _).trans hx', hpersists⟩

/-- A change of one account that leaves its nonce and its code as they are. -/
theorem modify_rest (h : v.Lasts w ended) {a : Address} {f : Account → Account}
    (hnonce : ∀ account, (f account).nonce = account.nonce)
    (hcode : ∀ account, (f account).code = account.code) : v.Lasts (w.modify a f) ended :=
  h.modify fun _ account' _ _ hpersists =>
    ⟨(hnonce account').symm ▸ hpersists.nonce, fun ha => (hcode account').trans (hpersists.code ha)⟩

theorem paid (h : v.Lasts w ended) (c : Context) : v.Lasts (w.paid c) ended := by
  unfold View.paid
  split_ifs
  · refine h.modify_rest ?_ ?_ <;> exact fun _ => rfl
  · refine (h.modify_rest ?_ ?_).modify_rest ?_ ?_ <;> exact fun _ => rfl

/-- The account at an address that was free, whatever its code is now. -/
theorem modify_free (h : v.Lasts w ended) {a : Address} {f : Account → Account}
    (hfree : Activity.isTaken (v a) = false)
    (hnonce : ∀ account account', v a = some account → account.nonce ≤ account'.nonce →
      account.nonce ≤ (f account').nonce) :
    v.Lasts (w.modify a f) ended := by
  refine h.modify fun account account' ha _ hpersists => .of_free (ha ▸ hfree) ?_
  exact hnonce account account' ha hpersists.nonce

theorem claimed (h : v.Lasts w ended) {rules : CreationRules} (hnonce : 0 ≤ rules.initialNonce)
    (hfree : v.Free c) : v.Lasts (w.claimed rules c) ended := by
  unfold View.claimed
  cases hkind : c.kind with
  | messageCall => exact h
  | contractCreation =>
    refine h.modify_free (hfree hkind) fun account account' ha _ => le_trans ?_ hnonce
    have := ha ▸ hfree hkind
    simp only [Activity.isTaken, Bool.or_eq_false_iff, decide_eq_false_iff_not] at this
    omega

theorem deposited (h : v.Lasts w ended) (hfree : v.Free c) (output : Bytes) :
    v.Lasts (w.deposited c output) ended := by
  unfold View.deposited
  cases hkind : c.kind with
  | messageCall => exact h
  | contractCreation => exact h.modify_free (hfree hkind) fun _ _ _ hnonce => hnonce

end Lasts

/-- What is removed is gone, and nothing else changes. -/
theorem swept_apply (v : View) (c : Context) (ended : List Address) (x : Address) :
    v.swept c ended x = if c.depth = 0 ∧ x ∈ ended then none else v x := by
  have hfold : ∀ (v : View), ended.foldl (fun v a => v.put a none) v x =
      if x ∈ ended then none else v x := by
    induction ended with
    | nil => exact fun v => rfl
    | cons a r ih =>
      intro v
      rw [List.foldl_cons, ih, View.put]
      by_cases hx : x ∈ r
      · simp [hx]
      · by_cases ha : a = x
        · simp [ha]
        · simp [hx, ha, Ne.symm ha]
  unfold swept
  by_cases hdepth : c.depth = 0
  · simp [hdepth, hfold]
  · simp [hdepth]

theorem Lasts.swept (h : v.Lasts w ended) : v.Lasts (w.swept c ended) ended := by
  intro x account hx hmem
  obtain ⟨account', hx', hpersists⟩ := h x account hx hmem
  exact ⟨account', by rw [swept_apply, if_neg fun hgone => hmem hgone.2, hx'], hpersists⟩

end View

/-- A frame that has begun: nothing stood in its way, and all accounts last but for those that it
has ended. -/
structure Outward.Permits (o : Outward) (v : View) : Prop where
  free : v.Free o.context
  lasts : v.Lasts o.view o.selfDestructs

namespace Outward.Permits

variable {o inner o' : Outward} {v : View} {child? : Option Frame}

theorem started {rules : CreationRules} (hnonce : 0 ≤ rules.initialNonce) {c : Context}
    (hfree : v.Free c) : ((Outward.fresh c v).started rules).Permits v where
  free := hfree
  lasts := ((View.Lasts.refl v []).paid c).claimed hnonce hfree

theorem deed (h : o.Permits v) (hdeed : Deed o child? o') : o'.Permits v := by
  refine ⟨hdeed.context ▸ h.free, ?_⟩
  cases hdeed with
  | works | records | calls => exact h.lasts
  | stores key value =>
    dsimp only
    refine h.lasts.modify_rest ?_ ?_ <;> exact fun _ => rfl
  | ends heir =>
    have hended : v.Lasts o.view (Frame.uniteAddresses o.selfDestructs [o.context.address]) :=
      h.lasts.mono fun _ hx => Frame.mem_uniteAddresses.2 (.inl hx)
    dsimp only
    refine (hended.modify_rest ?_ ?_).modify_rest ?_ ?_ <;> exact fun _ => rfl
  | creates hcreated =>
    dsimp only
    refine h.lasts.modify fun account account' _ _ hpersists => hpersists.trans ⟨?_, fun _ => rfl⟩
    exact Int.le_add_one le_rfl

theorem ended (h : o.Permits v) (output : Bytes) : (o.ended output).Permits v where
  free := h.free
  lasts := (h.lasts.deposited h.free output).swept

theorem joined (h : o.Permits v) (hinner : inner.Permits o.view) : (o.joined inner).Permits v where
  free := h.free
  lasts := (h.lasts.mono fun _ hx => Frame.mem_uniteAddresses.2 (.inl hx)).trans
    (hinner.lasts.mono fun _ hx => Frame.mem_uniteAddresses.2 (.inr hx))

theorem enduring {rules : CreationRules} (hnonce : 0 ≤ rules.initialNonce) :
    Enduring rules Outward.Permits where
  begins _ hfree := started hnonce hfree
  deed h hdeed := h.deed hdeed
  joins h hinner output := h.joined (hinner.ended output)

end Outward.Permits

/-- A run with a normal result has met no fault, and its last frame has succeeded. -/
theorem Round.succeeded_of_normal {σ : Type} {r : Round σ} {gas elapsed : Int}
    (h : (r.result gas elapsed).status = .normal) :
    r.fault = none ∧ r.frame.status = .succeeded := by
  unfold result at h
  cases hfault : r.fault with
  | some fault =>
    rw [hfault] at h
    cases h
  | none =>
    rw [hfault] at h
    refine ⟨rfl, ?_⟩
    dsimp only at h
    split at h
    · cases h
    · assumption
    · cases h

namespace Meter
open Machine

variable {σ : Type}

/-- The only frame of a launch that was not left lies at depth zero. -/
theorem depth_of_reaches {m : Meter} {code : Bytes} {world : World} {gasLimit : Int} {a : Activity}
    (hreach : Reaches {} (m.opening code world gasLimit) (a.atop [])) :
    a.frame.context.depth = 0 := by
  have hlowest := lowestContext?_of_reaches hreach (List.cons_ne_nil _ _)
  exact congrArg Context.depth (Option.some.inj hlowest)

/-- What a launch leaves behind when its first frame has succeeded: the view of that frame, without
the contracts that have ended. -/
theorem lowest_permits {m : Meter} {see : Observer σ} {code : Bytes} {world : World}
    {gasLimit : Int} {seen : σ} {round : Round σ} {gas elapsed : Int}
    (hround : m.launch see code world gasLimit seen = round)
    (hnormal : (round.result gas elapsed).status = .normal) :
    ∃ o : Outward, o.context.depth = 0 ∧ o.selfDestructs = round.first.selfDestructs ∧
      o.Permits world.get? ∧
      ∃ output, (round.machine.world.lowest world.layers.length).get? = (o.ended output).view := by
  obtain ⟨hfault, hsucceeded⟩ := Round.succeeded_of_normal hnormal
  have hends := launch_concludes m see code world gasLimit seen
  rw [hround, Round.Concludes, hfault] at hends
  obtain ⟨a, hreach, hleft, hframe, hmachine⟩ := hends
  rw [hframe] at hsucceeded
  have hpermits : Enduring {} Outward.Permits := Outward.Permits.enduring (by decide)
  obtain ⟨hlength, htop, hended, hview⟩ := (upholds_of_reaches hpermits hreach).leave_last hleft
    (List.cons_ne_nil _ _) hsucceeded
  refine ⟨a.outward, depth_of_reaches hreach, ?_, htop, a.frame.output, ?_⟩
  · rw [Round.first, hmachine, hframe]
    exact hended.symm
  · rw [hmachine, ← hlength, World.lowest_of_suffix (List.suffix_refl _)]
    exact hview

/-- A launch with a normal result removes the accounts that its first frame has ended, and no other
account of the given world. The others persist: the nonce has not fallen, and where there was a
nonce or code the code is the same. -/
theorem launch_permanent (m : Meter) (see : Observer σ) (code : Bytes) (world : World)
    (gasLimit : Int) (seen : σ) (elapsed : Int) (x : Address) (account : Account) :
    let round := m.launch see code world gasLimit seen
    let after := round.machine.world.lowest world.layers.length
    (round.result (m.initialGas gasLimit) elapsed).status = .normal →
    world.get? x = some account →
      (x ∈ round.first.selfDestructs → after.get? x = none) ∧
      (x ∉ round.first.selfDestructs → ∃ account', after.get? x = some account' ∧
        account.nonce ≤ account'.nonce ∧
        (0 < account.nonce ∨ account.code ≠ #[] → account'.code = account.code)) := by
  intro round after hnormal hx
  obtain ⟨o, hdepth, hended, hpermits, output, hafter⟩ := lowest_permits rfl hnormal
  rw [← hended, show after.get? = _ from hafter]
  refine ⟨fun hmem => ?_, fun hmem => ?_⟩
  · exact (View.swept_apply ..).trans (if_pos ⟨hdepth, hmem⟩)
  · obtain ⟨account', hx', hpersists⟩ := (hpermits.ended output).lasts x account hx hmem
    refine ⟨account', hx', hpersists.nonce, fun htaken => hpersists.code ?_⟩
    simpa [Activity.isTaken] using htaken

def endingCall : Bytes :=
  #[0x3d, 0x3d, 0x3d, 0x3d, 0x3d, 0x62, 0x0c, 0xa1, 0x1e, 0x5a, 0xf1, 0xff]

theorem launch_permanent_endingCall :
    let world := Fixture.world endingCall
    let round := ({} : Meter).launch .blind endingCall world 1000 ()
    let after := round.machine.world.lowest world.layers.length
    ((round.result (({} : Meter).initialGas 1000) 0).status = .normal ∧
      (world.get? Fixture.receiver).isSome = true ∧ (world.get? Fixture.returning).isSome = true) ∧
    after.get? Fixture.receiver = none ∧
    ∃ account, after.get? Fixture.returning = some account ∧
      account.code = (world.account Fixture.returning).code := by
  intro world round after
  have hnormal : (round.result (({} : Meter).initialGas 1000) 0).status = .normal := by
    decide +kernel
  have hreceiver : (world.get? Fixture.receiver).isSome = true := by decide +kernel
  have hreturning : (world.get? Fixture.returning).isSome = true := by decide +kernel
  have hended : Fixture.receiver ∈ round.first.selfDestructs := by decide +kernel
  have hkept : Fixture.returning ∉ round.first.selfDestructs := by decide +kernel
  obtain ⟨account, hx⟩ := Option.isSome_iff_exists.1 hreceiver
  obtain ⟨account', hx'⟩ := Option.isSome_iff_exists.1 hreturning
  obtain ⟨hgone, -⟩ := launch_permanent {} .blind endingCall world 1000 () 0 _ account hnormal hx
  obtain ⟨-, hlasts⟩ := launch_permanent {} .blind endingCall world 1000 () 0 _ account' hnormal hx'
  obtain ⟨account'', hafter, -, hcode⟩ := hlasts hkept
  have hcontract : account'.code ≠ #[] := by
    have hnonempty : (world.account Fixture.returning).code.isEmpty = false := by decide +kernel
    rw [World.account, hx'] at hnonempty
    simpa using hnonempty
  have hnone := hgone hended
  have hsame := hcode (.inr hcontract)
  refine ⟨⟨hnormal, hreceiver, hreturning⟩, ?_, account'', ?_, ?_⟩
  · simpa only [after, round] using hnone
  · simpa only [after, round] using hafter
  · rw [World.account, hx']
    exact hsame

end Meter
end Gasometer
