import Gasometer.Proofs.Conservation
import Gasometer.Proofs.StackEffects

/-!
# Confinement of changes

A run changes the accounts whose addresses its frames have, and the balances of those to which
contracts leave what they hold when they end. Every other account is as it was. This is shown for
what one operation does and for every other part of the life of a frame, and holds of a whole run
by the towers of its frames. It needs no numbers to be sound.
-/
namespace Gasometer
open World (through)

/-- Two accounts that differ in their balances at most. -/
structure Account.Alike (a b : Account) : Prop where
  nonce : a.nonce = b.nonce
  code : a.code = b.code
  storage : a.storage = b.storage

namespace Account.Alike

variable {a b c : Account}

theorem refl (a : Account) : a.Alike a := ⟨rfl, rfl, rfl⟩

theorem trans (h : a.Alike b) (h' : b.Alike c) : a.Alike c :=
  ⟨h.nonce.trans h'.nonce, h.code.trans h'.code, h.storage.trans h'.storage⟩

end Account.Alike

namespace View

variable {v : View} {c : Context} {rules : CreationRules} {x : Address}

theorem modify_of_ne {a : Address} (h : x ≠ a) (f : Account → Account) : v.modify a f x = v x :=
  put_of_ne v h.symm _

theorem account_congr {v w : View} (h : v x = w x) : v.account x = w.account x := by
  rw [account, h, account]

/-- Moving the value of a frame changes its account, and its sender's if there is a value. -/
theorem paid_of_ne (haddress : x ≠ c.address) (hsender : c.value ≠ 0 → x ≠ c.sender) :
    v.paid c x = v x := by
  unfold paid
  split_ifs with hfree
  · exact modify_of_ne haddress _
  · rw [not_or] at hfree
    rw [modify_of_ne haddress, modify_of_ne (hsender hfree.1)]

theorem claimed_of_ne (h : x ≠ c.address) : v.claimed rules c x = v x := by
  unfold claimed
  cases c.kind with
  | messageCall => rfl
  | contractCreation => exact modify_of_ne h _

theorem deposited_of_ne (h : x ≠ c.address) (output : Bytes) : v.deposited c output x = v x := by
  unfold deposited
  cases c.kind with
  | messageCall => rfl
  | contractCreation => exact modify_of_ne h _

/-- Only contracts that have ended are removed. -/
theorem swept_of_not_mem {ended : List Address} (h : x ∉ ended) : v.swept c ended x = v x := by
  unfold swept
  split_ifs
  · induction ended generalizing v with
    | nil => rfl
    | cons a r ih =>
      rw [List.mem_cons, not_or] at h
      rw [List.foldl_cons, ih h.2, put_of_ne v (Ne.symm h.1)]
  · rfl

/-- Two views that differ in named accounts and in the balances of heirs at most. -/
structure SameBut (named heirs : Address → Prop) (v w : View) : Prop where
  kept : ∀ x, ¬ named x → ¬ heirs x → v x = w x
  alike : ∀ x, ¬ named x → (v.account x).Alike (w.account x)

namespace SameBut

variable {named heirs : Address → Prop} {u v w : View}

theorem of_named (h : ∀ x, ¬ named x → v x = w x) : v.SameBut named heirs w where
  kept x hx _ := h x hx
  alike x hx := by
    rw [account_congr (h x hx)]
    exact .refl _

theorem refl (v : View) : v.SameBut named heirs v := .of_named fun _ _ => rfl

theorem trans (h : u.SameBut named heirs v) (h' : v.SameBut named heirs w) :
    u.SameBut named heirs w where
  kept x hx hheir := (h.kept x hx hheir).trans (h'.kept x hx hheir)
  alike x hx := (h.alike x hx).trans (h'.alike x hx)

end SameBut
end View

theorem Frame.mem_uniteAddresses {old new : List Address} {x : Address} :
    x ∈ uniteAddresses old new ↔ x ∈ old ∨ x ∈ new := by
  induction new generalizing old with
  | nil => simp [uniteAddresses]
  | cons a r ih =>
    have hadded : x ∈ (if a ∈ old then old else a :: old) ↔ x ∈ old ∨ x = a := by
      split_ifs with ha
      · exact (or_iff_left_of_imp fun hx => hx ▸ ha).symm
      · rw [List.mem_cons, or_comm]
    rw [uniteAddresses, List.foldl_cons, ← uniteAddresses, ih, hadded, List.mem_cons, or_assoc]

namespace Deed

variable {o o' : Outward} {child? : Option Frame} {child : Frame} {x : Address}

/-- An operation changes no account but that of its frame in anything but the balance. -/
theorem alike (h : Deed o child? o') (hx : x ≠ o.context.address) :
    (o'.view.account x).Alike (o.view.account x) := by
  cases h with
  | works | records | calls => exact .refl _
  | stores | creates =>
    rw [View.account_congr (View.modify_of_ne hx _)]
    exact .refl _
  | ends heir =>
    rw [View.account_congr (View.modify_of_ne hx _), View.account_modify]
    split_ifs with hheir
    · subst hheir
      exact ⟨rfl, rfl, rfl⟩
    · exact .refl _

/-- A frame that is opened with a value gets it from its opener. -/
theorem payer (h : Deed o (some child) o') (hvalue : child.context.value ≠ 0) :
    child.context.sender = o.context.address := by
  rcases h with _ | _ | _ | _ | h | h
  · rename_i kind
    obtain ⟨target, input, value, outOffset, outSize, gas⟩ := h
    have hkind : kind ≠ .delegatecall := by
      rintro rfl
      exact hvalue rfl
    exact if_neg hkind
  · obtain ⟨place, number, code, value, gas, salt⟩ := h
    rfl

/-- Only the contract of a frame ends in it. -/
theorem ended (h : Deed o child? o') (hx : x ∈ o'.selfDestructs) :
    x ∈ o.selfDestructs ∨ x = o.context.address := by
  cases h with
  | ends heir =>
    rcases Frame.mem_uniteAddresses.1 hx with hold | hnew
    · exact .inl hold
    · exact .inr (List.mem_singleton.1 hnew)
  | works | stores | records | calls | creates => exact .inl hx

/-- A frame that is opened has ended no contract yet. -/
theorem opened_selfDestructs (h : Deed o (some child) o') : child.selfDestructs = [] := by
  rcases h with _ | _ | _ | _ | h | h
  · obtain ⟨target, input, value, outOffset, outSize, gas⟩ := h
    rfl
  · obtain ⟨place, number, code, value, gas, salt⟩ := h
    rfl

end Deed

/-- Whether a frame has changed named accounts only, apart from the balances of heirs. -/
structure Confined (named heirs : Address → Prop) (o : Outward) (v : View) : Prop where
  address : named o.context.address
  payer : o.context.value ≠ 0 → named o.context.sender
  ended : ∀ x ∈ o.selfDestructs, named x
  view : o.view.SameBut named heirs v

namespace Confined

variable {named heirs : Address → Prop} {o o' inner : Outward} {v v' : View} {x : Address}
  {child? : Option Frame} {child : Frame}

theorem ne_of_named {a : Address} (hx : ¬ named x) (ha : named a) : x ≠ a := by
  rintro rfl
  exact hx ha

theorem of_view (h : Confined named heirs o v) (hv : v'.SameBut named heirs o.view) :
    Confined named heirs { o with view := v' } v := { h with view := hv.trans h.view }

theorem started (h : Confined named heirs o v) (rules : CreationRules) :
    Confined named heirs (o.started rules) v := by
  refine h.of_view (.of_named fun x hx => ?_)
  have haddress := ne_of_named hx h.address
  rw [View.claimed_of_ne haddress]
  exact View.paid_of_ne haddress fun hvalue => ne_of_named hx (h.payer hvalue)

theorem does (h : Confined named heirs o v) (hdoes : Does heirs o child? o') :
    Confined named heirs o' v := by
  have hview : o'.view.SameBut named heirs o.view :=
    ⟨fun x hx hheir => hdoes.spared x (ne_of_named hx h.address) hheir,
      fun x hx => hdoes.deed.alike (ne_of_named hx h.address)⟩
  have hcontext := hdoes.deed.context
  refine ⟨by rw [hcontext]; exact h.address, by rw [hcontext]; exact h.payer, fun x hx => ?_,
    hview.trans h.view⟩
  rcases hdoes.deed.ended hx with hold | rfl
  · exact h.ended x hold
  · exact h.address

/-- A frame begins with the view of its opener. -/
theorem opens (h : Confined named heirs o v) (hdeed : Deed o (some child) o')
    (hchild : named child.context.address) :
    Confined named heirs (child.outward o'.view) o'.view where
  address := hchild
  payer hvalue := by
    rw [show (child.outward o'.view).context.sender = _ from hdeed.payer hvalue]
    exact h.address
  ended x hx := by
    rw [show (child.outward o'.view).selfDestructs = [] from hdeed.opened_selfDestructs] at hx
    cases hx
  view := .refl _

theorem ended_output (h : Confined named heirs o v) (output : Bytes) :
    Confined named heirs (o.ended output) v := by
  refine h.of_view (.of_named fun x hx => ?_)
  rw [View.swept_of_not_mem fun hmem => hx (h.ended x hmem)]
  exact View.deposited_of_ne (ne_of_named hx h.address) output

theorem joined (h : Confined named heirs o v) (hinner : Confined named heirs inner o.view) :
    Confined named heirs (o.joined inner) v where
  address := h.address
  payer := h.payer
  ended x hx := (Frame.mem_uniteAddresses.1 hx).elim (h.ended x) (hinner.ended x)
  view := hinner.view.trans h.view

/-- Whatever frames at named addresses do stays confined. -/
theorem upheld (rules : CreationRules) (named heirs : Address → Prop) :
    Upheld rules (fun c => named c.address) (Does heirs) (Confined named heirs) where
  start h _ := h.started rules
  deed h hdoes := h.does hdoes
  opens h hdoes hchild := h.opens hdoes.deed hchild
  joins h hinner output := h.joined (hinner.ended_output output)

end Confined

namespace Machine

/-- Whether an open frame has this address. -/
def Names (s : Machine) (x : Address) : Prop := ∃ f ∈ s.frames, f.context.address = x

/-- Whether a contract ends in this state and leaves its balance to this address: the uppermost word
on its stack. -/
def Bequeaths (s : Machine) (x : Address) : Prop :=
  ∃ (a a' : Activity) (child? : Option Frame) (below : List Frame), s = a.atop below ∧
    a.frame.status = .executing ∧ a.nextByte? = some Opcode.selfdestruct.byte ∧
    Exec.step Opcode.selfdestruct.byte a = .ok child? a' ∧
    ∃ item ∈ a.frame.stack.items.head?, Address.ofInt item = x

/-- An operation changes the account of its frame, and that to which a contract leaves its
balance. -/
theorem performs_does {heirs : Address → Prop} {s : Machine}
    (hheirs : ∀ x, s.Bequeaths x → heirs x) : s.Performs (Does heirs) := by
  intro a a' byte child? below hs hstatus hbyte hstep
  obtain ⟨op, rfl⟩ := Exec.exists_op_of_step hstep
  obtain ⟨info, -, -, hexecute⟩ := Exec.step_eq_ok hstep
  have hdoes := Exec.execute_does heirs op (a := Exec.paid info a) rfl ?_
  · rwa [Exec.Yields, hexecute] at hdoes
  · rintro rfl item hitem
    exact hheirs _ ⟨a, a', child?, below, hs, hstatus, hbyte, hstep, item, hitem, rfl⟩

theorem Bequeaths.exists_item {s : Machine} {x : Address} (h : s.Bequeaths x) :
    ∃ f ∈ s.frames, ∃ item ∈ f.stack.items.head?, Address.ofInt item = x := by
  obtain ⟨a, a', child?, below, rfl, -, -, -, item, hitem, hx⟩ := h
  exact ⟨a.frame, List.mem_cons_self .., item, hitem, hx⟩

/-! The states of a short run can be listed. -/

/-- The states that at most `n` moves lead to, in order. -/
def path (rules : CreationRules) : Nat → Machine → List Machine
  | 0, s => [s]
  | n + 1, s => s :: ((s.moved? rules).map (path rules n)).getD []

/-- A path that has come to its end has all states that moves reach. -/
theorem mem_path {rules : CreationRules} {n : Nat} {s t : Machine}
    (hlength : (path rules n s).length ≤ n) (h : Reaches rules s t) : t ∈ path rules n s := by
  induction n generalizing s with
  | zero => cases hlength
  | succ n ih =>
    rcases Relation.ReflTransGen.cases_head h with rfl | ⟨u, hmove, hreach⟩
    · exact List.mem_cons_self ..
    · rw [path, move_iff.1 hmove] at hlength ⊢
      simp only [Option.map_some, Option.getD_some, List.length_cons] at hlength ⊢
      exact List.mem_cons_of_mem _ (ih (by omega) hreach)

end Machine

namespace Meter
open Machine

variable {σ : Type} {m : Meter} {code : Bytes} {world : World} {gasLimit : Int} {t : Machine}
  {named heirs : Address → Prop}

theorem confined_tower (hnamed : ∀ t, Reaches {} (m.opening code world gasLimit) t →
      ∀ x, t.Names x → named x)
    (hheirs : ∀ t, Reaches {} (m.opening code world gasLimit) t → ∀ x, t.Bequeaths x → heirs x)
    (hreach : Reaches {} (m.opening code world gasLimit) t) (ht : t.frames ≠ []) :
    Tower (Confined named heirs) [] world.layers t.frames t.world.layers := by
  have haddress : named Fixture.receiver := hnamed _ .refl _ ⟨_, List.mem_singleton_self _, rfl⟩
  have hopening : Tower (Confined named heirs) [] world.layers
      (m.opening code world gasLimit).frames (m.opening code world gasLimit).world.layers :=
    opening_tower ⟨haddress, fun h => absurd rfl h, by rintro x ⟨⟩, .refl _⟩
  refine hopening.of_upheld (Confined.upheld {} named heirs) Nat.one_pos
    (Reaches.above_zero hreach ht) (fun u hu => ?_) fun u hu f hf => ?_
  · exact performs_does (hheirs u (ReachesAbove.reaches hu))
  · exact hnamed u (ReachesAbove.reaches hu) _ ⟨f, hf, rfl⟩

/-- What a launch leaves at an address when it is over. -/
theorem lowest_confined {see : Observer σ} {seen : σ} {round : Round σ}
    (hround : m.launch see code world gasLimit seen = round)
    (hnamed : ∀ t, Reaches {} (m.opening code world gasLimit) t → ∀ x, t.Names x → named x)
    (hheirs : ∀ t, Reaches {} (m.opening code world gasLimit) t → ∀ x, t.Bequeaths x → heirs x) :
    View.SameBut named heirs (round.machine.world.lowest world.layers.length).get? world.get? := by
  rcases ends_or_suffix hround with ⟨a, hreach, hleft, -, hmachine⟩ | hsuffix
  · have htower := confined_tower hnamed hheirs hreach (List.cons_ne_nil _ _)
    obtain ⟨hlength, htop, hview⟩ := htower.leave_last {} hleft (List.cons_ne_nil _ _)
    rw [hmachine, ← hlength, World.lowest_of_suffix (List.suffix_refl _)]
    rcases hview with hkept | ⟨-, hview⟩
    · rw [hkept]
      exact .refl _
    · rw [hview]
      exact (htop.ended_output a.frame.output).view
  · rw [World.lowest_of_suffix hsuffix]
    exact .refl _

/-- A launch changes nothing at an address that no open frame has had, but for the balance of one to
which a contract has left its own. -/
theorem launch_confined (m : Meter) (see : Observer σ) (code : Bytes) (world : World)
    (gasLimit : Int) (seen : σ) (x : Address)
    (hnamed : ∀ t, Reaches {} (m.opening code world gasLimit) t → ¬ t.Names x) :
    let after :=
      (m.launch see code world gasLimit seen).machine.world.lowest world.layers.length
    ((∀ t, Reaches {} (m.opening code world gasLimit) t → ¬ t.Bequeaths x) →
      after.get? x = world.get? x) ∧
    ((after.account x).nonce = (world.account x).nonce ∧
      (after.account x).code = (world.account x).code ∧
      (after.account x).storage = (world.account x).storage) := by
  intro after
  let named (y : Address) : Prop := ∃ t, Reaches {} (m.opening code world gasLimit) t ∧ t.Names y
  let heirs (y : Address) : Prop :=
    ∃ t, Reaches {} (m.opening code world gasLimit) t ∧ t.Bequeaths y
  have hsame : View.SameBut named heirs after.get? world.get? :=
    lowest_confined rfl (fun t ht y hy => ⟨t, ht, hy⟩) fun t ht y hy => ⟨t, ht, hy⟩
  have hx : ¬ named x := fun ⟨t, ht, hy⟩ => hnamed t ht hy
  have halike := hsame.alike x hx
  exact ⟨fun hheirs => hsame.kept x hx fun ⟨t, ht, hy⟩ => hheirs t ht hy,
    halike.nonce, halike.code, halike.storage⟩

/-- Ends the contract and leaves its balance to the reverting one. -/
def endingCode : Bytes := #[0x62, 0x0d, 0xea, 0xd5, 0xff]

def endingWorld : World :=
  (Fixture.world endingCode).write Fixture.receiver (some { balance := 5, code := endingCode })

theorem launch_confined_endingCode :
    let s := ({} : Meter).opening endingCode endingWorld 100
    let after := (({} : Meter).launch .blind endingCode endingWorld 100 ()).machine.world.lowest 1
    ((∀ t, Reaches {} s t → ¬ t.Names Fixture.returning) ∧
      (∀ t, Reaches {} s t → ¬ t.Bequeaths Fixture.returning) ∧
      ∀ t, Reaches {} s t → ¬ t.Names Fixture.reverting) ∧
    (after.get? Fixture.returning = endingWorld.get? Fixture.returning ∧
      (after.account Fixture.reverting).code = Fixture.revertingCode ∧
      (after.account Fixture.reverting).balance = Fixture.contractBalance + 5 ∧
      (after.get? Fixture.receiver).isNone) := by
  intro s after
  have hlength : (path {} 5 s).length ≤ 5 := by decide +kernel
  have hnames : ∀ t ∈ path {} 5 s, ∀ f ∈ t.frames, f.context.address ≠ Fixture.returning ∧
      f.context.address ≠ Fixture.reverting := by decide +kernel
  have hitems : ∀ t ∈ path {} 5 s, ∀ f ∈ t.frames, ∀ item ∈ f.stack.items.head?,
      Address.ofInt item ≠ Fixture.returning := by decide +kernel
  have hreturning : ∀ t, Reaches {} s t → ¬ t.Names Fixture.returning :=
    fun t ht ⟨f, hf, h⟩ => (hnames t (mem_path hlength ht) f hf).1 h
  have hreverting : ∀ t, Reaches {} s t → ¬ t.Names Fixture.reverting :=
    fun t ht ⟨f, hf, h⟩ => (hnames t (mem_path hlength ht) f hf).2 h
  have hheirs : ∀ t, Reaches {} s t → ¬ t.Bequeaths Fixture.returning := by
    intro t ht hends
    obtain ⟨f, hf, item, hitem, h⟩ := hends.exists_item
    exact hitems t (mem_path hlength ht) f hf item hitem h
  have hkept := (launch_confined {} .blind endingCode endingWorld 100 () _ hreturning).1 hheirs
  have halike := (launch_confined {} .blind endingCode endingWorld 100 () _ hreverting).2
  refine ⟨⟨hreturning, hheirs, hreverting⟩, hkept, halike.2.1, ?_, ?_⟩ <;> decide +kernel

end Meter
end Gasometer
