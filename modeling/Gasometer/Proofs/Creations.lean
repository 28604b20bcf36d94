import Gasometer.Proofs.Openings
import Gasometer.Proofs.Permanence
import Gasometer.Proofs.StaticCalls
import Gasometer.Proofs.Tenure
import Gasometer.Proofs.Trails
import Gasometer.Proofs.Warmth

/-!
# Creations

A creation is all or nothing. The frame that it opens is halted at once if an account stands in its
way. Otherwise it claims its address, and from then on the account there has a nonce, whatever the
code of the frame does, until the output of the frame is deposited there. If anything fails the
opener sees the world as it was, but for its own nonce.
-/
namespace Gasometer
open World (through)

variable {rules : CreationRules} {a a' b : Activity} {op : Opcode} {child : Frame}
  {below rest : List Frame} {v : View} {place : Address}

namespace View

theorem one_le_nonce_modify {f : Account → Account} {x : Address}
    (h : 1 ≤ (v.account place).nonce) (hf : ∀ a : Account, 1 ≤ a.nonce → 1 ≤ (f a).nonce) :
    1 ≤ ((v.modify x f).account place).nonce := by
  rw [account_modify]
  split_ifs with heq
  · rw [heq]
    exact hf _ h
  · exact h

theorem one_le_nonce_paid {c : Context} (h : 1 ≤ (v.account place).nonce) :
    1 ≤ ((v.paid c).account place).nonce := by
  unfold paid
  split_ifs
  · exact one_le_nonce_modify h fun _ => id
  · exact one_le_nonce_modify (one_le_nonce_modify h fun _ => id) fun _ => id

theorem one_le_nonce_claimed {c : Context} (hrules : 1 ≤ rules.initialNonce)
    (h : 1 ≤ (v.account place).nonce) : 1 ≤ ((v.claimed rules c).account place).nonce := by
  unfold claimed
  cases c.kind with
  | messageCall => exact h
  | contractCreation => exact one_le_nonce_modify h fun _ _ => hrules

theorem one_le_nonce_deposited {c : Context} (output : Bytes) (h : 1 ≤ (v.account place).nonce) :
    1 ≤ ((v.deposited c output).account place).nonce := by
  unfold deposited
  cases c.kind with
  | messageCall => exact h
  | contractCreation => exact one_le_nonce_modify h fun _ => id

/-- Only the first frame removes accounts. -/
theorem swept_of_depth {c : Context} (h : c.depth ≠ 0) (ended : List Address) :
    v.swept c ended = v := if_neg h

end View

/-- A deed leaves a nonce to every account that has one. -/
theorem Deed.one_le_nonce {o o' : Outward} {child? : Option Frame} (h : Deed o child? o')
    (hnonce : 1 ≤ (o.view.account place).nonce) : 1 ≤ (o'.view.account place).nonce := by
  cases h with
  | works | records | calls => exact hnonce
  | stores =>
    dsimp only
    exact View.one_le_nonce_modify hnonce fun _ => id
  | ends =>
    dsimp only
    refine View.one_le_nonce_modify (View.one_le_nonce_modify hnonce ?_) ?_ <;> exact fun _ => id
  | creates =>
    dsimp only
    refine View.one_le_nonce_modify hnonce fun account h => ?_
    exact h.trans (Int.le_add_one le_rfl)

/-- A frame above the first one, in whose view the account at an address has a nonce. -/
structure Outward.Settles (place : Address) (o : Outward) : Prop where
  depth : 0 < o.context.depth
  nonce : 1 ≤ (o.view.account place).nonce

/-- An account that has a nonce keeps one, whatever frames above the first one do. -/
theorem Outward.Settles.stable (hrules : 1 ≤ rules.initialNonce) (place : Address) :
    Stable rules (fun _ => True) fun o _ => o.Settles place where
  start h _ := ⟨h.depth, View.one_le_nonce_claimed hrules (View.one_le_nonce_paid h.nonce)⟩
  deed h hdeed := ⟨by rw [hdeed.context]; exact h.depth, hdeed.one_le_nonce h.nonce⟩
  opens {o child o' v} h hdeed _ := by
    have hchild := hdeed.depth.1
    have hdepth := h.depth
    exact ⟨show 0 < child.context.depth by omega, hdeed.one_le_nonce h.nonce⟩
  joins {o inner v} h hinner output := by
    refine ⟨h.depth, ?_⟩
    show 1 ≤ (((inner.view.deposited _ output).swept _ _).account place).nonce
    rw [View.swept_of_depth hinner.depth.ne']
    exact View.one_le_nonce_deposited output hinner.nonce

namespace Exec

/-- What a creation does outwardly when it opens a frame. -/
theorem created_of_step (hop : op = .create ∨ op = .create2)
    (h : step op.byte a = .ok (some child) a') :
    Created a.outward child ∧ a'.world.get? = View.modify a.world.get? a.frame.context.address
      fun account => { account with nonce := account.nonce + 1 } := by
  obtain ⟨info, -, -, hexecute⟩ := step_eq_ok h
  have hkind : child.context.kind = .contractCreation := by
    rcases hop with rfl | rfl
    · exact kind_of_create (show create false _ = _ from hexecute)
    · exact kind_of_create (show create true _ = _ from hexecute)
  have hdeed := deed_of_step h
  generalize ho' : a'.outward = o' at hdeed
  rcases hdeed with _ | _ | _ | _ | hcalled | hcreated
  · obtain ⟨target, input, value, outOffset, outSize, gas⟩ := hcalled
    cases hkind
  · exact ⟨hcreated, congrArg Outward.view ho'⟩

/-- A creation that opens a frame has taken its operands. -/
theorem items_of_create_step (hop : op = .create ∨ op = .create2)
    (h : step op.byte a = .ok (some child) a') :
    a'.frame.stack.items = a.frame.stack.items.drop (if op = .create then 3 else 4) := by
  obtain ⟨info, hinfo, hinputs, hexecute⟩ := step_eq_ok h
  have hplain : op.IsPlain := by rcases hop with rfl | rfl <;> rfl
  have hcounts : info.inputs = (if op = .create then 3 else 4) ∧ info.outputs = 1 := by
    rcases hop with rfl | rfl <;> cases hinfo <;> exact ⟨rfl, rfl⟩
  have hstacks := Activity.Stacks.refl (paid info a)
    (List.take_append_drop info.inputs a.frame.stack.items).symm
  rw [List.length_take_of_le (by rw [← a.frame.stack.size_eq]; exact hinputs)] at hstacks
  obtain ⟨k, hk, hafter⟩ := (offersExecute hinfo hplain).of_ok hexecute hstacks
  obtain ⟨top, htop, hitems⟩ := hafter.items
  obtain rfl : top = [] := List.length_eq_zero_iff.1 (by have := hcounts.2; omega)
  rw [← hcounts.1]
  exact hitems

end Exec

/-- A frame for a creation knows the number of its address. -/
theorem Created.exists_number {o : Outward} (h : Created o child) :
    ∃ number, child.context.kind = .contractCreation ∧
      child.context.address.toInt = .ok number ∧
      child.context.completion = .creation number := by
  obtain ⟨place, number, code, value, gas, salt, -, -, -, -, hnumber⟩ := h
  exact ⟨number, rfl, hnumber, rfl⟩

theorem Frame.resume_items_of_creation {f child : Frame} {number : Int}
    (h : child.context.completion = .creation number) :
    (f.resume child).stack.items =
      (if child.status = .succeeded then number else 0) :: f.stack.items := by
  unfold resume
  rw [h]
  dsimp only
  split_ifs <;> simp_all [Stack.items_push]

namespace Activity

/-- How a creation whose code was left comes to its end: it fails, or its output is accepted and
paid for. -/
theorem finish_of_creation (rules : CreationRules)
    (hkind : b.frame.context.kind = .contractCreation)
    (hleft : b.frame.status.IsLeft) :
    (∃ failure, (b.finish rules).frame.status = .failed failure) ∨
      ((b.finish rules).frame.status = .succeeded ∧ b.frame.output.size ≤ rules.maxCodeSize ∧
        (rules.rejectMarked && isMarked b.frame.output) = false ∧
        Gas.codeByte * b.frame.output.size ≤ b.frame.gas ∧
        (b.finish rules).frame.gas = b.frame.gas - Gas.codeByte * b.frame.output.size) := by
  unfold finish
  rcases hleft.cases with hstatus | ⟨reason, hstatus⟩ | hstatus <;> rw [hstatus]
  · unfold accept
    simp only [hkind]
    split_ifs with hsize hmark hdeposit
    · exact .inl ⟨.halt .codeTooLarge, rfl⟩
    · exact .inl ⟨.halt .invalidCode, rfl⟩
    · exact .inl ⟨.halt .insufficientGas, rfl⟩
    · exact .inr ⟨rfl, not_lt.1 hsize, Bool.not_eq_true _ ▸ hmark, not_lt.1 hdeposit, rfl⟩
  · exact .inl ⟨_, settle_status_of_halted hstatus⟩
  · exact .inl ⟨_, settle_status_of_reverted hstatus⟩

/-- A frame that was opened is halted when it is started, or nothing stood in its way and it ran. -/
theorem begins_of_opening (hfresh : child = { context := child.context, gas := child.gas })
    (hlife : ReachesAbove rules (below.length + 1) (a.opening child below) (b.atop rest))
    (hleft : b.frame.status.IsLeft) :
    (∃ reason, b.frame.status = .halted reason) ∨
      ∃ c : Activity, View.Free a.world.get? child.context ∧
        c.outward = (child.outward a.world.get?).started rules ∧
        c.world.below = a.world.layers ∧
        ReachesAbove rules (below.length + 1) (c.atop (a.waiting :: below)) (b.atop rest) := by
  let s : Activity := ⟨child, a.world.open_, a.access⟩
  have hnew : s.frame.status = .notStarted := by
    show child.status = _
    rw [hfresh]
  have hview : s.outward = child.outward a.world.get? := by
    show child.outward (through (Table.empty :: a.world.layers)) = _
    rw [World.through_empty]
    rfl
  rcases ReachesAbove.started (a := s) hlife hnew with hsame | hlife
  · obtain ⟨rfl, -⟩ := atop_inj.1 hsame
    rw [hnew] at hleft
    exact hleft.elim
  · rcases start_begins rules s with ⟨reason, hhalted⟩ | ⟨-, hfree, -, hbegun⟩
    · have hlast := hlife.eq_of_isLeft (by rw [hhalted]; trivial) le_rfl
      obtain ⟨rfl, -⟩ := atop_inj.1 hlast
      exact .inl ⟨reason, hhalted⟩
    · rw [hview] at hfree hbegun
      exact .inr ⟨s.start rules, hfree, hbegun, start_below rules s, hlife⟩

theorem finish_status_of_halted (rules : CreationRules) {reason : HaltReason}
    (h : b.frame.status = .halted reason) :
    (b.finish rules).frame.status = .failed (.halt reason) := by
  rw [finish, h]
  exact settle_status_of_halted h

/-- A creation that is not halted keeps a nonce at its address from its start to its end. -/
theorem settles_of_opening (hrules : 1 ≤ rules.initialNonce)
    (hkind : child.context.kind = .contractCreation) (hdepth : 0 < child.context.depth)
    (hfresh : child = { context := child.context, gas := child.gas })
    (hlife : ReachesAbove rules (below.length + 1) (a.opening child below) (b.atop rest))
    (hlength : rest.length = below.length + 1) (hleft : b.frame.status.IsLeft) :
    (∃ reason, b.frame.status = .halted reason) ∨ b.outward.Settles child.context.address := by
  refine (begins_of_opening hfresh hlife hleft).imp_right ?_
  rintro ⟨c, -, hbegun, hbelow, hrun⟩
  have hclaimed : c.outward.Settles child.context.address := by
    rw [hbegun]
    refine ⟨hdepth, ?_⟩
    show 1 ≤ (View.account (View.claimed _ rules child.context) _).nonce
    rw [View.claimed, hkind]
    simp only [View.account_modify, if_true]
    exact hrules
  have htower : Tower (fun o _ => o.Settles child.context.address) (a.waiting :: below)
      a.world.layers (c.atop (a.waiting :: below)).frames c.world.layers :=
    .atop (hbelow ▸ .ground) hclaimed
  have hlast := Tower.of_reachesAbove (Outward.Settles.stable hrules _) htower
    (Nat.lt_succ_self _) hrun fun _ _ _ _ => trivial
  exact (hlast.of_atop (a := b) hlength.ge).2

/-- What the opener of a creation sees at the new address when the frame has succeeded. -/
theorem account_of_succeeded (hrules : 1 ≤ rules.initialNonce)
    (hkind : child.context.kind = .contractCreation) (hdepth : 0 < child.context.depth)
    (hfresh : child = { context := child.context, gas := child.gas })
    (hlife : ReachesAbove rules (below.length + 1) (a.opening child below) (b.atop rest))
    (hlength : rest.length = below.length + 1) (hleft : b.frame.status.IsLeft)
    (hsucceeded : (b.finish rules).frame.status = .succeeded) :
    ∃ account, (b.finish rules).world.close.get? child.context.address = some account ∧
      account.code = b.frame.output ∧ 1 ≤ account.nonce := by
  have hcontext := hlife.context_of_opening hlength
  have hlayers : b.world.below = a.world.top :: a.world.below :=
    (hlife.beneath_of_opening hlength).2
  rcases settles_of_opening hrules hkind hdepth hfresh hlife hlength hleft with
    ⟨reason, hhalted⟩ | hsettles
  · cases hsucceeded.symm.trans (finish_status_of_halted rules hhalted)
  obtain ⟨l, hclose, ⟨hfailed, -⟩ | ⟨-, -, hview⟩⟩ := finish_outward rules hleft hlayers
  · exact absurd hsucceeded hfailed
  · have hget : (b.finish rules).world.close.get? = b.outward.view.modify child.context.address
        fun account => { account with code := b.frame.output } := by
      refine (congrArg through hclose).trans (hview.trans ?_)
      show (b.outward.view.deposited b.frame.context b.frame.output).swept b.frame.context _ = _
      rw [View.swept_of_depth (by rw [hcontext]; exact hdepth.ne'), hcontext, View.deposited, hkind]
    exact ⟨_, (congrFun hget _).trans (View.put_self ..), rfl, hsettles.nonce⟩

/-- The opener of a creation that has failed sees the world as it was. -/
theorem world_of_failed
    (hlife : ReachesAbove rules (below.length + 1) (a.opening child below) (b.atop rest))
    (hlength : rest.length = below.length + 1) {failure : Failure}
    (hfailed : (b.finish rules).frame.status = .failed failure) :
    (b.finish rules).world.close = a.world := by
  have hstands := ((a.opening_standsOn child below).of_reachesAbove (Nat.lt_succ_self _) hlife).1
  exact World.eq_of_layers (hstands.leave_of_failed (List.cons_ne_nil _ _) hlength hfailed).2

/-- An account that stands in the way of a contract still does so when its nonce has grown. -/
theorem isTaken_of_modify {account : Account} (creator : Address) (h : v place = some account)
    (htaken : isTaken (some account) = true) :
    isTaken (v.modify creator (fun c => { c with nonce := c.nonce + 1 }) place) = true := by
  by_cases hsame : creator = place
  · subst hsame
    rw [View.modify, View.put_self, View.account, h]
    have hpersists : account.Persists { account with nonce := account.nonce + 1 } :=
      ⟨Int.le_add_one le_rfl, fun _ => rfl⟩
    exact hpersists.isTaken htaken
  · rwa [View.modify, View.put_of_ne _ hsame, h]

/-- A creation is halted where an account stood in its way. -/
theorem halted_of_taken (hkind : child.context.kind = .contractCreation)
    (hfresh : child = { context := child.context, gas := child.gas })
    {creator : Address} (hview : a.world.get? =
      v.modify creator fun account => { account with nonce := account.nonce + 1 })
    (hlife : ReachesAbove rules (below.length + 1) (a.opening child below) (b.atop rest))
    (hleft : b.frame.status.IsLeft) {account : Account}
    (haccount : v child.context.address = some account)
    (htaken : 0 < account.nonce ∨ account.code ≠ #[]) :
    ∃ reason, b.frame.status = .halted reason := by
  refine (begins_of_opening hfresh hlife hleft).resolve_right ?_
  rintro ⟨c, hfree, -⟩
  have hblocked := isTaken_of_modify creator haccount (by simpa [isTaken] using htaken)
  rw [← hview, hfree hkind] at hblocked
  cases hblocked

/-- A creation is all or nothing. If it opens a frame, then whatever the code of this frame does,
until it is left and the opener goes on: either the frame has succeeded, the opener finds the number
of the new address on its stack, and the account there has the output of the frame as its code,
which is not too large and not marked, and a nonce, and each byte of it was paid for; or the frame
has failed, the opener finds a zero, and sees the world as it was before the operation but for its
own nonce. The latter is so wherever there was an account with a nonce or code at the address, and
then that account stays as it was. -/
theorem creation_all_or_nothing (a a' : Activity) (op : Opcode) (child : Frame)
    (below : List Frame) (hdepth : 0 ≤ a.frame.context.depth) (hop : op = .create ∨ op = .create2)
    (hstep : Exec.step op.byte a = .ok (some child) a') :
    ∃ number, child.context.kind = .contractCreation ∧
      child.context.address.toInt = .ok number ∧
      ∀ b rest, ReachesAbove {} (below.length + 1) (a'.opening child below) (atop b rest) →
        rest.length = below.length + 1 → b.frame.status.IsLeft →
        let place := child.context.address
        let creator := a.frame.context.address
        let ended := (b.finish {}).frame
        let t := (b.finish {}).leave rest
        let lower := a.frame.stack.items.drop (if op = .create then 3 else 4)
        ∃ resumed, t.frames = resumed :: below ∧ resumed.gas = a'.frame.gas + ended.gas ∧
          ((ended.status = .succeeded ∧ resumed.stack.items = number :: lower ∧
              (∃ account, t.world.get? place = some account ∧ account.code = b.frame.output ∧
                1 ≤ account.nonce) ∧
              b.frame.output.size ≤ 24576 ∧ b.frame.output[0]? ≠ some 0xef ∧
              200 * b.frame.output.size ≤ b.frame.gas ∧
              ended.gas = b.frame.gas - 200 * b.frame.output.size) ∨
            ((∃ failure, ended.status = .failed failure) ∧ resumed.stack.items = 0 :: lower ∧
              t.world.get? = View.modify a.world.get? creator
                fun account => { account with nonce := account.nonce + 1 })) ∧
          ∀ account, a.world.get? place = some account → 0 < account.nonce ∨ account.code ≠ #[] →
            (∃ failure, ended.status = .failed failure) ∧
              (place ≠ creator → t.world.get? place = some account) := by
  obtain ⟨hcreated, hworld⟩ := Exec.created_of_step hop hstep
  have hitems := Exec.items_of_create_step hop hstep
  have hfresh := Exec.Fresh.of_ok hstep
  have hchild : 0 < child.context.depth := by
    rw [(Exec.deed_of_step hstep).depth.1]
    exact Int.lt_add_one_of_le hdepth
  obtain ⟨number, hkind, hnumber, hcompletion⟩ := hcreated.exists_number
  refine ⟨number, hkind, hnumber, ?_⟩
  intro b rest hlife hlength hleft place creator ended t lower
  have hcontext : ended.context = child.context :=
    (finish_context {} b).trans (hlife.context_of_opening hlength)
  have hresumed : (a'.waiting.resume ended).stack.items =
      (if ended.status = .succeeded then number else 0) :: lower := by
    rw [Frame.resume_items_of_creation (hcontext ▸ hcompletion)]
    exact congrArg _ hitems
  have hclosed (failure : Failure) (h : ended.status = .failed failure) :
      t.world.get? = View.modify a.world.get? creator
        fun account => { account with nonce := account.nonce + 1 } :=
    (congrArg World.get? (world_of_failed hlife hlength h)).trans hworld
  obtain ⟨rfl, -⟩ := hlife.beneath_of_opening hlength
  refine ⟨a'.waiting.resume ended, rfl, Frame.resume_gas .., ?_, ?_⟩
  · rcases finish_of_creation {} ((hlife.context_of_opening hlength).symm ▸ hkind) hleft with
      ⟨failure, hfailed⟩ | ⟨hsucceeded, hsize, hmark, hpaid, hgas⟩
    · refine .inr ⟨⟨failure, hfailed⟩, ?_, hclosed failure hfailed⟩
      rw [hresumed, show ended.status = _ from hfailed, if_neg (by simp)]
    · refine .inl ⟨hsucceeded, ?_, ?_, Int.ofNat_le.1 hsize, ?_, hpaid, hgas⟩
      · rw [hresumed, if_pos hsucceeded]
      · exact account_of_succeeded (by decide) hkind hchild hfresh hlife hlength hleft hsucceeded
      · simpa [isMarked] using hmark
  · intro account haccount htaken
    obtain ⟨reason, hhalted⟩ :=
      halted_of_taken hkind hfresh hworld hlife hleft haccount htaken
    have hfailed := finish_status_of_halted {} hhalted
    refine ⟨⟨_, hfailed⟩, fun hne => ?_⟩
    rw [hclosed _ hfailed, View.modify, View.put_of_ne _ hne.symm]
    exact haccount

/-- Creates a contract from a program that returns one zero byte. -/
def creatingCode : Bytes :=
  #[0x64, 0x60, 0x01, 0x60, 0x00, 0xf3, 0x3d, 0x52, 0x60, 0x05, 0x60, 0x1b, 0x3d, 0xf0]

def returnsZero (b : Activity) (rest : List Frame) : Bool :=
  decide (rest.length = 1) && decide (b.frame.status = .returned) && b.frame.output == #[0] &&
    decide ((b.finish {}).frame.status = .succeeded)

def createsZero (a : Activity) (below : List Frame) : Bool :=
  decide (below = []) && decide (a.frame.stack.items.drop 3 = []) &&
    a.opensWith Opcode.create.byte fun a' child =>
      ((a'.opening child []).movedAbove? {} 1 4).any (Machine.sees returnsZero)

theorem creation_all_or_nothing_creatingCode :
    ∃ a a' b child rest number,
      (Reaches {} (({} : Meter).opening creatingCode (Fixture.world creatingCode) 1000)
          (atop a []) ∧
        Exec.step Opcode.create.byte a = .ok (some child) a' ∧
        ReachesAbove {} 1 (a'.opening child []) (atop b rest) ∧ b.frame.output = #[0]) ∧
      let t := (b.finish {}).leave rest
      child.context.address.toInt = .ok number ∧
      t.frames.map (·.stack.items) = [[number]] ∧
      ∃ account, t.world.get? child.context.address = some account ∧ account.code = #[0] ∧
        1 ≤ account.nonce := by
  have hrun : ((({} : Meter).opening creatingCode (Fixture.world creatingCode) 1000).movedAbove? {}
      0 7).any (Machine.sees createsZero) = true := by decide +kernel
  obtain ⟨a, below, hreach, hcreates⟩ := Machine.exists_of_sees hrun
  simp only [createsZero, Bool.and_eq_true, decide_eq_true_eq] at hcreates
  obtain ⟨⟨rfl, hlower⟩, hopens⟩ := hcreates
  obtain ⟨-, -, a', child, hstep, hlife⟩ := exists_of_opensWith hopens
  obtain ⟨b, rest, hlife, hreturns⟩ := Machine.exists_of_sees hlife
  simp only [returnsZero, Bool.and_eq_true, decide_eq_true_eq, beq_iff_eq] at hreturns
  obtain ⟨⟨⟨hlength, hstatus⟩, houtput⟩, hsucceeded⟩ := hreturns
  obtain ⟨number, -, hnumber, hends⟩ := creation_all_or_nothing a a' .create child []
    (Meter.depth_nonneg_of_reaches hreach.reaches) (.inl rfl) hstep
  obtain ⟨resumed, hframes, -, hsuccess | ⟨⟨failure, hfailed⟩, -⟩, -⟩ :=
    hends b rest hlife hlength (by rw [hstatus]; trivial)
  · obtain ⟨-, hitems, ⟨account, haccount, hcode, hnonce⟩, -⟩ := hsuccess
    refine ⟨a, a', b, child, rest, number, ⟨hreach.reaches, hstep, hlife, houtput⟩, hnumber, ?_,
      account, haccount, hcode.trans houtput, hnonce⟩
    rw [hframes, List.map_singleton, hitems, if_pos rfl, hlower]
  · cases hsucceeded.symm.trans hfailed

end Activity
end Gasometer
