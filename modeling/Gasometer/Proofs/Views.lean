import Gasometer.Proofs.Reversion

/-!
# What frames do to views

A frame changes what is visible of the accounts by moving its value, by claiming the address of a
new contract, by depositing code, and by removing the contracts that have ended. These changes are
functions of the view alone. Of a frame that has come to its end, the layer beneath shows either
what it showed before, or the view of that frame.
-/
namespace Gasometer

namespace View

variable {v : View} {a b : Address}

def account (v : View) (a : Address) : Account := (v a).getD {}

def modify (v : View) (a : Address) (f : Account → Account) : View :=
  v.put a (some (f (v.account a)))

theorem account_put (v : View) (a b : Address) (entry : Option Account) :
    (v.put a entry).account b = if a = b then entry.getD {} else v.account b := by
  unfold account put
  split_ifs <;> rfl

theorem account_modify (v : View) (a b : Address) (f : Account → Account) :
    (v.modify a f).account b = if a = b then f (v.account a) else v.account b := by
  rw [modify, account_put]
  rfl

/-- Whether the sender of a frame can pay its value. A frame that pays itself needs no funds. -/
def Funds (v : View) (c : Context) : Prop :=
  c.value = 0 ∨ c.sender = c.address ∨ c.value ≤ v.balance c.sender

def paid (v : View) (c : Context) : View :=
  if c.value = 0 ∨ c.sender = c.address then v.modify c.address id
  else (v.modify c.sender fun a => { a with balance := a.balance - c.value }).modify c.address
    fun a => { a with balance := a.balance + c.value }

/-- The view in which a frame begins to run: a creation has claimed its address. -/
def claimed (v : View) (rules : CreationRules) (c : Context) : View :=
  match c.kind with
  | .messageCall => v
  | .contractCreation => v.modify c.address fun a =>
      { a with nonce := rules.initialNonce, storage := Table.empty }

def deposited (v : View) (c : Context) (output : Bytes) : View :=
  match c.kind with
  | .messageCall => v
  | .contractCreation => v.modify c.address fun a => { a with code := output }

/-- The view without the contracts that have ended, if the frame is the first. -/
def swept (v : View) (c : Context) (ended : List Address) : View :=
  if c.depth = 0 then ended.foldl (fun v a => v.put a none) v else v

end View

namespace World

variable {w : World}

theorem get?_modify (w : World) (a : Address) (f : Account → Account) :
    (w.modify a f).get? = View.modify w.get? a f := get?_write_eq ..

theorem get?_foldl_delete (w : World) (l : List Address) :
    (l.foldl World.delete w).get? = l.foldl (fun v a => View.put v a none) w.get? := by
  induction l generalizing w with
  | nil => rfl
  | cons a r ih => rw [List.foldl_cons, List.foldl_cons, ih, World.delete, get?_write_eq]

/-- After a commit the layer beneath shows what was seen from the top. -/
theorem through_below_commit (h : w.below ≠ []) : through w.commit.below = w.get? := by
  obtain ⟨top, below⟩ := w
  cases below with
  | nil => exact absurd rfl h
  | cons l ls => exact through_merge l top ls

end World

namespace Activity

variable {rules : CreationRules} {a : Activity}

theorem transfer?_get? {c : Context} {w w' : World} (h : transfer? c w = some w') :
    View.Funds w.get? c ∧ w'.get? = View.paid w.get? c := by
  unfold transfer? at h
  unfold View.Funds View.paid
  split_ifs at h ⊢ with hfree
  · cases h
    exact ⟨hfree.imp_right .inl, World.get?_modify ..⟩
  · cases hsender : w.get? c.sender with
    | none =>
      rw [hsender] at h
      cases h
    | some sender =>
      rw [hsender] at h
      dsimp only at h
      split_ifs at h with hfunds
      cases h
      have haccount : View.account w.get? c.sender = sender := by rw [View.account, hsender]; rfl
      have hpaid :
          (w.write c.sender (some { sender with balance := sender.balance - c.value })).get? =
            View.modify w.get? c.sender fun a => { a with balance := a.balance - c.value } := by
        rw [World.get?_write_eq, View.modify, haccount]
      refine ⟨.inr (.inr ?_), ?_⟩
      · show c.value ≤ (View.account w.get? c.sender).balance
        rw [haccount]
        exact not_lt.1 hfunds
      · rw [World.get?_modify, hpaid]

theorem claimed_get? (rules : CreationRules) (c : Context) (w : World) :
    (claimed rules c w).get? = View.claimed w.get? rules c := by
  unfold claimed View.claimed
  cases c.kind with
  | messageCall => rfl
  | contractCreation => exact World.get?_modify ..

theorem deposited_get? (a : Activity) :
    (deposited a).get? = View.deposited a.world.get? a.frame.context a.frame.output := by
  unfold deposited View.deposited
  cases a.frame.context.kind with
  | messageCall => rfl
  | contractCreation => exact World.get?_modify ..

theorem swept_get? (f : Frame) (w : World) :
    (swept f w).get? = View.swept w.get? f.context f.selfDestructs := by
  unfold swept View.swept
  split_ifs
  · exact World.get?_foldl_delete w f.selfDestructs
  · rfl

/-- A frame whose code was left fails, or is committed with what it has deposited. -/
theorem finish_ends (rules : CreationRules) (hleft : a.frame.status.IsLeft) :
    (∃ failure, (a.finish rules).frame.status = .failed failure) ∨
      a.finish rules = settle a.succeed := by
  unfold finish
  rcases hleft.cases with hstatus | ⟨reason, hstatus⟩ | hstatus <;> rw [hstatus]
  · rcases accept_cases rules a with ⟨reason, -, h⟩ | ⟨-, h⟩
    · exact .inl ⟨.halt reason, by rw [h]; rfl⟩
    · exact .inr (by rw [h])
  · exact .inl ⟨_, settle_status_of_halted hstatus⟩
  · exact .inl ⟨_, settle_status_of_reverted hstatus⟩

/-- What the layer beneath shows after a frame was committed. -/
theorem settle_succeed_view (h : a.world.below ≠ []) :
    World.through (settle a.succeed).world.below =
      ((View.deposited a.world.get? a.frame.context a.frame.output).swept a.frame.context
        a.frame.selfDestructs) := by
  have hbelow : (swept a.frame (deposited a)).below ≠ [] := by
    rwa [swept_below, deposited_below]
  rw [settle_succeed, World.through_below_commit hbelow, swept_get?, deposited_get?]

end Activity

namespace Frame

/-- The opener of a frame that succeeded takes over its effects. -/
theorem resume_effects_of_succeeded {f child : Frame} (h : child.status = .succeeded) :
    (f.resume child).effects =
      (f.logs ++ child.logs, uniteAddresses f.selfDestructs child.selfDestructs) := by
  unfold resume effects
  rw [h]
  cases child.context.completion <;> rfl

end Frame
end Gasometer
