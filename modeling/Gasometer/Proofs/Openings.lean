import Gasometer.Proofs.Effects
import Gasometer.Proofs.StackEffects

/-!
# How frames are opened

A call or a creation has two parts. The first one takes the operands and pays all that the operation
costs by itself; its result are the terms of the opening. The second one hands gas on and opens the
frame, or gives the gas back. Both parts together are the operation.
-/
namespace Gasometer
namespace Exec

variable {α β : Type} {a a' : Activity} {child : Frame} {child? : Option Frame}

theorem bind_eq_ok {x : Exec α} {f : α → Exec β} {v : β} :
    (x >>= f) a = .ok v a' ↔ ∃ u b, x a = .ok u b ∧ f u b = .ok v a' := by
  show EStateM.bind x f a = .ok v a' ↔ _
  unfold EStateM.bind
  cases x a <;> simp

structure CallTerms where
  requested : Int
  target : Address
  value : Int
  inOffset : Int
  inSize : Int
  outOffset : Int
  outSize : Int

def callTerms (kind : CallKind) : Exec CallTerms := do
  let requested ← pop
  let target := Address.ofInt (← pop)
  let value ← takeValue kind
  let inOffset ← pop
  let inSize ← pop
  let outOffset ← pop
  let outSize ← pop
  haltIf (kind = .call ∧ value ≠ 0 ∧ (← view (·.context.isStatic))) .illegalStateChange
  expandMemory inOffset inSize
  expandMemory outOffset outSize
  let access ← accessCost target
  useGas (callCost kind access value (← viewWorld (·.isDead target)))
  return ⟨requested, target, value, inOffset, inSize, outOffset, outSize⟩

def callOn (kind : CallKind) (t : CallTerms) : Exec (Option Frame) := do
  let handed := min t.requested (handedOn (← view Frame.gas))
  useGas handed
  enter kind t.target t.value t.inOffset t.inSize t.outOffset t.outSize (grant handed t.value)

theorem call_eq (kind : CallKind) : call kind = callTerms kind >>= callOn kind := by
  simp only [call, callTerms, callOn, bind_assoc, pure_bind]

structure CreateTerms where
  value : Int
  code : Bytes
  salt : Option Int

def createTerms (salted : Bool) : Exec CreateTerms := do
  forbidStatic
  let value ← pop
  let offset ← pop
  let size ← pop
  let salt ← takeSalt salted size
  let code ← readMemory offset size
  return ⟨value, code, salt⟩

def createOn (t : CreateTerms) : Exec (Option Frame) := do
  update fun f => { f with returnData := #[] }
  let c ← view Frame.context
  let creator ← viewWorld (·.account c.address)
  if c.depth ≥ maxDepth ∨ creator.balance < t.value then
    push 0
    return none
  else
    let childGas := handedOn (← view Frame.gas)
    useGas childGas
    updateWorld (·.modify c.address fun a => { a with nonce := a.nonce + 1 })
    let place ← attempt (placeOf c.address creator.nonce t.salt t.code)
    let number ← attempt place.toInt
    let _ ← warmAddress place
    return some { context := createdContext c place number t.code t.value, gas := childGas }

theorem create_eq (salted : Bool) : create salted = createTerms salted >>= createOn := by
  simp only [create, createTerms, createOn, bind_assoc, pure_bind]

/-- What decides how much gas a new frame gets. -/
inductive Terms
  /-- A call asks for so much gas, and has such a value. -/
  | call (requested value : Int)
  /-- A creation asks for all that can be handed on. -/
  | creation

namespace Terms

/-- The gas that is handed on, of so much that is left when the own costs are paid. -/
def handed : Terms → Int → Int
  | call requested _, available => min requested (handedOn available)
  | creation, available => handedOn available

def stipend : Terms → Int
  | call _ value => if value = 0 then 0 else Gas.callStipend
  | creation => 0

theorem handed_le (t : Terms) (available : Int) : t.handed available ≤ handedOn available := by
  cases t with
  | call => exact min_le_right ..
  | creation => exact le_rfl

theorem stipend_nonneg (t : Terms) : 0 ≤ t.stipend := by
  cases t with
  | call requested value =>
    show 0 ≤ if value = 0 then 0 else Gas.callStipend
    split_ifs <;> decide
  | creation => exact le_rfl

theorem grant_eq (requested value handed : Int) :
    grant handed value = handed + (call requested value).stipend := by
  show _ = handed + if value = 0 then 0 else Gas.callStipend
  unfold grant
  split_ifs
  · exact (add_zero _).symm
  · rfl

/-- What the second part does to the gas. An operation that opens no frame loses nothing. -/
def Hands (t : Terms) (available : Int) (child? : Option Frame) (left : Int) : Prop :=
  match child? with
  | none => available ≤ left
  | some child => child.gas = t.handed available + t.stipend ∧ left = available - t.handed available

end Terms

def openingTerms : Opcode → Exec Terms
  | .call kind => do
    let t ← callTerms kind
    return .call t.requested t.value
  | .create => do
    let _ ← createTerms false
    return .creation
  | .create2 => do
    let _ ← createTerms true
    return .creation
  | _ => return .creation

theorem callOn_hands (kind : CallKind) (t : CallTerms) (a : Activity) :
    (callOn kind t).Yields a
      (fun child? b => (Terms.call t.requested t.value).Hands a.frame.gas child? b.frame.gas)
      fun _ _ => True := by
  refine Yields.view ((useGas_spec _ _).ifDone.bind ?_)
  rintro _ _ rfl
  unfold enter
  refine Yields.update (Yields.view (Yields.viewWorld ?_))
  split
  · refine Yields.update ?_
    show a.frame.gas ≤ a.frame.gas - _ + grant _ t.value
    have := (Terms.call t.requested t.value).stipend_nonneg
    rw [Terms.grant_eq t.requested]
    omega
  · exact Yields.view (Yields.viewWorld ⟨Terms.grant_eq .., rfl⟩)

theorem createOn_hands (t : CreateTerms) (a : Activity) :
    (createOn t).Yields a (fun child? b => Terms.creation.Hands a.frame.gas child? b.frame.gas ∧
      ∀ child ∈ child?, child.context.kind = .contractCreation) fun _ _ => True := by
  refine Yields.update (Yields.view (Yields.viewWorld ?_))
  split
  · exact ⟨le_rfl, by rintro child ⟨⟩⟩
  · refine Yields.view ((useGas_spec _ _).ifDone.bind ?_)
    rintro _ _ rfl
    refine Yields.updateWorld ?_
    cases placeOf a.frame.context.address (a.world.account a.frame.context.address).nonce t.salt
      t.code with
    | error fault => trivial
    | ok place =>
      rw [attempt_ok, pure_bind]
      cases place.toInt with
      | error fault => trivial
      | ok number =>
        rw [attempt_ok, pure_bind]
        exact ⟨⟨(add_zero _).symm, rfl⟩, by rintro _ ⟨⟩; rfl⟩

/-- An operation that may open a frame comes to its terms, with some gas left, and hands on as they
say. -/
theorem hands_of_execute {op : Opcode} (hop : op.Opens) (h : execute op a = .ok child? a') :
    ∃ t b, openingTerms op a = .ok t b ∧ t.Hands b.frame.gas child? a'.frame.gas := by
  have hcreate (salted : Bool) (h : create salted a = .ok child? a') :
      ∃ t b, (createTerms salted >>= fun _ => Pure.pure Terms.creation) a = .ok t b ∧
        Terms.Hands t b.frame.gas child? a'.frame.gas := by
    rw [create_eq, bind_eq_ok] at h
    obtain ⟨t, b, hterms, hrest⟩ := h
    have hhands := (createOn_hands t b).of_ok hrest
    exact ⟨_, b, bind_eq_ok.2 ⟨t, b, hterms, rfl⟩, hhands.1⟩
  cases op with
  | call kind =>
    change call kind a = _ at h
    rw [call_eq, bind_eq_ok] at h
    obtain ⟨t, b, hterms, hrest⟩ := h
    exact ⟨_, b, bind_eq_ok.2 ⟨t, b, hterms, rfl⟩, (callOn_hands kind t b).of_ok hrest⟩
  | create => exact hcreate false h
  | create2 => exact hcreate true h
  | _ => exact hop.elim

/-- What a creation opens is a creation. -/
theorem kind_of_create {salted : Bool} (h : create salted a = .ok (some child) a') :
    child.context.kind = .contractCreation := by
  rw [create_eq, bind_eq_ok] at h
  obtain ⟨t, b, -, hrest⟩ := h
  exact ((createOn_hands t b).of_ok hrest).2 child rfl

end Exec
end Gasometer
