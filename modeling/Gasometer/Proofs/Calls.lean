import Gasometer.Proofs.Operations

/-!
# What calls and creations do

A call or a creation either goes on with its opener, or opens a frame. Then the gas of both frames
together has become less: the stipend of a call with value is less than what the value costs.
-/
namespace Gasometer

/-- Whether what a child hands back fits its opener. -/
def Frame.Awaits (f : Frame) : Completion → Prop
  | .silent | .creation _ => True
  | .call outOffset outSize =>
    0 ≤ outOffset ∧ 0 ≤ outSize ∧ (outSize ≠ 0 → outOffset + outSize ≤ f.memory.size)

/-- The state `a` in which an operation that began in `a₀` opened a frame. -/
structure Opens (k : Scale) (a₀ : Activity) (child : Frame) (a : Activity) : Prop where
  sound : a.Sound k.raised
  opened : child.Sound k
  fresh : child.status = .notStarted
  awaits : a.frame.Awaits child.context.completion
  gas : a.frame.gas + child.gas + Gas.warmAccess ≤ a₀.frame.gas
  stake : a.frame.stake + child.stake + Gas.warmAccess ≤ a₀.frame.stake
  status : a.frame.status = a₀.frame.status

/-- The outcome of an operation that may open a frame; if it does not, it has pushed a zero. -/
def MayOpen (k : Scale) (a₀ : Activity) (rest : List Int) (n : Int) (child? : Option Frame)
    (a : Activity) : Prop :=
  match child? with
  | none => Stage k.raised a₀ rest 1 n a
  | some child => Opens k a₀ child a

theorem Frame.stake_fresh {f : Frame} (h : f.memory = #[]) : f.stake = f.gas := by
  simp [Frame.stake, Frame.memoryWords, h, Gas.memoryCost]

namespace Stage
open Exec

variable {k : Scale} {a₀ a : Activity} {rest : List Int} {h : Nat} {n : Int}

theorem raised (s : Stage k a₀ rest h n a) : Stage k.raised a₀ rest h n a :=
  { s with sound := s.sound.raised }

theorem handedOn_nonneg {gas : Int} (h : 0 ≤ gas) : 0 ≤ handedOn gas := by
  unfold handedOn
  omega

/-- A change of the returned data alone. -/
theorem of_returnData (s : Stage k a₀ rest h n a) {data : Bytes} (hd : data.Held) :
    Stage k a₀ rest h n { a with frame := { a.frame with returnData := data } } :=
  { s with sound := ⟨{ s.sound.frame with returnData := hd }, s.sound.world⟩ }

/-- Gas that was set aside is given back. -/
theorem refund {gas : Int} (s : Stage k a₀ rest h (n + gas) a) (hn : 0 ≤ n) (hg : 0 ≤ gas) :
    Stage k a₀ rest h n { a with frame := { a.frame with gas := a.frame.gas + gas } } := by
  have hstake : Frame.stake { a.frame with gas := a.frame.gas + gas } = a.frame.stake + gas := by
    simp only [Frame.stake, Frame.memoryWords]
    omega
  have hpaid := s.stake
  have hlimit := s.limit
  have hgas := s.gas
  have hfree := s.sound.frame.gas
  dsimp only at *
  refine { s with
    sound := ⟨{ s.sound.frame with gas := ?_, stake := ?_ }, s.sound.world⟩
    paid := hn
    gas := ?_
    stake := ?_ }
  all_goals dsimp only; omega

/-- The items that a call takes besides its value. -/
theorem takeValue (s : Stage k a₀ rest (h + if takesValue kind then 1 else 0) n a) :
    (Exec.takeValue kind).Yields a (fun value a => k.numbers.Holds value ∧ Stage k a₀ rest h n a)
      (Broken k a₀) := by
  unfold Exec.takeValue
  split_ifs at s ⊢
  · exact s.pop
  · exact ⟨Numbers.holds_zero, s⟩

/-- The value of a call pays for the stipend. -/
theorem grant_le_callCost (kind : CallKind) {access : Int} (ha : Gas.warmAccess ≤ access)
    (value handed : Int) (dead : Bool) :
    Gas.warmAccess + grant handed value ≤ callCost kind access value dead + handed := by
  unfold grant callCost Gas.callStipend Gas.callValue Gas.newAccount
  split_ifs <;> omega

theorem calledContext_sound {c : Context} (hc : c.Sound k.numbers) (kind : CallKind)
    {target : Address} (ht : target.Normal) {code input : Bytes} (hcode : k.numbers.Holds code.size)
    (hinput : input.Held) {value : Int} (hv : k.numbers.Holds value) (outOffset outSize : Int) :
    (calledContext kind c target code input value outOffset outSize).Sound k.numbers where
  address := by cases kind <;> first | exact ht | exact hc.address
  originator := hc.originator
  sender := by
    show (if kind = .delegatecall then c.sender else c.address).Normal
    split_ifs
    · exact hc.sender
    · exact hc.address
  code := hcode
  block := hc.block
  gasPrice := hc.gasPrice
  input := hinput
  value := by
    show 0 ≤ if kind = .delegatecall then 0 else value
    split_ifs
    · exact le_rfl
    · exact hv.nonneg
  apparentValue := by
    cases kind with
    | call | callcode => exact hv
    | delegatecall => exact hc.apparentValue
    | staticcall => exact Numbers.holds_zero
  completion := by rintro number ⟨⟩

/-- A new frame gets the gas that was set aside for it. -/
theorem opens {gas : Int} (s : Stage k a₀ rest h (n + gas) a) (hn : Gas.warmAccess ≤ n)
    (hg : 0 ≤ gas) {c : Context} (hc : c.Sound k.numbers) (hawaits : a.frame.Awaits c.completion)
    {w : World} (hw : w.Sound k.raised) (access : AccessList) :
    Opens k a₀ { context := c, gas := gas } { a with world := w, access := access } := by
  have hfresh : Frame.stake { context := c, gas := gas } = gas := Frame.stake_fresh rfl
  have hn₀ : 0 ≤ Gas.warmAccess := by decide
  have hgas := s.gas
  have hstake := s.stake
  have hlimit := s.limit
  have hfree := s.sound.frame.gas.trans (Frame.gas_le_stake _)
  exact
    { sound := ⟨s.sound.frame.raised, hw⟩
      opened :=
        { context := hc
          gas := hg
          stake := by omega
          stack := by rintro x ⟨⟩
          words := by simp [Frame.memoryWords]
          memory := Bytes.held_empty
          output := Bytes.held_empty
          returnData := Bytes.held_empty }
      fresh := rfl
      awaits := hawaits
      gas := by dsimp only; omega
      stake := by dsimp only; omega
      status := s.status }

/-- Opening the called frame, with gas that was set aside for it. -/
theorem enter {gas : Int} (s : Stage k a₀ rest 0 (n + gas) a) (hn : Gas.warmAccess ≤ n)
    (hg : 0 ≤ gas) (kind : CallKind) {target : Address} (ht : target.Normal)
    {value inOffset inSize outOffset outSize : Int} (hv : k.numbers.Holds value)
    (hawaits : a.frame.Awaits (.call outOffset outSize)) :
    (Exec.enter kind target value inOffset inSize outOffset outSize gas).Yields a
      (MayOpen k a₀ rest n) (Broken k a₀) := by
  have hn₀ : 0 ≤ n := le_trans (by decide) hn
  refine Yields.update (Yields.view (Yields.viewWorld ?_))
  replace s := s.of_returnData Bytes.held_empty
  split
  · refine Yields.update ?_
    exact (s.refund hn₀ hg).push Numbers.holds_zero |>.bind fun _ a s => s.raised
  · refine Yields.view (Yields.viewWorld ?_)
    have hinput : Bytes.Held (if inSize = 0 then #[]
        else a.frame.memory.slice inOffset (inOffset + inSize)) := by
      split_ifs
      · exact Bytes.held_empty
      · exact s.sound.frame.memory.slice _ _
    have hcode := (s.sound.world.account target).code
    have hc := calledContext_sound s.sound.frame.context kind ht hcode hinput hv outOffset outSize
    exact s.opens hn hg hc hawaits s.sound.world.raised a.access

def callInputs (kind : CallKind) : Nat := 4 + (if takesValue kind then 1 else 0) + 2

theorem call (kind : CallKind) (s : Stage k a₀ rest (callInputs kind) 0 a) :
    (Exec.call kind).Yields a (MayOpen k a₀ rest Gas.warmAccess) (Broken k a₀) := by
  refine s.pop.bind ?_
  rintro requested a ⟨hr, s⟩
  refine s.pop.bind ?_
  rintro x a ⟨-, s⟩
  refine s.takeValue.bind ?_
  rintro value a ⟨hv, s⟩
  refine s.pop.bind ?_
  rintro inOffset a ⟨-, s⟩
  refine s.pop.bind ?_
  rintro inSize a ⟨-, s⟩
  refine s.pop.bind ?_
  rintro outOffset a ⟨ho, s⟩
  refine s.pop.bind ?_
  rintro outSize a ⟨hs, s⟩
  refine Yields.view ?_
  refine (s.haltIf _ (by decide)).bind ?_
  rintro _ _ ⟨-, rfl⟩
  refine (s.expandMemory inOffset inSize).bind ?_
  rintro _ a ⟨s, -⟩
  refine (s.expandMemory outOffset outSize).bind ?_
  rintro _ a ⟨s, hreach⟩
  have hawaits : a.frame.Awaits (.call outOffset outSize) := ⟨ho.nonneg, hs.nonneg, hreach⟩
  refine (s.accessCost (Address.ofInt x)).bind ?_
  rintro access a₁ ⟨haccess, s, hframe⟩
  rw [← hframe] at hawaits
  refine Yields.viewWorld ?_
  have hcost := grant_le_callCost kind haccess value 0 (a₁.world.isDead (Address.ofInt x))
  have hstipend : 0 ≤ grant 0 value := by unfold grant Gas.callStipend; split_ifs <;> decide
  have hwarm : 0 ≤ Gas.warmAccess := by decide
  refine (s.useGas (by omega)).bind ?_
  rintro _ a₂ ⟨s, rfl⟩
  refine Yields.view ?_
  have hhanded := le_min hr.nonneg (handedOn_nonneg s.sound.frame.gas)
  refine (s.useGas hhanded).bind ?_
  rintro _ a₃ ⟨s, rfl⟩
  generalize min requested _ = handed at *
  have hgrant : grant handed value = handed + grant 0 value := by unfold grant; split_ifs <;> omega
  replace s := s.of_le (by omega : 0 ≤ Gas.warmAccess + grant handed value) (by omega)
  exact s.enter le_rfl (by omega) kind (Address.normal_ofInt x) hv hawaits

theorem createdContext_sound {c : Context} (hc : c.Sound k.numbers) {place : Address}
    (hp : place.Normal) {number : Int} (hn : k.numbers.Holds number) {code : Bytes}
    (hcode : code.Held) {value : Int} (hv : k.numbers.Holds value) :
    (createdContext c place number code value).Sound k.numbers where
  address := hp
  originator := hc.originator
  sender := hc.address
  code := hcode.holds
  block := hc.block
  gasPrice := hc.gasPrice
  input := Bytes.held_empty
  value := hv.nonneg
  apparentValue := hv
  completion := by rintro number ⟨⟩; exact hn

/-- Where nonces are bounded, a creation finds its place; elsewhere it is at least not cut off. -/
theorem excuses_placeOf {creator : Address} (hc : creator.Normal) {account : Account}
    (ha : account.Sound k) (hroom : k.numbers = .word → (k.nonce : Int) < Address.nonceLimit)
    {salt : Option Int} (hsalt : ∀ x ∈ salt, k.numbers.Holds x) {code : Bytes} {fault : Fault}
    (h : placeOf creator account.nonce salt code = .error fault) : k.Excuses fault := by
  unfold Scale.Excuses
  cases hk : k.numbers with
  | natural =>
    rintro rfl
    exact Address.placeOf_ne_cutOff hc _ _ _ h
  | word =>
    obtain ⟨h₀, h₁⟩ := ha.nonce hk
    rw [hk] at hsalt
    obtain ⟨place, hp⟩ := Address.placeOf_ok hc h₀ (h₁.trans_lt (hroom hk)) hsalt code
    rw [hp] at h
    cases h

theorem takeSalt {salted : Bool} (s : Stage k a₀ rest (h + if salted then 1 else 0) n a)
    {size : Int} (hs : 0 ≤ size) :
    (Exec.takeSalt salted size).Yields a
      (fun salt a => (∀ x ∈ salt, k.numbers.Holds x) ∧ Stage k a₀ rest h n a) (Broken k a₀) := by
  unfold Exec.takeSalt
  split_ifs at s ⊢
  · refine s.pop.bind ?_
    rintro salt a ⟨hsalt, s⟩
    have hprice : 0 ≤ Gas.keccak256Word * Gas.wordsFor size :=
      Int.mul_nonneg (by decide) (Gas.wordsFor_nonneg hs)
    refine (s.useGas_nonneg hprice).bind fun _ a s => ?_
    exact ⟨by simpa using hsalt, s⟩
  · exact ⟨by simp, s⟩

/-- Where nonces grew, an operation may still be stopped. -/
theorem broken_of_world (s : Stage k a₀ rest h n a) {w : World} (hw : w.Sound k.raised) {e : Stop}
    (he : k.Allows e) : Broken k a₀ e { a with world := w } where
  sound := ⟨s.sound.frame.raised, hw⟩
  gas := (Int.le_add_of_nonneg_right s.paid).trans s.gas
  stake := (Int.le_add_of_nonneg_right s.paid).trans s.stake
  cause := he

def createInputs (salted : Bool) : Nat := (if salted then 1 else 0) + 3

theorem create (salted : Bool) (s : Stage k a₀ rest (createInputs salted) n a)
    (hn : Gas.warmAccess ≤ n)
    (hroom : k.numbers = .word → (k.nonce : Int) < Address.nonceLimit) :
    (Exec.create salted).Yields a (MayOpen k a₀ rest n) (Broken k a₀) := by
  refine s.forbidStatic.bind ?_
  rintro _ _ rfl
  unfold createInputs at s
  refine s.pop.bind ?_
  rintro value a ⟨hv, s⟩
  refine s.pop.bind ?_
  rintro offset a ⟨ho, s⟩
  refine s.pop.bind ?_
  rintro size a ⟨hs, s⟩
  refine Yields.bind (takeSalt (by rwa [Nat.zero_add]) hs.nonneg) ?_
  rintro salt a ⟨hsalt, s⟩
  refine (s.readMemory ho.nonneg hs.nonneg).bind ?_
  rintro code a ⟨hcode, -, s⟩
  refine Yields.update (Yields.view (Yields.viewWorld ?_))
  replace s := s.of_returnData Bytes.held_empty
  split
  · exact (s.push Numbers.holds_zero).bind fun _ a s => s.raised
  refine Yields.view ?_
  have hhanded := handedOn_nonneg s.sound.frame.gas
  refine (s.useGas hhanded).bind ?_
  rintro _ a' ⟨s, rfl⟩
  refine Yields.updateWorld ?_
  have hcreator := s.sound.world.account a.frame.context.address
  have hw : (a.world.modify a.frame.context.address fun b =>
      { b with nonce := b.nonce + 1 }).Sound k.raised :=
    s.sound.world.raised.modify _ hcreator.succ_nonce le_rfl
  have hc := s.sound.frame.context
  cases hplace : placeOf a.frame.context.address
      (a.world.account a.frame.context.address).nonce salt code with
  | error fault =>
    exact s.broken_of_world hw (excuses_placeOf hc.address hcreator hroom hsalt hplace)
  | ok place =>
    have hnormal := Address.normal_placeOf hplace
    obtain ⟨number, hnumber, hholds⟩ := Numbers.holds_address (n := k.numbers) hnormal.isHex
    rw [attempt_ok, pure_bind, hnumber, attempt_ok, pure_bind]
    exact s.opens hn hhanded (createdContext_sound hc hnormal hholds hcode hv) trivial hw _

end Stage
end Gasometer
