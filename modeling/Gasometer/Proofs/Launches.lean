import Gasometer.Execution.Meter
import Gasometer.Proofs.Rounds

/-!
# Launches

A meter launches one frame in a layer of its own over the given world. If the world, the block and
the program hold numbers of the run, then so does the machine that it begins with.
-/
namespace Gasometer

structure Account.IsNatural (account : Account) : Prop where
  balance : 0 ≤ account.balance
  nonce : 0 ≤ account.nonce
  storage : ∀ key, 0 ≤ account.load key

/-- An account of words, with a nonce of 64 bits. -/
structure Account.IsWordSized (account : Account) : Prop where
  balance : 0 ≤ account.balance
  nonce : 0 ≤ account.nonce ∧ account.nonce < 2 ^ 64
  storage : ∀ key, 0 ≤ account.load key ∧ account.load key < Word.ceiling
  code : (account.code.size : Int) < Word.ceiling

namespace World
open Finset

def IsNatural (w : World) : Prop := ∀ a account, w.get? a = some account → account.IsNatural

def wealth (w : World) : Int := (w.accounts.map fun entry => entry.2.balance).sum

/-- A world of words, whose accounts hold less than the words can count. -/
structure IsWordSized (w : World) : Prop where
  accounts : ∀ a account, w.get? a = some account → account.IsWordSized
  wealth : w.wealth < Word.ceiling

variable {w : World}

/-- What no layer holds is not visible. -/
theorem see_of_not_mem {a : Address} {ls : List Layer} (h : a ∉ ls.flatMap Table.keys) :
    see a ls = none := by
  induction ls with
  | nil => rfl
  | cons l ls ih =>
    rw [List.flatMap_cons, List.mem_append, not_or] at h
    have hl : l.get? a = none := Table.lookup_eq_none.2 h.1
    rw [see, hl]
    exact ih h.2

theorem balance_of_not_mem {a : Address} (h : a ∉ w.addresses) : View.balance w.get? a = 0 := by
  rw [addresses, List.mem_eraseDups] at h
  rw [View.balance, World.get?, see_of_not_mem h]
  rfl

/-- The wealth of a world, read off the addresses. -/
theorem sum_balance_addresses (w : World) :
    (w.addresses.map (View.balance w.get?)).sum = w.wealth := by
  unfold wealth accounts
  induction w.addresses with
  | nil => rfl
  | cons a r ih =>
    rw [List.map_cons, List.sum_cons, ih, List.filterMap_cons]
    cases hv : w.get? a <;> simp [View.balance, hv]

/-- No set of accounts holds more than all visible ones. -/
theorem sum_balance_le (h : ∀ a, 0 ≤ View.balance w.get? a) (s : Finset Address) :
    ∑ a ∈ s, View.balance w.get? a ≤ w.wealth := by
  have hrest : ∀ a ∈ s ∪ w.addresses.toFinset, a ∉ w.addresses.toFinset →
      View.balance w.get? a = 0 :=
    fun a _ ha => balance_of_not_mem fun hmem => ha (List.mem_toFinset.2 hmem)
  have hlist : ∀ x ∈ w.addresses.map (View.balance w.get?), 0 ≤ x := by
    intro x hx
    obtain ⟨a, -, rfl⟩ := List.mem_map.1 hx
    exact h a
  calc ∑ a ∈ s, View.balance w.get? a
      ≤ ∑ a ∈ s ∪ w.addresses.toFinset, View.balance w.get? a :=
        sum_le_sum_of_subset_of_nonneg subset_union_left fun a _ _ => h a
    _ = ∑ a ∈ w.addresses.toFinset, View.balance w.get? a :=
        (sum_subset subset_union_right hrest).symm
    _ = (w.addresses.dedup.map (View.balance w.get?)).sum := by
        rw [← List.sum_toFinset _ (List.nodup_dedup _)]
        exact sum_congr (by ext a; simp) fun _ _ => rfl
    _ ≤ (w.addresses.map (View.balance w.get?)).sum :=
        ((List.dedup_sublist _).map _).sum_le_sum hlist
    _ = w.wealth := sum_balance_addresses w

theorem wealth_nonneg (h : ∀ a, 0 ≤ View.balance w.get? a) : 0 ≤ w.wealth := by
  simpa using sum_balance_le h ∅

theorem balance_nonneg_of_visible (h : ∀ a account, w.get? a = some account → 0 ≤ account.balance)
    (a : Address) : 0 ≤ View.balance w.get? a := by
  unfold View.balance
  cases hv : w.get? a with
  | none => exact le_rfl
  | some account => exact h a account hv

/-- A world is sound if its visible accounts are, and the layers beneath the uppermost one are left
alone. -/
theorem sound_of_visible {k : Scale} (hbase : k.base = w.layers.length)
    (haccounts : ∀ a account, w.get? a = some account → account.Sound k)
    (hwealth : w.wealth ≤ k.wealth) : w.Sound k := by
  refine ⟨hbase.le, fun ls hls hlen => ?_⟩
  obtain rfl : ls = w.layers := hls.eq_of_length_le (hbase ▸ hlen)
  have hnonneg := balance_nonneg_of_visible fun a account hv => (haccounts a account hv).balance
  exact ⟨haccounts, fun s => (sum_balance_le hnonneg s).trans hwealth⟩

end World

theorem Block.sound_default (n : Numbers) : Block.Sound n {} where
  number := Numbers.holds_one
  timestamp := Numbers.holds_zero
  gasLimit := .of_lt (by decide) (by decide)
  difficulty := Numbers.holds_zero
  baseFee := .of_lt (by decide) (by decide)
  chainId := .of_lt (by decide) (by decide)
  coinbase := Address.normal_zero.isHex
  hashes _ i hash h := by cases h

namespace Fixture

/-- What holds of the four accounts holds of all that are visible. -/
theorem forall_visible {p : Account → Prop} {code : Bytes}
    (hsender : p { balance := senderBalance })
    (hreceiver : p (Account.store { code := code } presetSlot presetValue))
    (hcontract : ∀ code ∈ [returningCode, revertingCode],
      p { balance := contractBalance, code := code }) :
    ∀ a account, (world code).get? a = some account → p account := by
  intro a account h
  unfold world at h
  simp only [World.get?_write] at h
  split_ifs at h <;> cases h
  · exact hcontract _ (by simp)
  · exact hcontract _ (by simp)
  · exact hreceiver
  · exact hsender

theorem load_receiver (code : Bytes) (key : Int) :
    (Account.store { code := code } presetSlot presetValue).load key =
      if presetSlot = key then presetValue else 0 := Account.load_store ..

theorem world_isNatural (code : Bytes) : (world code).IsNatural := by
  have hbalance : 0 ≤ contractBalance := by decide
  refine forall_visible ⟨by decide, le_rfl, fun _ => le_rfl⟩ ⟨le_rfl, le_rfl, fun key => ?_⟩
    fun code _ => ⟨hbalance, le_rfl, fun _ => le_rfl⟩
  rw [load_receiver]
  split_ifs <;> decide

theorem wealth_world (code : Bytes) :
    (world code).wealth = senderBalance + 2 * contractBalance := rfl

theorem world_isWordSized {code : Bytes} (hcode : (code.size : Int) < Word.ceiling) :
    (world code).IsWordSized := by
  have hbalance : 0 ≤ contractBalance := by decide
  have hcontract : ∀ code ∈ [returningCode, revertingCode], (code.size : Int) < Word.ceiling := by
    decide
  have hnonce : (0 : Int) ≤ 0 ∧ (0 : Int) < 2 ^ 64 := by decide
  have hzero : (0 : Int) ≤ 0 ∧ 0 < Word.ceiling := by decide
  refine ⟨forall_visible ⟨by decide, hnonce, fun _ => hzero, hzero.2⟩
    ⟨le_rfl, hnonce, fun key => ?_, hcode⟩
    fun code hmem => ⟨hbalance, hnonce, fun _ => hzero, hcontract code hmem⟩, ?_⟩
  · rw [load_receiver]
    split_ifs <;> decide
  · rw [wealth_world]
    decide

end Fixture

namespace Scale

def natural (w : World) (gas : Int) (hwealth : 0 ≤ w.wealth) (hgas : 0 ≤ gas) : Scale where
  numbers := .natural
  gas := gas
  wealth := w.wealth
  nonce := 0
  base := w.layers.length
  holds_gas := hgas
  holds_wealth := hwealth
  base_pos := Nat.succ_pos _

def words (w : World) (gas : Int) (hwealth : Numbers.word.Holds w.wealth)
    (hgas : Numbers.word.Holds gas) : Scale where
  numbers := .word
  gas := gas
  wealth := w.wealth
  nonce := 2 ^ 64
  base := w.layers.length
  holds_gas := hgas
  holds_wealth := hwealth
  base_pos := Nat.succ_pos _

end Scale

namespace Meter

variable {σ : Type} {k : Scale} {m : Meter} {code : Bytes} {world : World} {gasLimit : Int}

/-- The machine that a launch begins with. -/
def opening (m : Meter) (code : Bytes) (world : World) (gasLimit : Int) : Machine :=
  ⟨[m.initialFrame code world gasLimit], world.open_, AccessList.ofLists Fixture.warm []⟩

/-- A launch runs its opening. -/
theorem launch_eq (m : Meter) (see : Observer σ) (code : Bytes) (world : World)
    (gasLimit : Int) (seen : σ) :
    m.launch see code world gasLimit seen =
      Machine.runFor {} see (2 * (m.initialGas gasLimit).toNat + Activity.allowance)
        (m.initialFrame code world gasLimit) (m.opening code world gasLimit) seen := rfl

theorem opening_isReady : (m.opening code world gasLimit).IsReady := by
  intro f hf
  obtain rfl : _ = f := Option.some.inj hf
  trivial

theorem opening_gas : (m.opening code world gasLimit).gas = m.initialGas gasLimit :=
  Int.add_zero _

theorem opening_turnsLeft :
    (m.opening code world gasLimit).turnsLeft = 2 * m.initialGas gasLimit + 1 := by
  rw [Machine.turnsLeft, opening_gas]
  rfl

theorem opening_movesLeft :
    (m.opening code world gasLimit).movesLeft = 4 * m.initialGas gasLimit + 3 := by
  rw [Machine.movesLeft, opening_gas]
  rfl

theorem initialFrame_memoryWords : (m.initialFrame code world gasLimit).memoryWords = 0 :=
  Nat.zero_div 32

theorem initialFrame_stake :
    (m.initialFrame code world gasLimit).stake = m.initialGas gasLimit := by
  rw [Frame.stake, initialFrame_memoryWords]
  exact Int.add_zero _

theorem held_input : Fixture.input.Held := by
  unfold Bytes.Held
  decide

theorem initialFrame_sound (hblock : m.block.Sound k.numbers) (hcode : k.numbers.Holds code.size)
    (hgas : 0 ≤ m.initialGas gasLimit) (hlimit : m.initialGas gasLimit ≤ k.gas) :
    (m.initialFrame code world gasLimit).Sound k where
  context :=
    { address := Address.normal_ofInt _
      originator := Address.normal_ofInt _
      sender := Address.normal_ofInt _
      code := hcode
      block := hblock
      gasPrice := Numbers.holds_zero
      input := held_input
      value := le_rfl
      apparentValue := Numbers.holds_zero
      completion := by rintro number ⟨⟩ }
  gas := hgas
  stake := by rwa [initialFrame_stake]
  stack := by rintro x ⟨⟩
  words := by rw [initialFrame_memoryWords]; rfl
  memory := Bytes.held_empty
  output := Bytes.held_empty
  returnData := Bytes.held_empty

/-- The machine that a launch begins with is sound. -/
theorem opening_sound (hblock : m.block.Sound k.numbers) (hcode : k.numbers.Holds code.size)
    (hgas : 0 ≤ m.initialGas gasLimit) (hlimit : m.initialGas gasLimit ≤ k.gas)
    (hworld : world.Sound k) (hbase : k.base = world.layers.length) :
    (m.opening code world gasLimit).Sound k where
  world := hworld.open_
  frames := by
    simpa [opening] using initialFrame_sound hblock hcode hgas hlimit
  reasons := by simp [opening, initialFrame, Frame.haltReason?]
  stake := by simpa [Machine.stake, opening, initialFrame_stake] using hlimit
  height := by
    rw [hbase]
    exact Nat.add_comm _ 1
  waits := trivial

theorem opening_frames_ne_nil : (m.opening code world gasLimit).frames ≠ [] := by
  rintro ⟨⟩

/-- A launch in natural numbers. -/
theorem starts_natural (code : Bytes) (hblock : m.block.Sound .natural)
    (hworld : world.IsNatural) (hgas : 0 ≤ m.initialGas gasLimit) :
    ∃ k : Scale, k.numbers = .natural ∧ (m.opening code world gasLimit).Starts {} k := by
  have hwealth := World.wealth_nonneg <|
    World.balance_nonneg_of_visible fun a account hv => (hworld a account hv).balance
  let k := Scale.natural world (m.initialGas gasLimit) hwealth hgas
  have haccounts : ∀ a account, world.get? a = some account → account.Sound k := by
    intro a account hv
    have h := hworld a account hv
    exact ⟨h.balance, h.storage, Int.natCast_nonneg _, by rintro ⟨⟩⟩
  have hsound := World.sound_of_visible (k := k) rfl haccounts le_rfl
  exact ⟨k, rfl, opening_sound hblock (Int.natCast_nonneg _) hgas le_rfl hsound rfl,
    by rintro n ⟨⟩, by rintro ⟨⟩⟩

/-- A launch in words. -/
theorem starts_words (hblock : m.block.Sound .word) (hcode : (code.size : Int) < Word.ceiling)
    (hworld : world.IsWordSized) (h₀ : 0 ≤ m.initialGas gasLimit)
    (h₁ : m.initialGas gasLimit < Word.ceiling) :
    ∃ k : Scale, k.numbers = .word ∧ k.gas = m.initialGas gasLimit ∧
      (m.opening code world gasLimit).Starts {} k := by
  have hwealth := World.wealth_nonneg <|
    World.balance_nonneg_of_visible fun a account hv => (hworld.accounts a account hv).balance
  let k := Scale.words world (m.initialGas gasLimit) ⟨hwealth, hworld.wealth⟩ ⟨h₀, h₁⟩
  have haccounts : ∀ a account, world.get? a = some account → account.Sound k := by
    intro a account hv
    have h := hworld.accounts a account hv
    refine ⟨h.balance, h.storage, ⟨Int.natCast_nonneg _, h.code⟩, fun _ => ⟨h.nonce.1, ?_⟩⟩
    exact h.nonce.2.le
  have hsound := World.sound_of_visible (k := k) rfl haccounts le_rfl
  refine ⟨k, rfl, rfl, opening_sound hblock ⟨Int.natCast_nonneg _, hcode⟩ h₀ le_rfl hsound rfl,
    fun n _ => ⟨by decide, ?_⟩, fun _ => ?_⟩
  · simp only [Scale.raisedBy, k, Scale.words]
    omega
  · rw [opening_movesLeft]
    simp only [k, Scale.words, Address.nonceLimit]
    unfold Word.ceiling at h₁
    omega

/-- A launch is a sequence of moves up to its end or to a fault. -/
theorem launch_concludes (m : Meter) (see : Observer σ) (code : Bytes) (world : World)
    (gasLimit : Int) (seen : σ) :
    (m.launch see code world gasLimit seen).Concludes {} (m.opening code world gasLimit) :=
  Machine.runFor_follows {} see _ _ opening_isReady opening_frames_ne_nil seen

def firstRound (m : Meter) (code : Bytes) (world : World) (gasLimit : Int) (seen : σ) : Round σ :=
  ⟨m.initialFrame code world gasLimit, m.opening code world gasLimit, seen, none⟩

/-- A launch ends as its rounds do. -/
theorem launch_eq_iterate (hstarts : (m.opening code world gasLimit).Starts {} k)
    (see : Observer σ) (seen : σ) {n : Nat} (hn : 2 * m.initialGas gasLimit + 1 ≤ n) :
    m.launch see code world gasLimit seen =
      (Round.next {} see)^[n] (m.firstRound code world gasLimit seen) := by
  have hallowance : 1 < Activity.allowance := Nat.one_lt_two_pow (by decide)
  rw [launch_eq]
  refine hstarts.runFor_eq opening_isReady _ seen ?_ ?_ <;> rw [opening_turnsLeft] <;> omega

/-- The rounds of a launch are over when the turns of its gas are used up. -/
theorem launch_isOver (hstarts : (m.opening code world gasLimit).Starts {} k)
    (see : Observer σ) (seen : σ) : (m.launch see code world gasLimit seen).IsOver := by
  have hn : 2 * m.initialGas gasLimit + 1 ≤ (2 * (m.initialGas gasLimit).toNat + 1 : Nat) := by
    omega
  rw [launch_eq_iterate hstarts see seen hn]
  exact Round.isOver_iterate see hstarts opening_isReady _ seen (by rwa [opening_turnsLeft])

theorem launch_stands (hstarts : (m.opening code world gasLimit).Starts {} k)
    (see : Observer σ) (seen : σ) :
    (m.launch see code world gasLimit seen).Stands {} (m.opening code world gasLimit) := by
  have hn : 2 * m.initialGas gasLimit + 1 ≤ (2 * (m.initialGas gasLimit).toNat + 1 : Nat) := by
    omega
  rw [launch_eq_iterate hstarts see seen hn]
  exact Round.stands_iterate see hstarts opening_isReady _ seen _

end Meter
end Gasometer
