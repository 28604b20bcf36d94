import Gasometer.Proofs.Numbers
import Mathlib.Algebra.Order.BigOperators.Group.Finset

/-!
# Sound accounts

A scale says how large the numbers of a run may become. The accounts that are visible through a pile
of layers are sound for a scale if each of them keeps to it and if no set of accounts holds more
than the wealth of the run. An operation writes few accounts; the wealth is kept if the accounts
written hold no more together than before.
-/
namespace Gasometer

/-- How large the numbers of a run may become. -/
structure Scale where
  numbers : Numbers
  /-- What a frame may hold in gas and in the memory that it has paid. -/
  gas : Int
  /-- What all accounts may hold together. -/
  wealth : Int
  /-- The largest nonce. -/
  nonce : Nat
  /-- The layers of the world beneath the first frame. -/
  base : Nat
  holds_gas : numbers.Holds gas
  holds_wealth : numbers.Holds wealth
  base_pos : 0 < base

namespace Scale

def raised (k : Scale) : Scale := { k with nonce := k.nonce + 1 }

def raisedBy (k : Scale) (n : Nat) : Scale := { k with nonce := k.nonce + n }

theorem raisedBy_raisedBy (k : Scale) (m n : Nat) :
    (k.raisedBy m).raisedBy n = k.raisedBy (m + n) := by
  rw [raisedBy, raisedBy, raisedBy, Nat.add_assoc]

@[simp] theorem raised_gas (k : Scale) : k.raised.gas = k.gas := rfl

@[simp] theorem raised_base (k : Scale) : k.raised.base = k.base := rfl

end Scale

/-- An account whose numbers keep to the scale. Nonces matter only where addresses must not fail. -/
structure Account.Sound (k : Scale) (account : Account) : Prop where
  balance : 0 ≤ account.balance
  storage : ∀ key, k.numbers.Holds (account.load key)
  code : k.numbers.Holds account.code.size
  nonce : k.numbers = .word → 0 ≤ account.nonce ∧ account.nonce ≤ k.nonce

namespace Account

variable {k : Scale} {account : Account}

theorem sound_default : Account.Sound k {} where
  balance := le_rfl
  storage _ := Numbers.holds_zero
  code := Numbers.holds_zero
  nonce _ := ⟨le_rfl, Int.natCast_nonneg _⟩

theorem Sound.raised (h : account.Sound k) : account.Sound k.raised where
  balance := h.balance
  storage := h.storage
  code := h.code
  nonce hk := by
    have hn := h.nonce hk
    refine ⟨hn.1, hn.2.trans ?_⟩
    simp [Scale.raised]

/-- One more contract made by this account. -/
theorem Sound.succ_nonce (h : account.Sound k) :
    Account.Sound k.raised { account with nonce := account.nonce + 1 } where
  balance := h.balance
  storage := h.storage
  code := h.code
  nonce hk := by
    have hn := h.nonce hk
    simp only [Scale.raised, Nat.cast_add, Nat.cast_one]
    omega

theorem Sound.store (h : account.Sound k) (key : Int) {value : Int}
    (hv : k.numbers.Holds value) : (account.store key value).Sound k where
  balance := h.balance
  storage key' := by
    rw [load_store]
    split_ifs
    · exact hv
    · exact h.storage key'
  code := h.code
  nonce := h.nonce

theorem Sound.of_balance (h : account.Sound k) {balance : Int} (hb : 0 ≤ balance) :
    Account.Sound k { account with balance := balance } where
  balance := hb
  storage := h.storage
  code := h.code
  nonce := h.nonce

end Account

/-- What is visible of the accounts. -/
abbrev View := Address → Option Account

namespace View
open Finset

variable {k : Scale} {v v' : View} {a b : Address}

def balance (v : View) (a : Address) : Int := ((v a).getD {}).balance

def put (v : View) (a : Address) (entry : Option Account) : View :=
  fun b => if a = b then entry else v b

theorem put_self (v : View) (a : Address) (entry : Option Account) : v.put a entry a = entry :=
  if_pos rfl

theorem put_of_ne (v : View) (h : a ≠ b) (entry : Option Account) : v.put a entry b = v b :=
  if_neg h

theorem put_put (v : View) (a : Address) (entry entry' : Option Account) :
    (v.put a entry).put a entry' = v.put a entry' := by
  funext b
  by_cases h : a = b <;> simp [put, h]

/-- Sound accounts that hold no more than the wealth of the run together. -/
structure Sound (k : Scale) (v : View) : Prop where
  accounts : ∀ a account, v a = some account → account.Sound k
  wealth : ∀ s : Finset Address, ∑ a ∈ s, v.balance a ≤ k.wealth

theorem Sound.getD (h : v.Sound k) (a : Address) : ((v a).getD {}).Sound k := by
  cases hv : v a with
  | none => exact Account.sound_default
  | some account => exact h.accounts a account hv

theorem Sound.balance_nonneg (h : v.Sound k) (a : Address) : 0 ≤ v.balance a := (h.getD a).balance

theorem Sound.balance_le (h : v.Sound k) (a : Address) : v.balance a ≤ k.wealth := by
  simpa using h.wealth {a}

theorem Sound.holds_balance (h : v.Sound k) (a : Address) : k.numbers.Holds (v.balance a) :=
  k.holds_wealth.of_le (h.balance_nonneg a) (h.balance_le a)

theorem Sound.raised (h : v.Sound k) : v.Sound k.raised :=
  ⟨fun a account hv => (h.accounts a account hv).raised, h.wealth⟩

/-- Writing the accounts of `t` keeps a view sound if they hold no more together than before. -/
theorem Sound.of_agree (h : v.Sound k) {t : Finset Address} (hagree : ∀ a ∉ t, v' a = v a)
    (hsound : ∀ a ∈ t, ∀ account, v' a = some account → account.Sound k)
    (hsum : ∑ a ∈ t, v'.balance a ≤ ∑ a ∈ t, v.balance a) : v'.Sound k := by
  have haccounts : ∀ a account, v' a = some account → account.Sound k := by
    intro a account ha
    by_cases hat : a ∈ t
    · exact hsound a hat account ha
    · exact h.accounts a account (hagree a hat ▸ ha)
  have hnonneg : ∀ a, 0 ≤ v'.balance a := by
    intro a
    unfold balance
    cases hv : v' a with
    | none => exact le_rfl
    | some account => exact (haccounts a account hv).balance
  refine ⟨haccounts, fun s => ?_⟩
  have hrest : ∑ a ∈ (s ∪ t) \ t, v'.balance a = ∑ a ∈ (s ∪ t) \ t, v.balance a := by
    refine sum_congr rfl fun a ha => ?_
    rw [balance, hagree a (mem_sdiff.1 ha).2, balance]
  calc ∑ a ∈ s, v'.balance a
      ≤ ∑ a ∈ s ∪ t, v'.balance a :=
        sum_le_sum_of_subset_of_nonneg subset_union_left fun a _ _ => hnonneg a
    _ = ∑ a ∈ (s ∪ t) \ t, v'.balance a + ∑ a ∈ t, v'.balance a :=
        (sum_sdiff subset_union_right).symm
    _ ≤ ∑ a ∈ (s ∪ t) \ t, v.balance a + ∑ a ∈ t, v.balance a := by
        rw [hrest]
        exact Int.add_le_add_left hsum _
    _ = ∑ a ∈ s ∪ t, v.balance a := sum_sdiff subset_union_right
    _ ≤ k.wealth := h.wealth _

/-- Writing one account that is not richer than before. -/
theorem Sound.put (h : v.Sound k) (a : Address) {entry : Option Account}
    (hsound : ∀ account, entry = some account → account.Sound k)
    (hbalance : (entry.getD {}).balance ≤ v.balance a) : (v.put a entry).Sound k := by
  refine h.of_agree (t := {a}) (fun b hb => v.put_of_ne ?_ entry) ?_ ?_
  · rintro rfl
    exact hb (mem_singleton_self a)
  · intro b hb account hv
    obtain rfl := mem_singleton.1 hb
    exact hsound account (v.put_self b entry ▸ hv)
  · simpa [balance, put_self] using hbalance

/-- Writing two accounts that hold no more together than before. -/
theorem Sound.put_two (h : v.Sound k) (hab : a ≠ b) {x y : Account} (hx : x.Sound k)
    (hy : y.Sound k) (hsum : x.balance + y.balance ≤ v.balance a + v.balance b) :
    ((v.put a (some x)).put b (some y)).Sound k := by
  have ha : (v.put a (some x)).put b (some y) a = some x := by
    rw [put_of_ne _ hab.symm, put_self]
  have hb : (v.put a (some x)).put b (some y) b = some y := put_self ..
  refine h.of_agree (t := {a, b}) ?_ ?_ ?_
  · intro c hc
    simp only [mem_insert, mem_singleton, not_or] at hc
    rw [put_of_ne _ (Ne.symm hc.2), put_of_ne _ (Ne.symm hc.1)]
  · intro c hc account hv
    simp only [mem_insert, mem_singleton] at hc
    rcases hc with rfl | rfl
    · rw [ha] at hv; cases hv; exact hx
    · rw [hb] at hv; cases hv; exact hy
  · rw [sum_pair hab, sum_pair hab]
    simpa [balance, ha, hb] using hsum

end View
end Gasometer
