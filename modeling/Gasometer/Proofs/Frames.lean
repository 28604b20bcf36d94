import Gasometer.Proofs.Addresses
import Gasometer.Proofs.Layers
import Gasometer.Proofs.Prices

/-!
# Sound frames

A frame is sound for a scale if its stack holds numbers of the run, its gas is not negative, and its
gas and the price of its memory together, its stake, keep to the scale. Paying for memory moves gas
into the memory and keeps the stake, so the stake bounds how large a memory can become.
-/
namespace Gasometer

structure Block.Sound (n : Numbers) (b : Block) : Prop where
  number : n.Holds b.number
  timestamp : n.Holds b.timestamp
  gasLimit : n.Holds b.gasLimit
  difficulty : n.Holds b.difficulty
  baseFee : n.Holds b.baseFee
  chainId : n.Holds b.chainId
  coinbase : b.coinbase.IsHex
  hashes : n = .word → ∀ i hash, b.hashes i = some hash → hash.size ≤ 32

theorem Block.Sound.hashOf {n : Numbers} {b : Block} (h : b.Sound n) (i : Int) :
    n.Holds (b.hashOf i) := by
  unfold Block.hashOf
  split_ifs
  · cases hi : b.hashes i with
    | none => exact Numbers.holds_zero
    | some hash =>
      have hnonneg : 0 ≤ (hash.toNat : Int) := Int.natCast_nonneg _
      cases n with
      | natural => exact hnonneg
      | word => exact ⟨hnonneg, Bytes.toNat_lt_of_size_le (h.hashes rfl i hash hi)⟩
  · exact Numbers.holds_zero

def Bytes.Held (bs : Bytes) : Prop := (bs.size : Int) ≤ maxSize

namespace Bytes

variable {n : Numbers} {bs : Bytes}

theorem held_empty : Held #[] := by unfold Held; decide

theorem Held.slice (h : bs.Held) (start stop : Int) : (bs.slice start stop).Held := by
  have := size_slice_le bs start stop
  unfold Held at *
  omega

/-- The size of a byte string that can be held is a number of the run. -/
theorem Held.holds (h : bs.Held) : n.Holds bs.size :=
  .of_lt (Int.natCast_nonneg _) (h.trans_lt (by decide))

end Bytes

theorem Numbers.holds_address {n : Numbers} {a : Address} (h : a.IsHex) :
    ∃ v, a.toInt = .ok v ∧ n.Holds v := by
  obtain ⟨v, hv, h₀, h₁⟩ := h.toInt_ok
  exact ⟨v, hv, .of_lt h₀ (h₁.trans (by decide))⟩

structure Context.Sound (n : Numbers) (c : Context) : Prop where
  address : c.address.Normal
  originator : c.originator.Normal
  sender : c.sender.Normal
  code : n.Holds c.code.size
  block : c.block.Sound n
  gasPrice : n.Holds c.gasPrice
  input : c.input.Held
  value : 0 ≤ c.value
  apparentValue : n.Holds c.apparentValue
  completion : ∀ number, c.completion = .creation number → n.Holds number

namespace Frame

def stake (f : Frame) : Int := f.gas + Gas.memoryCost f.memoryWords

structure Sound (k : Scale) (f : Frame) : Prop where
  context : f.context.Sound k.numbers
  gas : 0 ≤ f.gas
  stake : f.stake ≤ k.gas
  stack : ∀ x ∈ f.stack.items, k.numbers.Holds x
  words : f.memory.size = f.memoryWords * 32
  memory : f.memory.Held
  output : f.output.Held
  returnData : f.returnData.Held

variable {k : Scale} {f : Frame}

theorem gas_le_stake (f : Frame) : f.gas ≤ f.stake := by
  have := Gas.memoryCost_nonneg (Int.natCast_nonneg f.memoryWords)
  unfold Frame.stake
  omega

theorem Sound.holds_gas (h : f.Sound k) : k.numbers.Holds f.gas :=
  k.holds_gas.of_le h.gas (f.gas_le_stake.trans h.stake)

/-- A frame with the same memory and no more gas has no larger stake. -/
theorem stake_mono {g : Frame} (hmemory : g.memory = f.memory) (hgas : g.gas ≤ f.gas) :
    g.stake ≤ f.stake := by
  simp only [stake, memoryWords, hmemory]
  omega

theorem stake_pay (f : Frame) (amount : Int) :
    stake { f with gas := f.gas - amount } = f.stake - amount := by
  simp only [stake, memoryWords]
  omega

/-- Spending gas keeps a frame sound as long as some is left. -/
theorem Sound.spend (h : f.Sound k) {gas : Int} (h₀ : 0 ≤ gas) (h₁ : gas ≤ f.gas) :
    Sound k { f with gas := gas } := by
  have hstake : Frame.stake { f with gas := gas } ≤ f.stake := stake_mono rfl h₁
  exact { h with gas := h₀, stake := hstake.trans h.stake }

theorem Sound.raised (h : f.Sound k) : f.Sound k.raised :=
  ⟨h.context, h.gas, h.stake, h.stack, h.words, h.memory, h.output, h.returnData⟩

end Frame

structure Activity.Sound (k : Scale) (a : Activity) : Prop where
  frame : a.frame.Sound k
  world : a.world.Sound k

theorem Activity.Sound.raised {k : Scale} {a : Activity} (h : a.Sound k) : a.Sound k.raised :=
  ⟨h.frame.raised, h.world.raised⟩

end Gasometer
