import Gasometer.Address

/-!
# The block

What a program can learn about the block that it runs in.
-/
namespace Gasometer

/-- The values of a block. `hashes` gives the digests of the blocks before it. -/
structure Block where
  number : Int := 1
  timestamp : Int := 0
  coinbase : Address := Address.zero
  gasLimit : Int := 30000000
  difficulty : Int := 0
  baseFee : Int := 10
  chainId : Int := 10
  hashes : Int → Option Bytes := fun _ => none

instance : Inhabited Block := ⟨{}⟩

/-- The digest of a block as a word: zero unless it is one of the last 256 blocks. -/
def Block.hashOf (b : Block) (number : Int) : Int :=
  if b.number - 256 ≤ number ∧ number < b.number then
    match b.hashes number with
    | some hash => (hash.toNat : Int)
    | none => 0
  else 0

end Gasometer
