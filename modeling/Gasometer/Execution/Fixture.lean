import Gasometer.World.Basic

/-!
# The fixture

Every measured program starts in the same world: a funded sender, the receiver that holds the
program, a contract that returns the address of its caller, and one that reverts.
-/
namespace Gasometer.Fixture

-- Powers are those of the core library, also where Mathlib offers its own.
attribute [local instance (high)] instPowNat

def sender : Address := Address.ofInt 0x12345678

def receiver : Address := Address.ofInt 0x9abcdef0

def returningNumber : Int := 0xca11e

def revertingNumber : Int := 0xdead5

def returning : Address := Address.ofInt returningNumber

def reverting : Address := Address.ofInt revertingNumber

def senderBalance : Int := 2 ^ (20 : Nat)

def contractBalance : Int := 0x0ba1a9ce0ba1a9ce

def presetSlot : Int := 0x54

def presetValue : Int := 0x99

def returningCode : Bytes := #[0x33, 0x60, 0x00, 0x52, 0x60, 0x20, 0x60, 0x00, 0xf3]

/-- Writes to the storage, then reverts with one byte. -/
def revertingCode : Bytes :=
  #[0x60, 0x55, 0x60, 0x55, 0x55, 0x60, 0x43, 0x60, 0xa0, 0x52, 0x60, 0x01, 0x60, 0xa0, 0xfd]

def addresses : List Address := [sender, receiver, returning, reverting]

/-- A world in which the receiver holds this program. -/
def world (code : Bytes) : World :=
  let contract (code : Bytes) : Account := { balance := contractBalance, code := code }
  let receiving : Account := { code := code }
  World.write {} sender (some { balance := senderBalance })
    |>.write receiver (some (receiving.store presetSlot presetValue))
    |>.write returning (some (contract returningCode))
    |>.write reverting (some (contract revertingCode))

def snapshot (w : World) : List (Address × Option Account) :=
  addresses.map fun a => (a, w.get? a)

/-- The input of the call: a transfer of tokens, with a receiver and an amount. -/
def input : Bytes :=
  #[0xa9, 0x05, 0x9c, 0xbb] ++ Bytes.ofNat 32 0x4bbeeb066ed09b7aed07bf39eee0460dfa261520 ++
    Bytes.ofNat 32 0x02a34892d36d6c74

/-- The accounts that are warm from the beginning: both ends of the call, and the nine built-in
contracts. -/
def warm : List Address :=
  [sender, receiver] ++ (List.range 9).map fun n => Address.ofInt (Int.ofNat n + 1)

end Gasometer.Fixture
