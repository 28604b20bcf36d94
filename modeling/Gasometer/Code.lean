import Gasometer.Keccak
import Gasometer.Opcode.Basic

/-!
# Code and its jump destinations

Code is read from its first byte: an operation, then the data of a push, then the next operation.
A jump may lead to the bytes `0x5b` that this reading meets as operations, never to one inside the
data of a push.
-/
namespace Gasometer

/-- The bytes of data after the operation with this byte. -/
def Opcode.dataWidth (b : UInt8) : Nat :=
  if 0x60 ≤ b.toNat ∧ b.toNat < 0x80 then b.toNat - 0x5f else 0

/-- Reads one byte: `marked.2` bytes of push data are still to come. -/
def Code.markNext (marked : Array Bool × Nat) (b : UInt8) : Array Bool × Nat :=
  match marked.2 with
  | rest + 1 => (marked.1.push false, rest)
  | 0 => (marked.1.push (b == 0x5b), Opcode.dataWidth b)

def Code.markAll (bs : Bytes) : Array Bool := (bs.foldl markNext (#[], 0)).1

/-- A program with its jump destinations, which are found when they are first asked for. -/
structure Code where
  bytes : Bytes
  marks : Thunk (Array Bool) := Thunk.mk fun _ => Code.markAll bytes
  marks_eq : marks.get = Code.markAll bytes := by rfl

namespace Code

def ofBytes (bs : Bytes) : Code := { bytes := bs }

instance : Inhabited Code := ⟨ofBytes #[]⟩

def size (c : Code) : Nat := c.bytes.size

def isJumpDest (c : Code) (place : Nat) : Bool := c.marks.get.getD place false

def jumpDests (c : Code) : List Nat := (List.range c.size).filter c.isJumpDest

def hash (c : Code) : Bytes := Keccak.hash c.bytes

def describe (c : Code) : String := s!"Code({c.size} bytes)"

@[simp] theorem bytes_ofBytes (bs : Bytes) : (ofBytes bs).bytes = bs := rfl

end Code
end Gasometer
