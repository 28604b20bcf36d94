import Gasometer.Keccak
import Gasometer.Text.Case
import Gasometer.Text.Numeral

/-!
# Addresses

An account is named by a text. A normalised address is `0x` and forty small hexadecimal digits;
integers, byte strings and hexadecimal texts are all brought into this form. A text that is not
hexadecimal is kept as it is written, and has neither a number nor bytes.

New contracts are placed at addresses hashed from their creator.
-/
namespace Gasometer

-- Powers are those of the core library, also where Mathlib offers its own.
attribute [local instance (high)] instPowNat

structure Address where
  text : String
  deriving DecidableEq, Repr, Inhabited

namespace Address

/-- The address of a number: its lowest 160 bits. -/
def ofInt (n : Int) : Address :=
  ⟨String.ofList ('0' :: 'x' :: Text.hexDigits 40 (n % 2 ^ (160 : Nat)).toNat)⟩

def ofBytes (bs : Bytes) : Address := ofInt (bs.slice (-20) bs.size).toNat

/-- Brings a text into the normal form: small letters, one `0x`, at least forty digits. -/
def ofText (text : String) : Except Fault Address :=
  let digits := match Text.lower text.toList with
    | '0' :: 'x' :: r => r
    | s => s
  if digits.length > 40 then .error (.addressLength text)
  else .ok ⟨String.ofList ('0' :: 'x' :: (List.replicate (40 - digits.length) '0' ++ digits))⟩

def zero : Address := ofInt 0

def toInt (a : Address) : Except Fault Int := Text.parseInt .sixteen a.text

def toBytes (a : Address) : Except Fault Bytes := Bytes.ofHexChars (a.text.toList.drop 2)

def le (a b : Address) : Bool := decide (a.text ≤ b.text)

def byte (n : Int) : Except Fault Bytes :=
  if 0 ≤ n ∧ n < 256 then .ok #[UInt8.ofNat n.toNat] else .error .bytesRange

/-- A nonce as an item of a recursive-length-prefix list: zero is the empty string, a small one
its own byte, any other its bytes after their count. -/
def encodeNonce (nonce : Int) : Except Fault Bytes :=
  if nonce = 0 then .ok #[0x80]
  else if nonce < 0x80 then byte nonce
  else
    let raw := Bytes.ofNat (Bytes.widthOf nonce.toNat) nonce.toNat
    return (← byte (0x80 + raw.size)) ++ raw

/-- The recursive-length-prefix list of a sender and a nonce. -/
def creationPayload (sender : Bytes) (nonce : Int) : Except Fault Bytes := do
  let encodedNonce ← encodeNonce nonce
  let payload := (← byte (0x80 + sender.size)) ++ sender ++ encodedNonce
  return (← byte (0xc0 + payload.size)) ++ payload

def created (sender : Address) (nonce : Int) : Except Fault Address := do
  let payload ← creationPayload (← sender.toBytes) nonce
  return ofBytes (Keccak.hash payload)

/-- What is hashed for `CREATE2`: a mark, the sender, the salt and the digest of the code. -/
def saltedPayload (sender : Bytes) (salt : Bytes) (initCode : Bytes) : Bytes :=
  #[0xff] ++ sender ++ salt ++ Keccak.hash initCode

def createdSalted (sender : Address) (salt : Int) (initCode : Bytes) : Except Fault Address := do
  let senderBytes ← sender.toBytes
  let saltBytes ← Bytes.ofInt 32 salt
  return ofBytes (Keccak.hash (saltedPayload senderBytes saltBytes initCode))

end Address
end Gasometer
