import Gasometer.Fault

/-!
# Byte strings

Byte strings with their hexadecimal text, their big-endian numbers, and ranges whose ends may lie
outside: an end below zero counts from the right, and every end is brought back into the string.
-/
namespace Gasometer

-- Powers are those of the core library, also where Mathlib offers its own.
attribute [local instance (high)] instPowNat

abbrev Bytes := Array UInt8

namespace Bytes

def hexByte (b : UInt8) : List Char := Text.hexDigits 2 b.toNat

def toHex (bs : Bytes) : String := String.ofList (bs.toList.flatMap hexByte)

def hexValue? (c : Char) : Option Nat :=
  let n := c.toNat
  if 0x30 ≤ n && n ≤ 0x39 then some (n - 0x30)
  else if 0x61 ≤ n && n ≤ 0x66 then some (n - 0x61 + 10)
  else if 0x41 ≤ n && n ≤ 0x46 then some (n - 0x41 + 10)
  else none

def isGap (c : Char) : Bool := (9 ≤ c.toNat && c.toNat ≤ 13) || c.toNat == 0x20

/-- Reads pairs of digits; `position` is the index of the first character. -/
def readHex (position : Nat) (done : Bytes) : List Char → Except Fault Bytes
  | [] => .ok done
  | c :: r =>
    if isGap c then readHex (position + 1) done r
    else match hexValue? c, r with
      | none, _ => .error (.hexText position)
      | some _, [] => .error (.hexText (position + 1))
      | some h, d :: r' =>
        match hexValue? d with
        | none => .error (.hexText (position + 1))
        | some l => readHex (position + 2) (done.push (UInt8.ofNat (h * 16 + l))) r'

/-- Reads hexadecimal text: two digits a byte, with blanks allowed between bytes. The fault names
the first bad character; one outside ASCII is named before all others. -/
def ofHexChars (s : List Char) : Except Fault Bytes :=
  match s.findIdx? (fun c => 0x80 ≤ c.toNat) with
  | some position => .error (.hexText position)
  | none => readHex 0 #[] s

def ofHex (text : String) : Except Fault Bytes := ofHexChars text.toList

/-- The number that the bytes spell, most significant first. -/
def toNat (bs : Bytes) : Nat := bs.foldl (fun n b => n * 256 + b.toNat) 0

/-- The lowest `width` bytes of a number, most significant first. -/
def ofNat (width n : Nat) : Bytes :=
  Array.ofFn fun i : Fin width => UInt8.ofNat (n >>> (8 * (width - 1 - i.val)))

def widthOf (n : Nat) : Nat := if n = 0 then 0 else Nat.log2 n / 8 + 1

def ofInt (width : Nat) (n : Int) : Except Fault Bytes :=
  if n < 0 then .error .negative
  else if widthOf n.toNat > width then .error .tooBig
  else .ok (ofNat width n.toNat)

def maxSize : Int := 2 ^ (40 : Nat)

def checkSize (size : Int) : Except Fault Unit :=
  if size > maxSize then .error .exhausted else .ok ()

def zeros (size : Int) : Except Fault Bytes :=
  if size < 0 then .error .negativeCount
  else if size ≥ 2 ^ (63 : Nat) then .error .sizeRange
  else if size > maxSize then .error .exhausted
  else .ok (Array.replicate size.toNat 0)

/-- Where an end of a range falls in a string of `size` bytes. -/
def bound (size : Nat) (i : Int) : Nat :=
  if i < 0 then (i + size).toNat else min i.toNat size

/-- The bytes from `start` up to `stop`. -/
def slice (bs : Bytes) (start stop : Int) : Bytes :=
  bs.extract (bound bs.size start) (bound bs.size stop)

/-- Puts `new` in the place of the bytes from `start` up to `stop`. -/
def splice (bs : Bytes) (start stop : Int) (new : Bytes) : Bytes :=
  let a := bound bs.size start
  let b := max a (bound bs.size stop)
  if b - a = new.size then
    (List.range new.size).foldl (fun m i => m.setIfInBounds (a + i) (new.getD i 0)) bs
  else bs.extract 0 a ++ new ++ bs.extract b bs.size

/-- The `size` bytes from `offset`; what lies past the end is zero. -/
def padded (bs : Bytes) (offset size : Int) : Except Fault Bytes :=
  if offset ≥ bs.size then zeros size
  else
    let chunk := bs.slice offset (offset + size)
    return chunk ++ (← zeros (size - chunk.size))

@[simp] theorem size_ofNat (width n : Nat) : (ofNat width n).size = width := by simp [ofNat]

theorem size_zeros {size : Int} {bs : Bytes} (h : zeros size = .ok bs) : bs.size = size.toNat := by
  unfold zeros at h
  split at h <;> try contradiction
  split at h <;> try contradiction
  split at h <;> try contradiction
  cases h
  simp

end Bytes
end Gasometer
