import Gasometer.Fault

/-!
# Words

Words of the machine are integers. Between the operations of a well-formed run they lie in
`[0, 2 ^ 256)`; the operations are defined on all integers, in infinite two's complement, so that
preset values outside that range have a meaning too. Division rounds down, and so do right shifts.
-/
namespace Gasometer.Word

-- Powers are those of the core library, also where Mathlib offers its own.
attribute [local instance (high)] instPowNat

/-- One more than the largest word. -/
def ceiling : Int := 2 ^ (256 : Nat)

def signBit : Int := 2 ^ (255 : Nat)

def ofBool (b : Bool) : Int := if b then 1 else 0

/-- The lowest 256 bits. -/
def wrap (n : Int) : Int := n % ceiling

/-- The value of a word whose highest bit is its sign. -/
def toSigned (n : Int) : Int := if n / signBit % 2 = 1 then n - ceiling else n

/-- The bits of `a` that `b` lacks. -/
def clearBits (a b : Nat) : Nat := a ^^^ (a &&& b)

def and : Int → Int → Int
  | .ofNat a, .ofNat b => Int.ofNat (a &&& b)
  | .ofNat a, .negSucc b => Int.ofNat (clearBits a b)
  | .negSucc a, .ofNat b => Int.ofNat (clearBits b a)
  | .negSucc a, .negSucc b => Int.negSucc (a ||| b)

def or : Int → Int → Int
  | .ofNat a, .ofNat b => Int.ofNat (a ||| b)
  | .ofNat a, .negSucc b => Int.negSucc (clearBits b a)
  | .negSucc a, .ofNat b => Int.negSucc (clearBits a b)
  | .negSucc a, .negSucc b => Int.negSucc (a &&& b)

def xor : Int → Int → Int
  | .ofNat a, .ofNat b => Int.ofNat (a ^^^ b)
  | .ofNat a, .negSucc b => Int.negSucc (a ^^^ b)
  | .negSucc a, .ofNat b => Int.negSucc (a ^^^ b)
  | .negSucc a, .negSucc b => Int.ofNat (a ^^^ b)

def not (a : Int) : Int := xor (ceiling - 1) a

def div (a b : Int) : Int := if b = 0 then 0 else a.fdiv b

/-- The remainder of `div`, with the sign of the divisor, or zero. -/
def mod (a b : Int) : Int := if b = 0 then 0 else a.fmod b

/-- The signed quotient rounded toward zero, or zero. -/
def sdiv (a b : Int) : Int := if toSigned b = 0 then 0 else wrap ((toSigned a).tdiv (toSigned b))

/-- The signed remainder with the sign of the dividend, or zero. -/
def smod (a b : Int) : Int := if toSigned b = 0 then 0 else wrap ((toSigned a).tmod (toSigned b))

def addmod (a b n : Int) : Int := mod (a + b) n

def mulmod (a b n : Int) : Int := mod (a * b) n

def byteLength (n : Int) : Nat := if n = 0 then 0 else Nat.log2 n.natAbs / 8 + 1

/-- A power modulo `m`, by squaring. -/
def powMod (m b e : Nat) : Nat :=
  if e = 0 then 1 % m
  else
    let half := powMod m (b * b % m) (e / 2)
    if e % 2 = 1 then b * half % m else half
termination_by e

/-- A power modulo `2 ^ 256`. A negative power is one of the inverse, which odd numbers have: the
power with exponent `2 ^ 254 - 1`. -/
def exp (base exponent : Int) : Except Fault Int :=
  let b := (wrap base).toNat
  if 0 ≤ exponent then .ok (powMod (2 ^ (256 : Nat)) b exponent.toNat)
  else if b % 2 = 0 then .error .notInvertible
  else
    .ok (powMod (2 ^ (256 : Nat)) (powMod (2 ^ (256 : Nat)) b (2 ^ (254 : Nat) - 1))
      exponent.natAbs)

/-- Extends the sign of the number in the lowest `b + 1` bytes. -/
def signExtend (b x : Int) : Except Fault Int :=
  if 31 ≤ b then .ok x
  else
    let bit := b * 8 + 7
    if bit < 0 then .error .negativeShift
    else
      let low : Int := 2 ^ bit.toNat
      if x / low % 2 = 1 then .ok (x % low + (ceiling - low)) else .ok (x % low)

def byte (i x : Int) : Int := if 32 ≤ i then 0 else (x >>> (248 - i * 8).toNat) % 256

def shl (shift x : Int) : Except Fault Int :=
  if 256 ≤ shift then .ok 0
  else if shift < 0 then .error .negativeShift
  else .ok (wrap (x * 2 ^ shift.toNat))

def shr (shift x : Int) : Except Fault Int :=
  if 256 ≤ shift then .ok 0
  else if shift < 0 then .error .negativeShift
  else .ok (x / 2 ^ shift.toNat)

def sar (shift x : Int) : Except Fault Int :=
  let x := toSigned x
  if 256 ≤ shift then .ok (if 0 ≤ x then 0 else ceiling - 1)
  else if shift < 0 then .error .negativeShift
  else .ok (wrap (x / 2 ^ shift.toNat))

@[simp] theorem wrap_nonneg (n : Int) : 0 ≤ wrap n := Int.emod_nonneg _ (by decide)

@[simp] theorem wrap_lt (n : Int) : wrap n < ceiling := Int.emod_lt_of_pos _ (by decide)

theorem wrap_of_lt {n : Int} (h₀ : 0 ≤ n) (h₁ : n < ceiling) : wrap n = n :=
  Int.emod_eq_of_lt h₀ h₁

end Gasometer.Word
