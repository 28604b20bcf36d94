import Gasometer.Fault

/-!
# Double-precision numbers

A binary64 number is not a number, an infinity, or a sign with a mantissa and an exponent of two.
Numbers are made from exact quotients by one rounding to nearest, ties to the even mantissa.
-/
namespace Gasometer

-- Powers are those of the core library, also where Mathlib offers its own.
attribute [local instance (high)] instPowNat

/-- A binary64 number. A finite one is `mantissa * 2 ^ exponent` with its sign; the mantissa has
at most 53 bits, and exactly 53 unless the exponent is the least one, `-1074`. -/
inductive Binary64
  | nan
  | infinite (minus : Bool)
  | finite (minus : Bool) (mantissa : Nat) (exponent : Int)
  deriving DecidableEq, Repr, Inhabited

namespace Binary64

def leastExponent : Int := -1074

/-- The quotient of `num` by `den`, rounded to nearest, ties to even. -/
def roundQuotient (num den : Nat) : Nat :=
  let q := num / den
  let r := num % den
  if 2 * r > den ∨ (2 * r = den ∧ q % 2 = 1) then q + 1 else q

def scale (num den : Nat) (exponent : Int) : Nat × Nat :=
  if 0 ≤ exponent then (num, den * 2 ^ exponent.toNat) else (num * 2 ^ exponent.natAbs, den)

/-- The exponent at which `num / den` has a mantissa of 53 bits, or the least exponent. -/
def exponentOf (num den : Nat) : Int :=
  let guess := (Nat.log2 num : Int) - Nat.log2 den - 53
  let (n, d) := scale num den guess
  max leastExponent (if n / d ≥ 2 ^ (53 : Nat) then guess + 1 else guess)

/-- The number nearest to `num / den`; `den` is not zero. -/
def ofQuotient (minus : Bool) (num den : Nat) : Binary64 :=
  if num = 0 then finite minus 0 leastExponent
  else
    let e := exponentOf num den
    let (n, d) := scale num den e
    let m := roundQuotient n d
    let (m, e) := if m = 2 ^ (53 : Nat) then (2 ^ (52 : Nat), e + 1) else (m, e)
    if e > 971 then infinite minus else finite minus m e

def ofInt (n : Int) : Binary64 := ofQuotient (n < 0) n.natAbs 1

def ofDecimal (minus : Bool) (digits : Nat) (exponent : Int) : Binary64 :=
  if 0 ≤ exponent then ofQuotient minus (digits * 10 ^ exponent.toNat) 1
  else ofQuotient minus digits (10 ^ exponent.natAbs)

/-- The quotient of two integers, rounded once. It is refused if the divisor is zero or the
quotient exceeds every finite number. -/
def divide (a b : Int) : Except Fault Binary64 :=
  if b = 0 then .error .divisionByZero
  else match ofQuotient ((a < 0) != (b < 0)) a.natAbs b.natAbs with
    | infinite _ => .error .quotientRange
    | x => .ok x

def magnitude (m : Nat) (e : Int) : Nat × Nat :=
  if 0 ≤ e then (m * 2 ^ e.toNat, 1) else (m, 2 ^ e.natAbs)

/-- The product with a natural number, rounded once. -/
def scaleBy (factor : Nat) : Binary64 → Binary64
  | finite minus m e =>
    let (n, d) := magnitude m e
    ofQuotient minus (n * factor) d
  | x => x

/-- The number nearest to the value rounded to `places` decimal places, ties to even. -/
def roundPlaces (places : Nat) : Binary64 → Binary64
  | finite minus m e =>
    let (n, d) := magnitude m e
    ofQuotient minus (roundQuotient (n * 10 ^ places) d) (10 ^ places)
  | x => x

def isFinite : Binary64 → Bool
  | finite .. => true
  | _ => false

def toBits : Binary64 → Nat
  | nan => 0x7ff8000000000000
  | infinite minus => (if minus then 2 ^ (63 : Nat) else 0) + 0x7ff0000000000000
  | finite minus m e =>
    (if minus then 2 ^ (63 : Nat) else 0) +
      if m < 2 ^ (52 : Nat) then m else (e + 1075).toNat * 2 ^ (52 : Nat) + (m - 2 ^ (52 : Nat))

def ofBits (bits : Nat) : Binary64 :=
  let minus : Bool := bits / 2 ^ (63 : Nat) % 2 == 1
  let biased : Nat := bits / 2 ^ (52 : Nat) % 2 ^ (11 : Nat)
  let fraction : Nat := bits % 2 ^ (52 : Nat)
  if biased = 0x7ff then if fraction = 0 then infinite minus else nan
  else if biased = 0 then finite minus fraction leastExponent
  else finite minus (fraction + 2 ^ (52 : Nat)) ((biased : Int) - 1075)

end Binary64
end Gasometer
