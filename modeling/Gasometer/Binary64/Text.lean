import Gasometer.Binary64.Basic
import Gasometer.Text.Numeral

/-!
# Decimal text of double-precision numbers

Two forms. The shortest form has the fewest digits that read back as the number, and of those the
nearest to it; it is positional from `0.0001` up to `10 ^ 16` and has an exponent outside. The
fixed form has a given number of places, rounded from the exact value, ties to even, with
thousands separators.
-/
namespace Gasometer.Binary64

-- Powers are those of the core library, also where Mathlib offers its own.
attribute [local instance (high)] instPowNat

/-- The least `k` with `num / den < 10 ^ k`, searched upward from `k`. -/
def decimalExponentFrom (num den : Nat) : Nat → Int → Int
  | 0, k => k
  | fuel + 1, k =>
    let below := if 0 ≤ k then num < den * 10 ^ k.toNat else num * 10 ^ k.natAbs < den
    if below then k else decimalExponentFrom num den fuel (k + 1)

/-- The least `k` with `num / den < 10 ^ k`. The logarithm in base two, taken times `0.301`, is at
most a few places short. -/
def decimalExponent (num den : Nat) : Int :=
  let guess := ((Nat.log2 num : Int) - Nat.log2 den - 1) * 1233 / 4096 - 1
  decimalExponentFrom num den 16 guess

def neighbours (num den : Nat) (step : Int) : Nat × Nat × Nat × Nat :=
  let (n, d) := if 0 ≤ step then (num, den * 10 ^ step.toNat) else (num * 10 ^ step.natAbs, den)
  (n / d, n / d + 1, n % d, d)

/-- The digits, with the power of ten of their last place, of the shortest decimal fraction that
reads back as the positive number `x = m * 2 ^ e`, trying `fuel` further lengths from `length`. -/
def shortestFrom (x : Binary64) (num den : Nat) (k : Int) : Nat → Nat → Nat × Int
  | 0, length => ((neighbours num den (k - length)).1, k - length)
  | fuel + 1, length =>
    let step := k - length
    let (low, high, rest, d) := neighbours num den step
    let readsBack (digits : Nat) : Bool := decide (ofDecimal false digits step = x)
    match readsBack low, readsBack high with
    | true, false => (low, step)
    | false, true => (high, step)
    | true, true =>
      if 2 * rest < d ∨ (2 * rest = d ∧ low % 2 = 0) then (low, step) else (high, step)
    | false, false => shortestFrom x num den k fuel (length + 1)

/-- The digits and the exponent of the shortest decimal fraction of `m * 2 ^ e`, without zeros at
the end: the value is `0.digits * 10 ^ exponent`. -/
def shortestDigits (m : Nat) (e : Int) : List Char × Int :=
  let (num, den) := magnitude m e
  let k := decimalExponent num den
  let (digits, step) := shortestFrom (finite false m e) num den k 17 1
  let cs := Nat.toDigits 10 digits
  let exponent := step + cs.length
  ((cs.reverse.dropWhile (· == '0')).reverse, exponent)

/-- Lays out digits with value `0.digits * 10 ^ exponent`. -/
def layOut (digits : List Char) (exponent : Int) : List Char :=
  if -4 < exponent ∧ exponent ≤ 16 then
    if exponent ≤ 0 then '0' :: '.' :: (List.replicate exponent.natAbs '0' ++ digits)
    else
      let whole := exponent.toNat
      if digits.length ≤ whole then
        digits ++ List.replicate (whole - digits.length) '0' ++ ['.', '0']
      else digits.take whole ++ '.' :: digits.drop whole
  else
    let power := exponent - 1
    let powerDigits := Nat.toDigits 10 power.natAbs
    digits.take 1 ++ (if digits.length = 1 then [] else '.' :: digits.drop 1) ++
      'e' :: (if power < 0 then '-' else '+') ::
      (List.replicate (2 - powerDigits.length) '0' ++ powerDigits)

def shortest : Binary64 → String
  | nan => "nan"
  | infinite minus => if minus then "-inf" else "inf"
  | finite minus m e =>
    let text := if m = 0 then ['0', '.', '0'] else
      let (digits, exponent) := shortestDigits m e
      layOut digits exponent
    String.ofList ((if minus then ['-'] else []) ++ text)

/-- The fixed form of a finite number, with or without thousands separators. -/
def fixedFinite (separators : Bool) (places : Nat) (minus : Bool) (m : Nat) (e : Int) : String :=
  let (n, d) := magnitude m e
  let units := roundQuotient (n * 10 ^ places) d
  let whole := units / 10 ^ places
  let fraction := Nat.toDigits 10 (units % 10 ^ places)
  String.ofList <|
    (if minus then ['-'] else []) ++
    (if separators then Text.grouped whole else Nat.toDigits 10 whole) ++
    (if places = 0 then []
      else '.' :: (List.replicate (places - fraction.length) '0' ++ fraction))

def grouped (places : Nat) : Binary64 → String
  | finite minus m e => fixedFinite true places minus m e
  | x => x.shortest

def fixed (places : Nat) : Binary64 → String
  | finite minus m e => fixedFinite false places minus m e
  | x => x.shortest

end Gasometer.Binary64
