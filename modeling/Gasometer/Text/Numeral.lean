import Gasometer.Fault
import Gasometer.Text.Blank
import Gasometer.Text.Digit

/-!
# Integer numerals

Integers are read from text in base ten, in base sixteen with an optional `0x`, or in the base that
the text itself names (`0x`, `0o`, `0b`, else ten). Blanks around the numeral are passed over, a
sign may stand before it, single underscores may stand between its digits and after its base
mark, and decimal digits of every script count. Integers are written in decimal, in decimal with
thousands separators, and in hexadecimal.
-/
namespace Gasometer.Text

inductive Base
  | ten
  | sixteen
  | marked
  deriving DecidableEq, Repr

/-- The number by which messages name the base. -/
def Base.number : Base → Nat
  | ten => 10
  | sixteen => 16
  | marked => 0

def maxDigits : Nat := 4300

/-- A blank inside the range of ASCII that may surround a numeral. -/
def isPlainBlank (c : Char) : Bool := (9 ≤ c.toNat && c.toNat ≤ 13) || c.toNat == 0x20

/-- Brings a character into ASCII where a numeral may use it: blanks and decimal digits of all
scripts. -/
def plainChar (c : Char) : Char :=
  if c.toNat < 0x80 then c
  else if isBlank c then ' '
  else match decimalDigit? c with
    | some d => Char.ofNat (0x30 + d)
    | none => c

def digitValue? (c : Char) : Option Nat :=
  let n := c.toNat
  if 0x30 ≤ n && n ≤ 0x39 then some (n - 0x30)
  else if 0x61 ≤ n && n ≤ 0x7a then some (n - 0x61 + 10)
  else if 0x41 ≤ n && n ≤ 0x5a then some (n - 0x41 + 10)
  else none

def digitIn? (base : Nat) (c : Char) : Option Nat := (digitValue? c).filter (· < base)

/-- What stands after the first digit of a numeral: more digits, each after at most one
underscore. Gives the value, the number of digits and the rest of the text; an underscore without
a digit after it is refused. -/
def moreDigits (base : Nat) (value count : Nat) : List Char → Option (Nat × Nat × List Char)
  | '_' :: c :: r =>
    match digitIn? base c with
    | some d => moreDigits base (value * base + d) (count + 1) r
    | none => none
  | ['_'] => none
  | c :: r =>
    match digitIn? base c with
    | some d => moreDigits base (value * base + d) (count + 1) r
    | none => some (value, count, c :: r)
  | [] => some (value, count, [])

def digitsOf (base : Nat) : List Char → Option (Nat × Nat × List Char)
  | c :: r => (digitIn? base c).bind fun d => moreDigits base d 1 r
  | [] => none

def markedBase? (c : Char) : Option Nat :=
  if c == 'x' || c == 'X' then some 16
  else if c == 'o' || c == 'O' then some 8
  else if c == 'b' || c == 'B' then some 2
  else none

def Base.takesMark (b : Base) (base : Nat) : Bool :=
  match b with
  | ten => false
  | sixteen => base == 16
  | marked => true

/-- Splits the base mark off a numeral: the base, whether a nonzero value may begin with a zero,
and the digits. One underscore may follow the mark. -/
def splitMark (b : Base) (s : List Char) : Nat × Bool × List Char :=
  let plain := match b, s with
    | .ten, _ => (10, true, s)
    | .sixteen, _ => (16, true, s)
    | .marked, '0' :: _ => (10, false, s)
    | .marked, _ => (10, true, s)
  match s with
  | '0' :: m :: r =>
    match (markedBase? m).filter b.takesMark with
    | some base => (base, true, match r with | '_' :: r' => r' | _ => r)
    | none => plain
  | _ => plain

def splitSign : List Char → Bool × List Char
  | '-' :: r => (true, r)
  | '+' :: r => (false, r)
  | s => (false, s)

def parseInt (b : Base) (text : String) : Except Fault Int :=
  let bad : Fault := .integerText b.number text
  let s := text.toList.map plainChar
  let (minus, s) := splitSign (s.dropWhile isPlainBlank)
  let (base, zeroFirst, s) := splitMark b s
  match digitsOf base s with
  | none => .error bad
  | some (value, count, rest) =>
    if base == 10 && count > maxDigits then .error (.integerLength count)
    else if (! zeroFirst && value != 0) || ! rest.all isPlainBlank then .error bad
    else .ok (if minus then -(value : Int) else value)

def decimal (n : Int) : String := toString n

/-- An integer in decimal, if it has no more than the greatest number of digits. -/
def decimal? (n : Int) : Except Fault String :=
  let s := toString n.natAbs
  if s.length > maxDigits then .error .integerWidth else .ok (decimal n)

def hex (n : Int) : String :=
  String.ofList ((if n < 0 then ['-'] else []) ++ Nat.toDigits 16 n.natAbs)

def markedHex (n : Int) : String :=
  String.ofList ((if n < 0 then ['-'] else []) ++ '0' :: 'x' :: Nat.toDigits 16 n.natAbs)

/-- Puts a comma before every third digit from the right; the digits come last first. -/
def groupReversed : List Char → List Char
  | a :: b :: c :: d :: r => a :: b :: c :: ',' :: groupReversed (d :: r)
  | s => s

def grouped (n : Nat) : List Char := (groupReversed (Nat.toDigits 10 n).reverse).reverse

def groupedInt (n : Int) : String :=
  String.ofList ((if n < 0 then ['-'] else []) ++ grouped n.natAbs)

/-- An integer in decimal with thousands separators, if it has no more than the greatest number of
digits. -/
def groupedInt? (n : Int) : Except Fault String := (decimal? n).map fun _ => groupedInt n

end Gasometer.Text
