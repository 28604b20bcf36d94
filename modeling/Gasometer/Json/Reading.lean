import Gasometer.Json.Basic

/-!
# Reading JSON

A reader by recursive descent. Every function returns the text that is left; the fuel is the
length of the text, and each value, item or field takes at least one character.
-/
namespace Gasometer.Json

-- Powers are those of the core library, also where Mathlib offers its own.
attribute [local instance (high)] instPowNat

def skip : List Char → List Char :=
  List.dropWhile fun c => c == ' ' || c == '\n' || c == '\r' || c == '\t'

def word (letters : List Char) (value : Json) (s : List Char) : Option (Json × List Char) :=
  if letters.isPrefixOf s then some (value, s.drop letters.length) else none

def unit (s : List Char) : Option (Nat × List Char) :=
  let digits := s.take 4
  if digits.length = 4 then
    (digits.mapM fun c => Text.digitIn? 16 c).map fun ds =>
      (ds.foldl (fun n d => n * 16 + d) 0, s.drop 4)
  else none

/-- Reads an escaped UTF-16 unit, with the second half of a pair if this is a first half. -/
def escaped (s : List Char) : Option (Char × List Char) := do
  let (high, s) ← unit s
  match s with
  | '\\' :: 'u' :: r =>
    if 0xd800 ≤ high ∧ high < 0xdc00 then
      let (low, r) ← unit r
      if 0xdc00 ≤ low ∧ low < 0xe000 then
        return (Char.ofNat (0x10000 + (high - 0xd800) * 0x400 + (low - 0xdc00)), r)
      else return (Char.ofNat high, s)
    else return (Char.ofNat high, s)
  | _ => return (Char.ofNat high, s)

/-- Reads the rest of a string; `done` is reversed. -/
def string (fuel : Nat) (done : List Char) (s : List Char) : Option (String × List Char) :=
  match fuel, s with
  | _, '"' :: r => some (String.ofList done.reverse, r)
  | fuel + 1, '\\' :: 'u' :: r => (escaped r).bind fun (c, r) => string fuel (c :: done) r
  | fuel + 1, '\\' :: 'n' :: r => string fuel ('\n' :: done) r
  | fuel + 1, '\\' :: 'r' :: r => string fuel ('\r' :: done) r
  | fuel + 1, '\\' :: 't' :: r => string fuel ('\t' :: done) r
  | fuel + 1, '\\' :: 'b' :: r => string fuel ('\x08' :: done) r
  | fuel + 1, '\\' :: 'f' :: r => string fuel ('\x0c' :: done) r
  | fuel + 1, '\\' :: c :: r => string fuel (c :: done) r
  | fuel + 1, c :: r => string fuel (c :: done) r
  | _, _ => none

def digits (s : List Char) : Nat × Nat × List Char :=
  let ds := s.takeWhile Char.isDigit
  (ds.foldl (fun n c => n * 10 + (c.toNat - 0x30)) 0, ds.length, s.dropWhile Char.isDigit)

def fraction : List Char → Nat × Nat × List Char
  | '.' :: r => digits r
  | s => (0, 0, s)

def exponent (s : List Char) : Option (Int × List Char) :=
  match s with
  | e :: r =>
    if e == 'e' || e == 'E' then
      let (minus, r) := Text.splitSign r
      let (n, _, r) := digits r
      some (if minus then -(n : Int) else n, r)
    else none
  | [] => none

def numeral (s : List Char) : Option (Json × List Char) :=
  let (minus, r) := match s with
    | '-' :: r => (true, r)
    | _ => (false, s)
  let (whole, count, r) := digits r
  if count = 0 then none
  else
    let (part, places, r') := fraction r
    match places, exponent r' with
    | 0, none => some (.int (if minus then -(whole : Int) else whole), r)
    | _, e =>
      let (power, rest) := e.getD (0, r')
      some (.number (.ofDecimal minus (whole * 10 ^ places + part) (power - places)), rest)

mutual

def value : Nat → List Char → Option (Json × List Char)
  | 0, _ => none
  | fuel + 1, s =>
    match skip s with
    | 'n' :: r => word ['u', 'l', 'l'] .null r
    | 't' :: r => word ['r', 'u', 'e'] (.bool true) r
    | 'f' :: r => word ['a', 'l', 's', 'e'] (.bool false) r
    | '"' :: r => (string r.length [] r).map fun (s, r) => (.text s, r)
    | '[' :: r =>
      match skip r with
      | ']' :: r => some (.array [], r)
      | r => items fuel [] r
    | '{' :: r =>
      match skip r with
      | '}' :: r => some (.object [], r)
      | r => fields fuel [] r
    | s => numeral s

def items : Nat → List Json → List Char → Option (Json × List Char)
  | 0, _, _ => none
  | fuel + 1, done, s => do
    let (v, s) ← value fuel s
    match skip s with
    | ',' :: r => items fuel (v :: done) r
    | ']' :: r => return (.array (v :: done).reverse, r)
    | _ => none

def fields : Nat → List (String × Json) → List Char → Option (Json × List Char)
  | 0, _, _ => none
  | fuel + 1, done, s =>
    match skip s with
    | '"' :: r => do
      let (key, r) ← string r.length [] r
      match skip r with
      | ':' :: r => do
        let (v, r) ← value fuel r
        match skip r with
        | ',' :: r => fields fuel ((key, v) :: done) r
        | '}' :: r => return (.object ((key, v) :: done).reverse, r)
        | _ => none
      | _ => none
    | _ => none

end

def parse? (s : String) : Option Json := do
  let cs := s.toList
  let (v, rest) ← value (cs.length + 1) cs
  if (skip rest).isEmpty then some v else none

end Gasometer.Json
