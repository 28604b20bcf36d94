import Gasometer.Text.Printed

/-!
# Quoted text

The quoted form shows a text unambiguously in a message: between single quotes, or between double
quotes if the text has single quotes and no double ones. The quote, the backslash and characters
without a printed form are escaped.
-/
namespace Gasometer.Text

def hexDigits (width n : Nat) : List Char :=
  let digits := Nat.toDigits 16 n
  List.replicate (width - digits.length) '0' ++ digits

def quoteFor (s : List Char) : Char :=
  if s.contains '\x27' && ! s.contains '"' then '"' else '\x27'

def escapeChar (quote c : Char) : List Char :=
  if c == quote || c == '\\' then ['\\', c]
  else if c == '\n' then ['\\', 'n']
  else if c == '\r' then ['\\', 'r']
  else if c == '\t' then ['\\', 't']
  else if isPrinted c then [c]
  else if c.toNat < 0x100 then '\\' :: 'x' :: hexDigits 2 c.toNat
  else if c.toNat < 0x10000 then '\\' :: 'u' :: hexDigits 4 c.toNat
  else '\\' :: 'U' :: hexDigits 8 c.toNat

def quoted (s : List Char) : List Char :=
  let quote := quoteFor s
  quote :: s.flatMap (escapeChar quote) ++ [quote]

def quote (s : String) : String := String.ofList (quoted s.toList)

end Gasometer.Text
