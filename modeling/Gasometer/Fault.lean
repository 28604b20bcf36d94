import Gasometer.Text.Quoted

/-!
# Faults

A fault is a value that does not fit the operation it is given to: a number outside the range of
its encoding, or a text that does not spell a number. Faults are causes; `Fault.message` words them.
-/
namespace Gasometer

/-- Why a value could not be converted or used. -/
inductive Fault
  /-- A text that should be hexadecimal has another character at this position. -/
  | hexText (position : Nat)
  /-- A text does not spell an integer in this base; base 0 reads the base off the text. -/
  | integerText (base : Nat) (text : String)
  /-- A decimal integer has more digits than are read. -/
  | integerLength (digits : Nat)
  /-- An integer has more decimal digits than are written. -/
  | integerWidth
  /-- A number is no byte. -/
  | byteRange
  /-- A number in a sequence of bytes is no byte. -/
  | bytesRange
  /-- A number needs more bytes than it is given. -/
  | tooBig
  /-- A negative number has no unsigned encoding. -/
  | negative
  /-- A shift by a negative amount. -/
  | negativeShift
  /-- A negative power of a number without inverse. -/
  | notInvertible
  /-- A negative number of bytes is asked for. -/
  | negativeCount
  /-- A size exceeds every index. -/
  | sizeRange
  /-- An index exceeds every size. -/
  | indexRange
  /-- A byte outside the memory is addressed. -/
  | byteIndex
  /-- More bytes than can be held are asked for. -/
  | exhausted
  /-- An item is taken from an empty stack. -/
  | emptyStack
  /-- An item below the bottom of the stack is addressed. -/
  | stackIndex
  /-- A position outside a list is addressed. -/
  | listIndex
  /-- A quotient is divided by zero. -/
  | divisionByZero
  /-- A quotient exceeds the largest floating-point number. -/
  | quotientRange
  /-- An address text is longer than 20 bytes. -/
  | addressLength (text : String)
  /-- A path holds a zero byte. -/
  | zeroByte
  /-- A run was cut off before its end. -/
  | cutOff
  deriving DecidableEq, Repr, Inhabited

def Fault.isBadValue : Fault → Bool
  | hexText _ | integerText .. | integerLength _ | integerWidth | byteRange | bytesRange
  | negativeShift | notInvertible | negativeCount | addressLength _ | zeroByte => true
  | _ => false

def Fault.message : Fault → String
  | hexText position =>
    s!"non-hexadecimal number found in fromhex() arg at position {position}"
  | integerText base text =>
    s!"invalid literal for int() with base {base}: " ++ Text.quote text
  | integerLength digits =>
    "Exceeds the limit (4300 digits) for integer string conversion: value has " ++
    s!"{digits} digits; use sys.set_int_max_str_digits() to increase the limit"
  | integerWidth =>
    "Exceeds the limit (4300 digits) for integer string conversion; " ++
    "use sys.set_int_max_str_digits() to increase the limit"
  | byteRange => "byte must be in range(0, 256)"
  | bytesRange => "bytes must be in range(0, 256)"
  | tooBig => "int too big to convert"
  | negative => "can't convert negative int to unsigned"
  | negativeShift => "negative shift count"
  | notInvertible => "base is not invertible for the given modulus"
  | negativeCount => "negative count"
  | sizeRange => "cannot fit 'int' into an index-sized integer"
  | indexRange => "cannot fit 'int' into an index-sized integer"
  | byteIndex => "bytearray index out of range"
  | exhausted => ""
  | emptyStack => "pop from empty list"
  | stackIndex => "list index out of range"
  | listIndex => "list index out of range"
  | divisionByZero => "division by zero"
  | quotientRange => "integer division result too large for a float"
  | addressLength text => "Address longer than 20 bytes: " ++ Text.quote text
  | zeroByte => "embedded null byte"
  | cutOff => "execution was cut off"

namespace Fault

variable {α β : Type}

@[simp] theorem ok_bind (x : α) (f : α → Except Fault β) : (Except.ok x >>= f) = f x := rfl

@[simp] theorem error_bind (fault : Fault) (f : α → Except Fault β) :
    (Except.error fault >>= f) = .error fault := rfl

@[simp] theorem map_ok (x : α) (f : α → β) :
    f <$> (Except.ok x : Except Fault α) = .ok (f x) := rfl

theorem bind_eq_ok {x : Except Fault α} {f : α → Except Fault β} {y : β} :
    (x >>= f) = .ok y ↔ ∃ v, x = .ok v ∧ f v = .ok y := by
  cases x with
  | error fault => simp
  | ok v => simp

end Fault
end Gasometer
