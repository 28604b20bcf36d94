import Gasometer.Binary64.Text

/-!
# JSON values and their text

A JSON text has characters of ASCII only; all others are escaped, in UTF-16 units. It stands on
one line, or one item a line with each level indented by a fixed number of spaces.
-/
namespace Gasometer

/-- A JSON value. Integers keep all their digits; other numbers are double-precision. -/
inductive Json
  | null
  | bool (b : Bool)
  | int (n : Int)
  | number (x : Binary64)
  | text (s : String)
  | array (items : List Json)
  | object (fields : List (String × Json))
  deriving Inhabited

namespace Json

def escapeUnit (n : Nat) : List Char := '\\' :: 'u' :: Text.hexDigits 4 n

def escapeChar (c : Char) : List Char :=
  let n := c.toNat
  if c == '"' then ['\\', '"']
  else if c == '\\' then ['\\', '\\']
  else if c == '\n' then ['\\', 'n']
  else if c == '\r' then ['\\', 'r']
  else if c == '\t' then ['\\', 't']
  else if n == 8 then ['\\', 'b']
  else if n == 12 then ['\\', 'f']
  else if 0x20 ≤ n && n ≤ 0x7e then [c]
  else if n < 0x10000 then escapeUnit n
  else
    let m := n - 0x10000
    escapeUnit (0xd800 + m / 0x400) ++ escapeUnit (0xdc00 + m % 0x400)

def quoted (s : String) : String :=
  "\"" ++ String.ofList (s.toList.flatMap escapeChar) ++ "\""

def numberText : Binary64 → String
  | .nan => "NaN"
  | .infinite minus => if minus then "-Infinity" else "Infinity"
  | x => x.shortest

def lineAt (indent : Option Nat) (level : Nat) : String :=
  match indent with
  | none => ""
  | some n => "\n" ++ String.ofList (List.replicate (n * level) ' ')

def separator (indent : Option Nat) (level : Nat) : String :=
  match indent with
  | none => ", "
  | some _ => "," ++ lineAt indent level

mutual

def renderAt (indent : Option Nat) (level : Nat) : Json → String
  | null => "null"
  | bool b => if b then "true" else "false"
  | int n => Text.decimal n
  | number x => numberText x
  | text s => quoted s
  | array [] => "[]"
  | array items =>
    "[" ++ lineAt indent (level + 1) ++ renderItems indent (level + 1) items ++
      lineAt indent level ++ "]"
  | object [] => "\x7b\x7d"
  | object fields =>
    "\x7b" ++ lineAt indent (level + 1) ++ renderFields indent (level + 1) fields ++
      lineAt indent level ++ "\x7d"

def renderItems (indent : Option Nat) (level : Nat) : List Json → String
  | [] => ""
  | [item] => renderAt indent level item
  | item :: rest =>
    renderAt indent level item ++ separator indent level ++ renderItems indent level rest

def renderFields (indent : Option Nat) (level : Nat) : List (String × Json) → String
  | [] => ""
  | [(key, value)] => quoted key ++ ": " ++ renderAt indent level value
  | (key, value) :: rest =>
    quoted key ++ ": " ++ renderAt indent level value ++ separator indent level ++
      renderFields indent level rest

end

def render (indent : Option Nat) (value : Json) : String := renderAt indent 0 value

/-- The value of a field; of two fields with one name the later counts. -/
def get? (value : Json) (key : String) : Option Json :=
  match value with
  | object fields => fields.reverse.lookup key
  | _ => none

end Json
end Gasometer
