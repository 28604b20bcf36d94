import Gasometer.Opcode.Basic
import Gasometer.Text.Blank
import Gasometer.Text.Case

/-!
# Mnemonics

A mnemonic names an operation in any letter case, with blanks around it; two operations have a
second name from other rules.
-/
namespace Gasometer.Opcode

/-- The name that a mnemonic stands for. -/
def canonicalName (mnemonic : String) : String :=
  match String.ofList (Text.upper (Text.trim mnemonic.toList)) with
  | "SHA3" => "KECCAK256"
  | "PREVRANDAO" => "DIFFICULTY"
  | name => name

def ofMnemonic (mnemonic : String) : Except String Opcode :=
  let name := canonicalName mnemonic
  match ofName? name with
  | some op => .ok op
  | none => .error name

end Gasometer.Opcode
