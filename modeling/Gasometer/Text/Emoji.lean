import Gasometer.Text.Case
import Gasometer.Text.EmojiTable
import Gasometer.Text.Numeral

/-!
# Emoji

The name of an emoji between two colons stands for the emoji. A name may end in `-text` or
`-emoji`, which asks for the plain or the coloured form. What is no name stays as it is, colons
included.

## Main definitions

* `Text.emoji?` — the emoji of a name.
* `Text.expandEmoji` — a text with emoji instead of their names.
-/
namespace Gasometer.Text

def emojiEntry (s : List Char) : String × List Char :=
  let name := s.takeWhile (· != '=')
  let codes := (String.ofList (s.drop (name.length + 1))).splitOn "-"
  let number (code : String) : Nat :=
    code.toList.foldl (fun n c => 16 * n + (digitValue? c).getD 0) 0
  (String.ofList name, codes.map fun code => Char.ofNat (number code))

def emojiNames : List (String × List Char) := (words emojiCodes.toList).map emojiEntry

def emoji? (name : List Char) : Option (List Char) := emojiNames.lookup (String.ofList name)

/-- Splits the form off the end of a name: the name, and the character that asks for the form. -/
def splitForm (s : List Char) : List Char × List Char :=
  let without (ending : String) : Option (List Char) :=
    if ending.toList.isSuffixOf s then some (s.take (s.length - ending.length)) else none
  match without "-emoji", without "-text" with
  | some name, _ => (name, [Char.ofNat 0xfe0f])
  | none, some name => (name, [Char.ofNat 0xfe0e])
  | none, none => (s, [])

def emojiOrSame (s : List Char) : List Char :=
  let (name, form) := splitForm s
  match emoji? (lower name) with
  | some emoji => emoji ++ form
  | none => ':' :: s ++ [':']

/-- The text up to the next colon, if there is no blank in it. -/
def toColon? (s : List Char) : Option (List Char) :=
  let name := s.takeWhile fun c => c != ':' && ! isBlank c
  if (s.drop name.length).head? = some ':' then some name else none

/-- Replaces names from here on; `skip` counts the characters of a name that are still to be passed
over. -/
def expandFrom : Nat → List Char → List Char
  | _, [] => []
  | skip + 1, _ :: r => expandFrom skip r
  | 0, c :: r =>
    match if c = ':' then toColon? r else none with
    | some name => emojiOrSame name ++ expandFrom (name.length + 1) r
    | none => c :: expandFrom 0 r

def expandEmoji (s : List Char) : List Char := expandFrom 0 s

end Gasometer.Text
