import Gasometer.Cli.Usage
import Gasometer.Text.Blank
import Gasometer.Text.Similar

/-!
# The words of a command line

Words are options or plain words. An option begins with a dash and is known by its long name; its
value is the next word, whatever that is, or stands after an equals sign. Switches take no value
and may have a short name of one letter; several of these may stand in one word. After `--` all
words are plain.
-/
namespace Gasometer.Cli

structure OptionShape where
  long : String
  short? : Option Char := none
  takesValue : Bool := true
  deriving DecidableEq, Repr, Inhabited

/-- Options with their values, in the order in which they are given. -/
abbrev Given := List (String × String)

/-- The parts of a word before and after its first equals sign. -/
def splitValue (word : String) : String × Option String :=
  let cs := word.toList
  let name := cs.takeWhile (· != '=')
  (String.ofList name,
    match cs.drop name.length with
    | _ :: value => some (String.ofList value)
    | [] => none)

def isOption (word : String) : Bool := word.toList.head? == some '-' && word != "-"

def readShort (shapes : List OptionShape) (letters : List Char) : Except UsageError Given :=
  letters.mapM fun c =>
    match shapes.find? (·.short? == some c) with
    | some shape => .ok (shape.long, "")
    | none => .error (.noSuchOption (String.ofList ['-', c]) [])

/-- Reads words: the options with their values, and the plain words. Unless options and plain words
may be `mixed`, the first plain word ends the options. -/
def readWords (shapes : List OptionShape) (mixed : Bool) :
    List String → Except UsageError (Given × List String)
  | [] => .ok ([], [])
  | "--" :: rest => .ok ([], rest)
  | word :: rest => do
    if ! isOption word then
      if mixed then
        let (given, words) ← readWords shapes mixed rest
        return (given, word :: words)
      else return ([], word :: rest)
    let (name, value?) := splitValue word
    match shapes.find? (·.long == name), value?, rest with
    | some shape, some value, rest =>
      if ! shape.takesValue then throw (.takesNoValue name)
      let (given, words) ← readWords shapes mixed rest
      return ((name, value) :: given, words)
    | some shape, none, rest =>
      if shape.takesValue then
        match rest with
        | [] => throw (.needsValue name)
        | value :: rest =>
          let (given, words) ← readWords shapes mixed rest
          return ((name, value) :: given, words)
      else
        let (given, words) ← readWords shapes mixed rest
        return ((name, "") :: given, words)
    | none, _, rest =>
      if Text.startsWith word.toList ['-', '-'] then
        throw (.noSuchOption name (Text.similar name (shapes.map (·.long))))
      let short ← readShort shapes (word.toList.drop 1)
      let (given, words) ← readWords shapes mixed rest
      return (short ++ given, words)

end Gasometer.Cli
