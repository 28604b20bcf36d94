import Gasometer.Fault

/-!
# Wrong use of the command line

Why the words of a command line are refused. A usage error is worded by `UsageError.message`.
-/
namespace Gasometer.Cli

inductive ValueError
  | notInteger (text : String)
  | noChoice (text : String) (choices : List String)
  | folder (path : String)
  /-- It is no path at all. -/
  | unfit (fault : Fault)
  deriving DecidableEq, Repr, Inhabited

def ValueError.message : ValueError → String
  | notInteger text => Text.quote text ++ " is not a valid integer."
  | noChoice text choices =>
    Text.quote text ++ " is not one of " ++ ", ".intercalate (choices.map Text.quote) ++ "."
  | folder path => "File " ++ Text.quote path ++ " is a directory."
  | unfit fault => fault.message

inductive UsageError
  /-- No option has this name; some have similar names. -/
  | noSuchOption (name : String) (similar : List String)
  /-- An option stands at the end without its value. -/
  | needsValue (name : String)
  /-- A value is given to a switch. -/
  | takesNoValue (name : String)
  /-- The value of an option is refused. -/
  | badValue (name : String) (error : ValueError)
  /-- A word is missing. -/
  | missingArgument (name : String)
  /-- There are words that nothing asks for. -/
  | extraArguments (words : List String)
  /-- No command has this name; some have similar names. -/
  | noSuchCommand (name : String) (similar : List String)
  /-- There is no command. -/
  | missingCommand
  deriving DecidableEq, Repr, Inhabited

/-- A question that offers similar names. -/
def suggestion : List String → String
  | [] => ""
  | [name] => " Did you mean " ++ Text.quote name ++ "?"
  | names => " (Did you mean one of: " ++ ", ".intercalate (names.map Text.quote) ++ "?)"

def UsageError.message : UsageError → String
  | noSuchOption name similar => "No such option " ++ Text.quote name ++ "." ++ suggestion similar
  | needsValue name => "Option " ++ Text.quote name ++ " requires an argument."
  | takesNoValue name => "Option " ++ Text.quote name ++ " does not take a value."
  | badValue name error => "Invalid value for " ++ Text.quote name ++ ": " ++ error.message
  | missingArgument name => "Missing argument " ++ Text.quote name ++ "."
  | extraArguments [word] => "Got unexpected extra argument (" ++ word ++ ")"
  | extraArguments words => "Got unexpected extra arguments (" ++ " ".intercalate words ++ ")"
  | noSuchCommand name similar => "No such command " ++ Text.quote name ++ "." ++ suggestion similar
  | missingCommand => "Missing command."

/-- Whether the reason comes with a hint at how the words are laid out. An option without its value,
or with a value that it does not take, needs none. -/
def UsageError.hasHint : UsageError → Bool
  | needsValue _ | takesNoValue _ => false
  | _ => true

end Gasometer.Cli
