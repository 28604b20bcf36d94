import Gasometer.Report.Colour
import Gasometer.Text.Case

/-!
# Styles

A style is written as words: attributes of the text and colours, `not` before an attribute that is
switched off, `on` before the colour behind the text, and `link` before the target of a link. Styles
that ask for the same are written alike by `Style.text`.

## Main definitions

* `Style.read` — the style that is written in a text.
* `Style.normal` — a text in the form in which styles are compared.
-/
namespace Gasometer

inductive Attribute
  | bold | dim | italic | underline | blink | blink2 | reverse | conceal | strike | underline2
  | frame | encircle | overline
  deriving DecidableEq, Repr, Inhabited

namespace Attribute

def all : List Attribute :=
  [bold, dim, italic, underline, blink, blink2, reverse, conceal, strike, underline2, frame,
    encircle, overline]

def name : Attribute → String
  | bold => "bold"
  | dim => "dim"
  | italic => "italic"
  | underline => "underline"
  | blink => "blink"
  | blink2 => "blink2"
  | reverse => "reverse"
  | conceal => "conceal"
  | strike => "strike"
  | underline2 => "underline2"
  | frame => "frame"
  | encircle => "encircle"
  | overline => "overline"

def shortName? : Attribute → Option String
  | bold => some "b"
  | dim => some "d"
  | italic => some "i"
  | underline => some "u"
  | reverse => some "r"
  | conceal => some "c"
  | strike => some "s"
  | underline2 => some "uu"
  | overline => some "o"
  | blink | blink2 | frame | encircle => none

def ofName? (word : List Char) : Option Attribute :=
  all.find? fun a => a.name.toList == word || a.shortName?.any (·.toList == word)

end Attribute

/-- What a style asks for. Of the switches of one attribute the first one counts. -/
structure Style where
  switches : List (Attribute × Bool) := []
  colour? : Option (List Char) := none
  background? : Option (List Char) := none
  link? : Option (List Char) := none
  deriving DecidableEq, Repr, Inhabited

namespace Style

def switch (s : Style) (a : Attribute) (on : Bool) : Style :=
  { s with switches := (a, on) :: s.switches }

def colourWord (word : List Char) : OptionT (Except Fault) (List Char) := do
  let small := Text.lower word
  if ← OptionT.lift (Colour.isColour small) then return small else failure

/-- Reads words into a style, unless a word fits nowhere. -/
def readWords (s : Style) : List (List Char) → OptionT (Except Fault) Style
  | [] => return s
  | word :: rest => do
    match String.ofList (Text.lower word), rest with
    | "on", next :: rest => readWords { s with background? := ← colourWord next } rest
    | "not", next :: rest =>
      match Attribute.ofName? next with
      | some a => readWords (s.switch a false) rest
      | none => failure
    | "link", next :: rest => readWords { s with link? := next } rest
    | _, rest =>
      match Attribute.ofName? (Text.lower word) with
      | some a => readWords (s.switch a true) rest
      | none => readWords { s with colour? := ← colourWord word } rest

/-- Reads a style. The word `none` alone asks for nothing. -/
def read (s : List Char) : OptionT (Except Fault) Style :=
  if Text.trim s = "none".toList then return {} else readWords {} (Text.words s)

def text (s : Style) : List Char :=
  let switched (a : Attribute) : List (List Char) :=
    match s.switches.lookup a with
    | none => []
    | some true => [a.name.toList]
    | some false => ["not".toList, a.name.toList]
  let words := Attribute.all.flatMap switched ++ s.colour?.toList ++
    (s.background?.map fun c => ["on".toList, c]).getD [] ++
    (s.link?.map fun target => ["link".toList, target]).getD []
  if words.isEmpty then "none".toList else [' '].intercalate words

/-- The form in which styles are compared: the words of the style, or, if the text is none, the text
without blanks around it and in small letters. -/
def normal (s : List Char) : Except Fault (List Char) := do
  match ← (read s).run with
  | some style => return style.text
  | none => return Text.lower (Text.trim s)

end Style
end Gasometer
