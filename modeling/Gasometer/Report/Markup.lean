import Gasometer.Report.Style
import Gasometer.Text.Emoji

/-!
# Markup

A marked-up text has tags in square brackets that open a style or close it. A tag begins with a
small letter, `#`, `/` or `@`; any other bracket is text. Backslashes before a tag stand for half
as many backslashes, and the odd one makes the tag itself text. `[/]` closes the style that was
opened last, `[/style]` the last one that asks for the same. In the text, names of emoji between
colons stand for the emoji.

## Main definitions

* `Markup.pieces` — a marked-up text as a sequence of texts and tags.
* `Markup.plainText` — the text without its tags, unless a tag closes nothing.
-/
namespace Gasometer

inductive MarkupError
  /-- `[/]` stands where no style is open. -/
  | nothingToClose (position : Nat)
  /-- A closing tag names a style that is not open. -/
  | noMatch (tag : String) (position : Nat)
  /-- A part of a colour is no number. -/
  | colour (fault : Fault)
  deriving DecidableEq, Repr, Inhabited

def MarkupError.message : MarkupError → String
  | nothingToClose position => s!"closing tag '[/]' at position {position} has nothing to close"
  | noMatch tag position =>
    "closing tag '" ++ tag ++ s!"' at position {position} doesn't match any open tag"
  | colour fault => fault.message

namespace Markup

inductive Piece
  /-- Text without tags, in which a backslash before a bracket is dropped. -/
  | plain (text : List Char)
  /-- Text that is shown as it is. -/
  | literal (text : List Char)
  /-- Opens a style. -/
  | opening (style : List Char)
  /-- Closes a style, the last one if it has no name; the tag and its position are for messages. -/
  | closing (style : List Char) (tag : String) (position : Nat)
  deriving DecidableEq, Repr

def opensTag (c : Char) : Bool :=
  (0x61 ≤ c.toNat && c.toNat ≤ 0x7a) || c == '#' || c == '/' || c == '@'

def tagText? : List Char → Option (List Char)
  | [] => none
  | c :: r =>
    let body := r.takeWhile fun x => x != ']' && x != '['
    if opensTag c && (r.drop body.length).head? == some ']' then some (c :: body) else none

/-- The tag at the head of a text with the number of backslashes before it. -/
def tagAt? (s : List Char) : Option (Nat × List Char) :=
  let slashes := (s.takeWhile (· == '\\')).length
  match s.drop slashes with
  | '[' :: inside => (tagText? inside).map fun tag => (slashes, tag)
  | _ => none

/-- The piece of a tag. What follows an equals sign is no part of the name. -/
def tagPiece (position : Nat) (tag : List Char) : Piece :=
  match tag.takeWhile (· != '=') with
  | '/' :: style => .closing (Text.trim style) (String.ofList ('[' :: tag ++ [']'])) position
  | style => .opening style

def tagPieces (position slashes : Nat) (tag : List Char) : List Piece :=
  (if slashes < 2 then [] else [.literal (List.replicate (slashes / 2) '\\')]) ++
    [if slashes % 2 = 1 then .literal ('[' :: tag ++ [']']) else tagPiece (position + slashes) tag]

def addPlain (c : Char) : List Piece → List Piece
  | .plain text :: rest => .plain (c :: text) :: rest
  | rest => .plain [c] :: rest

/-- The pieces of the text from this position on; `skip` characters of a tag are passed over. -/
def piecesFrom (position skip : Nat) : List Char → List Piece
  | [] => []
  | c :: r =>
    match skip with
    | skip + 1 => piecesFrom (position + 1) skip r
    | 0 => match tagAt? (c :: r) with
      | some (slashes, tag) =>
        tagPieces position slashes tag ++ piecesFrom (position + 1) (slashes + tag.length + 1) r
      | none => addPlain c (piecesFrom (position + 1) 0 r)

def pieces (s : List Char) : List Piece := piecesFrom 0 0 s

/-- Bell, backspace, vertical tab, form feed and carriage return are never shown. -/
def isHidden (c : Char) : Bool := [7, 8, 11, 12, 13].contains c.toNat

/-- The text of the pieces, while these styles are open, the last one first. -/
def textOf (opened : List (List Char)) : List Piece → Except MarkupError (List Char)
  | [] => .ok []
  | .plain text :: rest =>
    (textOf opened rest).map (Text.expandEmoji (Text.replace ['\\', '['] ['['] text) ++ ·)
  | .literal text :: rest => (textOf opened rest).map (Text.expandEmoji text ++ ·)
  | .opening style :: rest => do
    let style ← (Style.normal style).mapError .colour
    textOf (style :: opened) rest
  | .closing style tag position :: rest =>
    if style.isEmpty then
      match opened with
      | [] => .error (.nothingToClose position)
      | _ :: opened => textOf opened rest
    else do
      let style ← (Style.normal style).mapError .colour
      if opened.contains style then textOf (opened.erase style) rest
      else .error (.noMatch tag position)

def plainText (s : String) : Except MarkupError String :=
  (textOf [] (pieces s.toList)).map fun text => String.ofList (text.filter (! isHidden ·))

end Markup
end Gasometer
