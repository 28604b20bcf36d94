import Gasometer.Text.Blank
import Gasometer.Text.CellTable

/-!
# Wrapped text

A text is laid out in lines of at most so many cells. A line is broken between words, and the blanks
after a word stay with it. A word that is longer than a line is folded, or it is cut and ends in an
ellipsis. Tabs lead to the next multiple of eight cells.

## Main definitions

* `Text.cells` — how many cells a text takes.
* `Text.wrap` — the lines in which a text is laid out.
-/
namespace Gasometer.Text

-- The empty sum is the zero of the core library, also where Mathlib offers its own.
attribute [local instance (high)] Zero.ofOfNat0

def charCells (c : Char) : Nat :=
  let isIn (ranges : List (Nat × Nat)) : Bool :=
    ranges.any fun r => r.1 ≤ c.toNat && c.toNat ≤ r.2
  if 0x20 ≤ c.toNat && c.toNat < 0x7f then 1
  else if isIn noCellRanges then 0
  else if isIn twoCellRanges then 2
  else 1

def cells (s : List Char) : Nat := (s.map charCells).sum

inductive Overflow
  | fold | ellipsis
  deriving DecidableEq, Repr, Inhabited

/-- Puts blanks in the place of tabs; the text begins after so many cells. -/
def expandTabs : Nat → List Char → List Char
  | _, [] => []
  | used, c :: r =>
    if c = '\t' then
      let blanks := 8 - used % 8
      List.replicate blanks ' ' ++ expandTabs (used + blanks) r
    else c :: expandTabs (used + charCells c) r

def pushFront (c : Char) : List (List Char) → List (List Char)
  | [] => [[c]]
  | piece :: rest => (c :: piece) :: rest

def foldFrom (width : Nat) : Nat → List Char → List (List Char)
  | _, [] => [[]]
  | used, c :: r =>
    if width < used + charCells c then [] :: pushFront c (foldFrom width (charCells c) r)
    else pushFront c (foldFrom width (used + charCells c) r)

/-- The words of a text, each with the blanks after it, and the first one with those before it.
`rest` is what stands before the text; it holds a word if `inWord`. -/
def chunksFrom (inWord : Bool) (rest : List Char) : List Char → List (List Char)
  | [] => if inWord then [rest.reverse] else []
  | c :: r =>
    if isBlank c then chunksFrom inWord (c :: rest) r
    else if inWord && rest.head?.any isBlank then rest.reverse :: chunksFrom true [c] r
    else chunksFrom true (c :: rest) r

/-- Lines that are being filled, the last one first, and how many cells of that one are used. -/
structure Filling where
  lines : List (List Char) := []
  used : Nat := 0

def Filling.add (width : Nat) (overflow : Overflow) (f : Filling) (word : List Char) : Filling :=
  let size := cells (trimRight word)
  if f.used + size ≤ width then
    match f.lines with
    | [] => ⟨[word], cells word⟩
    | line :: done => ⟨(line ++ word) :: done, f.used + cells word⟩
  else if size ≤ width || overflow = .ellipsis then ⟨word :: f.lines, cells word⟩
  else
    let pieces := foldFrom width 0 word
    ⟨pieces.reverse ++ f.lines, cells (pieces.getLast?.getD [])⟩

/-- Breaks a line. A line without words is not broken. -/
def breakLine (width : Nat) (overflow : Overflow) (s : List Char) : List (List Char) :=
  match chunksFrom false [] s with
  | [] => [s]
  | chunks => (chunks.foldl (Filling.add width overflow) {}).lines.reverse

def dropExcess (size : Nat) (s : List Char) : List Char :=
  let blanks := s.length - (trimRight s).length
  s.take (s.length - min blanks (s.length - size))

/-- The characters at the head of a line that fit into so many cells; a blank stands for half a
character. -/
def fitting : Nat → List Char → List Char
  | _, [] => []
  | width, c :: r =>
    if charCells c ≤ width then c :: fitting (width - charCells c) r
    else List.replicate width ' '

def cut (width : Nat) (overflow : Overflow) (s : List Char) : List Char :=
  if cells s ≤ width then s
  else match overflow with
    | .fold => fitting width s
    | .ellipsis => fitting (width - 1) s ++ ['…']

def wrap (width : Nat) (overflow : Overflow) (s : String) : List String :=
  (s.splitOn "\n").flatMap fun line =>
    (breakLine width overflow (expandTabs 0 line.toList)).map fun part =>
      String.ofList (cut width overflow (dropExcess width part))

end Gasometer.Text
