import Gasometer.Report.Markup
import Gasometer.Text.Wrap

/-!
# Grids

A grid is a table of marked-up cells under a title, with a header and perhaps a footer. It is shown
line by line: the columns are as wide as their widest cell, and a cell with several lines makes its
row several lines high. If the columns are too wide for the screen, the widest ones give way first.
-/
namespace Gasometer

-- The empty sum is the zero of the core library, also where Mathlib offers its own.
attribute [local instance (high)] Zero.ofOfNat0

inductive Justify
  | left | right
  deriving DecidableEq, Repr, Inhabited

def Justify.name : Justify → String
  | left => "left"
  | right => "right"

/-- A column: what stands above and below its cells, and how they are aligned. -/
structure Column where
  header : String
  footer : String := ""
  justify : Justify := .left
  deriving DecidableEq, Repr, Inhabited

/-- A table. Every row has a cell for each column. -/
structure Grid where
  title : String
  columns : List Column
  rows : List (List String)
  showFooter : Bool := false
  deriving DecidableEq, Repr, Inhabited

namespace Grid

def allRows (g : Grid) : List (List String) :=
  [g.columns.map (·.header)] ++ g.rows ++
    (if g.showFooter then [g.columns.map (·.footer)] else [])

def rowLines (cells : List (List String)) : List (List String) :=
  let height := (cells.map (·.length)).foldl max 0
  (List.range height).map fun k => cells.map fun cell => cell.getD k ""

/-- How many cells of the screen the widest line of a text takes. -/
def textWidth (s : String) : Nat := ((Text.lines s.toList).map Text.cells).foldl max 0

/-- A quotient rounded to the nearest integer, a half to the even one. -/
def roundedQuotient (a b : Nat) : Nat :=
  let q := a / b
  let r := 2 * (a % b)
  if r > b || (r == b && q % 2 == 1) then q + 1 else q

/-- Takes `total` off the widths that are equal to `widest`, in `count` parts of nearly the same
size, none of them greater than `most`. -/
def takeOff (widest most : Nat) : Nat → Nat → List Nat → List Nat
  | _, _, [] => []
  | total, count, w :: rest =>
    if w = widest then
      let part := min most (roundedQuotient total count)
      (w - part) :: takeOff widest most (total - part) (count - 1) rest
    else w :: takeOff widest most total count rest

/-- Makes widths smaller until they fit into `limit`, in at most `fuel` rounds: the widest ones give
way until they are as wide as the next ones. -/
def shrinkFrom (limit : Nat) : Nat → List Nat → List Nat
  | 0, widths => widths
  | fuel + 1, widths =>
    if widths.sum ≤ limit then widths
    else
      let widest := widths.foldl max 0
      let next := (widths.filter (· != widest)).foldl max 0
      let excess := widths.sum - limit
      shrinkFrom limit fuel
        (takeOff widest (min excess (widest - next)) excess (widths.count widest) widths)

/-- Makes widths smaller until they fit into `limit`. Every round takes something off. -/
def shrink (limit : Nat) (widths : List Nat) : List Nat := shrinkFrom limit widths.sum widths

def pad (justify : Justify) (width : Nat) (s : String) : String :=
  let blanks := String.ofList (List.replicate (width - Text.cells s.toList) ' ')
  match justify with
  | .left => s ++ blanks
  | .right => blanks ++ s

def lineText (columns : List Column) (widths : List Nat) (line : List String) : String :=
  let cells := (columns.zip (widths.zip line)).map fun (column, width, cell) =>
    pad column.justify width cell
  "  ".intercalate cells

def columnCells (g : Grid) (k : Nat) : List String := g.allRows.map fun row => row.getD k ""

/-- The lines of a grid on a screen of this width. The cells are read column by column, and the
title last. Every column has a blank on both sides, and there is a frame around and between them. -/
def lines (g : Grid) (width : Nat) : Except MarkupError (List String) := do
  let columns ← (List.range g.columns.length).mapM fun k => (g.columnCells k).mapM Markup.plainText
  let frame := g.columns.length + 1
  let natural := columns.map fun cells =>
    min ((cells.map textWidth).foldl max 0 + 2) (width - frame)
  let widths := shrink (width - frame) natural
  let title ← Markup.plainText g.title
  let title := if g.title.isEmpty then [] else Text.wrap (widths.sum + frame) .fold title
  let wrapped := (columns.zip widths).map fun (cells, w) => cells.map (Text.wrap (w - 2) .ellipsis)
  let rows := (List.range g.allRows.length).map fun i => wrapped.map fun cells => cells.getD i []
  return title ++ (rows.flatMap rowLines).map (lineText g.columns (widths.map (· - 2)))

end Grid
end Gasometer
