/-!
# Blanks and lines

Text is handled as a list of characters. This module says which characters are blank, in every
script, and how text is trimmed, cut into words at its blanks, and cut into lines.
-/
namespace Gasometer.Text

/-- A blank is a character that separates words: the controls from tab to carriage return, the
four separators `U+001C` to `U+001F`, next-line, and every Unicode space. -/
def isBlank (c : Char) : Bool :=
  let n := c.toNat
  (9 ≤ n && n ≤ 13) || (0x1c ≤ n && n ≤ 0x20) || n == 0x85 || n == 0xa0 || n == 0x1680 ||
  (0x2000 ≤ n && n ≤ 0x200a) || n == 0x2028 || n == 0x2029 || n == 0x202f || n == 0x205f ||
  n == 0x3000

def trimLeft (s : List Char) : List Char := s.dropWhile isBlank

def trimRight (s : List Char) : List Char := (s.reverse.dropWhile isBlank).reverse

def trim (s : List Char) : List Char := trimRight (trimLeft s)

/-- Cuts at every blank; the pieces between neighbouring blanks are empty. -/
def pieces : List Char → List (List Char)
  | [] => [[]]
  | c :: r =>
    if isBlank c then [] :: pieces r
    else match pieces r with
      | [] => [[c]]
      | p :: ps => (c :: p) :: ps

/-- The maximal runs of characters that are not blank. -/
def words (s : List Char) : List (List Char) := (pieces s).filter (! ·.isEmpty)

/-- A line ends at a line feed, a carriage return, a vertical tab, a form feed, one of the three
separators `U+001C` to `U+001E`, next-line, or a Unicode line or paragraph separator. -/
def isLineBreak (c : Char) : Bool :=
  let n := c.toNat
  (10 ≤ n && n ≤ 13) || (0x1c ≤ n && n ≤ 0x1e) || n == 0x85 || n == 0x2028 || n == 0x2029

/-- The lines of a text without their ends. A carriage return and the line feed after it are one
end; a break at the very end opens no further line. -/
def lines : List Char → List (List Char)
  | [] => []
  | '\r' :: '\n' :: r => [] :: lines r
  | c :: r =>
    if isLineBreak c then [] :: lines r
    else match lines r with
      | [] => [[c]]
      | l :: ls => (c :: l) :: ls

def startsWith (s head : List Char) : Bool := head.isPrefixOf s

def before (mark : List Char) : List Char → List Char
  | [] => []
  | c :: r => if startsWith (c :: r) mark then [] else c :: before mark r

def contains (part : List Char) : List Char → Bool
  | [] => part.isEmpty
  | c :: r => startsWith (c :: r) part || contains part r

/-- Replaces every occurrence of `mark` by `by_`, from left to right, without overlap.
`skip` counts the characters of an occurrence that are still to be passed over. -/
def replaceFrom (mark by_ : List Char) : Nat → List Char → List Char
  | _, [] => []
  | skip + 1, _ :: r => replaceFrom mark by_ skip r
  | 0, c :: r =>
    if startsWith (c :: r) mark then by_ ++ replaceFrom mark by_ (mark.length - 1) r
    else c :: replaceFrom mark by_ 0 r

def replace (mark by_ : List Char) (s : List Char) : List Char := replaceFrom mark by_ 0 s

@[simp] theorem trimLeft_nil : trimLeft [] = [] := rfl

@[simp] theorem lines_nil : lines [] = [] := by simp [lines]

theorem isBlank_of_isLineBreak {c : Char} (h : isLineBreak c = true) : isBlank c = true := by
  simp only [isLineBreak, isBlank, Bool.or_eq_true, Bool.and_eq_true, decide_eq_true_eq,
    beq_iff_eq] at *
  omega

end Gasometer.Text
