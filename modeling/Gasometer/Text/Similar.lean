/-!
# Similar texts

Two texts are as similar as the share of their characters that match: the longest part that both
have in common matches, and so do the longest common parts to its left and to its right, and so
on. Of several longest parts the first one counts.
-/
namespace Gasometer.Text

def commonHead : List Char → List Char → Nat
  | a :: r, b :: s => if a == b then commonHead r s + 1 else 0
  | _, _ => 0

structure Block where
  size : Nat
  left : Nat
  right : Nat
  deriving DecidableEq, Repr

def commonBlocks (a b : List Char) : List Block :=
  (List.range a.length).flatMap fun i => (List.range b.length).map fun j =>
    ⟨commonHead (a.drop i) (b.drop j), i, j⟩

def longestBlock (a b : List Char) : Block :=
  (commonBlocks a b).foldl (fun best x => if best.size < x.size then x else best) ⟨0, 0, 0⟩

/-- How many characters match, found with at most `fuel` nested searches. -/
def matchingFrom : Nat → List Char → List Char → Nat
  | 0, _, _ => 0
  | fuel + 1, a, b =>
    let x := longestBlock a b
    if x.size = 0 then 0
    else matchingFrom fuel (a.take x.left) (b.take x.right) + x.size +
      matchingFrom fuel (a.drop (x.left + x.size)) (b.drop (x.right + x.size))

def matching (a b : List Char) : Nat := matchingFrom (a.length + 1) a b

/-- The similarity of a text with a word, as twice the matching characters over all characters. -/
structure Similarity where
  text : String
  matched : Nat
  total : Nat

def similarity (word text : String) : Similarity :=
  ⟨text, 2 * matching text.toList word.toList, text.length + word.length⟩

def Similarity.isClose (s : Similarity) : Bool := 3 * s.total ≤ 5 * s.matched

/-- Whether a text comes before another one: the more similar first, of equals the later one in
alphabetical order. -/
def Similarity.precedes (s t : Similarity) : Bool :=
  let a := s.matched * t.total
  let b := t.matched * s.total
  b < a || (a == b && decide (t.text ≤ s.text))

/-- The texts that are close to a word, at most three, in alphabetical order. -/
def similar (word : String) (texts : List String) : List String :=
  let close := (texts.map (similarity word)).filter (·.isClose)
  let best := (close.mergeSort Similarity.precedes).take 3
  (best.map (·.text)).mergeSort fun a b => decide (a ≤ b)

end Gasometer.Text
