import Gasometer.Text.CaseTable

/-!
# Capital and small letters

Case mapping of whole texts. A letter may grow to several characters (`ß` becomes `SS`), and a
capital sigma at the end of a word becomes the final form of the small sigma.
-/
namespace Gasometer.Text

def upperChar (c : Char) : List Char :=
  let n := c.toNat
  if n < 0x80 then [if 0x61 ≤ n && n ≤ 0x7a then Char.ofNat (n - 0x20) else c]
  else match upperExpansions.lookup n with
    | some cs => cs.map Char.ofNat
    | none => match upperRuns.find? (·.has n) with
      | some r => [Char.ofNat ((n : Int) + r.shift).toNat]
      | none => [c]

def upper (s : List Char) : List Char := s.flatMap upperChar

/-- The small form of one character other than a capital sigma. -/
def lowerChar (c : Char) : List Char :=
  let n := c.toNat
  if n < 0x80 then [if 0x41 ≤ n && n ≤ 0x5a then Char.ofNat (n + 0x20) else c]
  else if n == 0x130 then ['i', Char.ofNat 0x307]
  else match lowerRuns.find? (·.has n) with
    | some r => [Char.ofNat ((n : Int) + r.shift).toNat]
    | none => [c]

def inRanges (ranges : List (Nat × Nat)) (c : Char) : Bool :=
  ranges.any fun r => r.1 ≤ c.toNat && c.toNat ≤ r.2

/-- Whether the first character that is not passed over has case. -/
def nextIsCased (s : List Char) : Bool :=
  match s.dropWhile (inRanges caseIgnorableRanges) with
  | [] => false
  | c :: _ => inRanges casedRanges c

/-- The text in small letters; `done` is what was read already, last character first. -/
def lowerFrom (done : List Char) : List Char → List Char
  | [] => []
  | c :: r =>
    if c.toNat == 0x3a3 then
      Char.ofNat (if nextIsCased done && ! nextIsCased r then 0x3c2 else 0x3c3) ::
        lowerFrom (c :: done) r
    else lowerChar c ++ lowerFrom (c :: done) r

def lower (s : List Char) : List Char := lowerFrom [] s

end Gasometer.Text
