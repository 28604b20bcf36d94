import Gasometer.Proofs.Prices

/-!
# Memory as an endless array

A memory stands for an endless array of bytes: what lies past its end is zero. Growing by zeros
leaves the array as it is, putting bytes into the place of others changes the cells of that place
and no others, and what is read are the cells of a range.

The size of a memory follows from the regions that were reached over, and its price from its size:
the prices of all expansions add up to the price of the memory that they lead to.
-/
namespace Gasometer

abbrev Cells := Nat → UInt8

structure Write where
  offset : Int
  bytes : Bytes

/-- The byte at a place; it is zero past the end. -/
def Bytes.cell (bs : Bytes) : Cells := fun i => bs.getD i 0

namespace Write

def Covers (w : Write) (i : Nat) : Prop := w.offset ≤ i ∧ i < w.offset + w.bytes.size

instance (w : Write) (i : Nat) : Decidable (w.Covers i) := inferInstanceAs (Decidable (_ ∧ _))

end Write

namespace Cells

def read (c : Cells) (offset size : Int) : Bytes :=
  Array.ofFn fun i : Fin size.toNat => c (offset.toNat + i)

def put (c : Cells) (w : Write) : Cells := fun i =>
  if w.Covers i then w.bytes.cell (i - w.offset).toNat else c i

/-- The memory after these writes, the latest first. -/
def overlay (c : Cells) (ws : List Write) : Cells := ws.foldr (fun w c => c.put w) c

/-- What was last written to each cell, or zero; the writes are given latest first. -/
def written (ws : List Write) : Cells := overlay (fun _ => 0) ws

/-- A write without bytes changes nothing. -/
theorem put_empty (c : Cells) {w : Write} (h : w.bytes.size = 0) : c.put w = c := by
  funext i
  refine if_neg ?_
  rintro ⟨hlow, hhigh⟩
  omega

theorem written_append (ws vs : List Write) : written (ws ++ vs) = overlay (written vs) ws :=
  List.foldr_append

@[simp] theorem size_read (c : Cells) (offset size : Int) :
    (c.read offset size).size = size.toNat := Array.size_ofFn

theorem cell_read (c : Cells) {offset size : Int} {i : Nat} (h : i < size.toNat) :
    (c.read offset size).cell i = c (offset.toNat + i) := by
  have hi : i < (c.read offset size).size := by rwa [size_read]
  rw [Bytes.cell, Array.getD_eq_getD_getElem?, Array.getElem?_eq_getElem hi]
  exact Array.getElem_ofFn ..

end Cells

namespace Bytes

variable {bs new r : Bytes} {offset size start stop : Int}

theorem cell_eq_getElem {i : Nat} (h : i < bs.size) : bs.cell i = bs[i] := by
  simp [cell, h]

theorem cell_of_le {i : Nat} (h : bs.size ≤ i) : bs.cell i = 0 := by
  simp [cell, h]

/-- Byte strings of one size are equal if their cells are. -/
theorem ext_cell (hsize : bs.size = r.size) (h : ∀ i < r.size, bs.cell i = r.cell i) : bs = r := by
  refine Array.ext hsize fun i hi hi' => ?_
  rw [← cell_eq_getElem hi, ← cell_eq_getElem hi', h i hi']

theorem zeros_eq (h : zeros size = .ok r) : r = Array.replicate size.toNat 0 := by
  unfold zeros at h
  split_ifs at h
  cases h
  rfl

theorem eq_of_ofInt {width : Nat} {n : Int} (h : ofInt width n = .ok r) :
    r = ofNat width n.toNat := by
  unfold ofInt at h
  split_ifs at h
  exact (Except.ok.inj h).symm

theorem cell_replicate_zero (n i : Nat) : cell (Array.replicate n 0) i = 0 := by
  by_cases h : i < n <;> simp [cell, h]

theorem cell_append (i : Nat) :
    (bs ++ new).cell i = if i < bs.size then bs.cell i else new.cell (i - bs.size) := by
  simp only [cell, Array.getD_eq_getD_getElem?, Array.getElem?_append]
  split_ifs <;> rfl

/-- Zeros at the end change no cell. -/
theorem cell_append_replicate (bs : Bytes) (n : Nat) :
    cell (bs ++ Array.replicate n 0) = bs.cell := by
  funext i
  rw [cell_append, cell_replicate_zero]
  split_ifs with hi
  · rfl
  · exact (cell_of_le (not_lt.1 hi)).symm

theorem cell_append_zeros (h : zeros size = .ok r) : (bs ++ r).cell = bs.cell := by
  rw [zeros_eq h, cell_append_replicate]

theorem cell_extract {a b i : Nat} (h : i < b - a) (hb : b ≤ bs.size) :
    cell (bs.extract a b) i = bs.cell (a + i) := by
  have hi : i < (bs.extract a b).size := by rw [Array.size_extract]; omega
  rw [cell_eq_getElem hi, cell_eq_getElem (show a + i < bs.size by omega), Array.getElem_extract]

/-- A slice of a range within the string are the cells of the range. -/
theorem slice_eq_read (ho : 0 ≤ offset) (hs : 0 ≤ size) (hend : offset + size ≤ bs.size) :
    bs.slice offset (offset + size) = Cells.read bs.cell offset size := by
  have hstart := bound_of_le ho (by omega : offset ≤ bs.size)
  have hstop := bound_of_le (by omega : 0 ≤ offset + size) hend
  refine ext_cell (by rw [size_slice, hstart, hstop, Cells.size_read]; omega) fun i hi => ?_
  rw [Cells.size_read] at hi
  rw [Cells.cell_read _ hi, slice, hstart, hstop, cell_extract (by omega) (by omega)]

/-- Reading past the end of a string yields zeros. -/
theorem padded_eq_read (ho : 0 ≤ offset) (hs : 0 ≤ size) (h : bs.padded offset size = .ok r) :
    r = Cells.read bs.cell offset size := by
  unfold padded at h
  split_ifs at h with hend
  · obtain rfl := zeros_eq h
    refine ext_cell (by simp) fun i hi => ?_
    rw [Cells.size_read] at hi
    rw [cell_replicate_zero, Cells.cell_read _ hi, cell_of_le (by omega)]
  · have hstart := bound_of_le ho (by omega : offset ≤ bs.size)
    have hsize := size_slice bs offset (offset + size)
    have hstop : bound bs.size (offset + size) = min (offset + size).toNat bs.size := by
      rw [bound, if_neg (by omega)]
    generalize hchunk : bs.slice offset (offset + size) = chunk at h hsize
    rw [hstart, hstop] at hsize
    dsimp only at h
    cases hz : zeros (size - chunk.size) with
    | error fault => rw [hz] at h; cases h
    | ok z =>
      rw [hz] at h
      cases h
      have hzeros := size_zeros hz
      refine ext_cell (by rw [Array.size_append, Cells.size_read]; omega) fun i hi => ?_
      rw [Cells.size_read] at hi
      rw [Cells.cell_read _ hi, cell_append]
      split_ifs with hin
      · rw [← hchunk, slice, hstart, hstop, cell_extract (by omega) (by omega)]
      · rw [zeros_eq hz, cell_replicate_zero, cell_of_le (by omega)]

theorem cell_setIfInBounds (bs : Bytes) (a i : Nat) (b : UInt8) (h : a < bs.size) :
    cell (bs.setIfInBounds a b) i = if i = a then b else bs.cell i := by
  simp only [cell, Array.getD_eq_getD_getElem?, Array.getElem?_setIfInBounds]
  by_cases hi : i = a
  · subst hi
    simp [h]
  · simp [hi, Ne.symm hi]

/-- Setting the first bytes of a range one after the other. -/
theorem cell_foldl_set (new : Bytes) {a n : Nat} (hn : a + n ≤ bs.size) (i : Nat) :
    cell ((List.range n).foldl (fun m j => m.setIfInBounds (a + j) (new.getD j 0)) bs) i =
      if a ≤ i ∧ i < a + n then new.cell (i - a) else bs.cell i := by
  induction n with
  | zero => simp
  | succ n ih =>
    have hsize : a + n < ((List.range n).foldl (fun m j => m.setIfInBounds (a + j) (new.getD j 0))
        bs).size := by
      rw [size_foldl_set]
      omega
    rw [List.range_succ, List.foldl_append, List.foldl_cons, List.foldl_nil,
      cell_setIfInBounds _ _ _ _ hsize, ih (by omega)]
    by_cases hi : i = a + n
    · subst hi
      rw [if_pos rfl, if_pos (by omega), Nat.add_sub_cancel_left, cell]
    · rw [if_neg hi]
      exact if_congr (by omega) rfl rfl

/-- Putting bytes into the place of as many others writes them. -/
theorem cell_splice (ho : 0 ≤ start) (hstop : stop = start + new.size) (hend : stop ≤ bs.size) :
    (bs.splice start stop new).cell = Cells.put bs.cell ⟨start, new⟩ := by
  have hstart := bound_of_le ho (by omega : start ≤ bs.size)
  have hbound := bound_of_le (by omega : 0 ≤ stop) hend
  funext i
  unfold splice
  simp only [hstart, hbound]
  rw [if_pos (by omega), cell_foldl_set new (by omega)]
  refine if_congr ?_ ?_ rfl
  · show _ ↔ start ≤ i ∧ (i : Int) < start + new.size
    omega
  · show new.cell (i - start.toNat) = new.cell (i - start).toNat
    congr 1
    omega

end Bytes

/-- A part of the memory that an operation asks for. -/
structure Region where
  offset : Int
  size : Int

namespace Region

variable {r : Region} {rs : List Region} {n : Int}

/-- The words that a memory has at least when it reaches over a region. A region without size asks
for nothing, wherever it lies. -/
def words (r : Region) : Int := if r.size = 0 then 0 else Gas.wordsFor (r.offset + r.size)

def largestEnd (rs : List Region) : Int :=
  rs.foldr (fun r m => if r.size = 0 then m else max (r.offset + r.size) m) 0

/-- The words that a memory has when it reaches over these regions and no further. -/
def wordsOf (rs : List Region) : Int := Gas.wordsFor (largestEnd rs)

/-- What the expansions cost, one after the other, of a memory of so many words. -/
def charges : Int → List Region → List Int
  | _, [] => []
  | n, r :: rs => (Gas.memoryCost (max n r.words) - Gas.memoryCost n) :: charges (max n r.words) rs

@[simp] theorem wordsOf_nil : wordsOf [] = 0 := rfl

theorem wordsFor_max (x y : Int) :
    Gas.wordsFor (max x y) = max (Gas.wordsFor x) (Gas.wordsFor y) := by
  unfold Gas.wordsFor
  omega

theorem largestEnd_nonneg (rs : List Region) : 0 ≤ largestEnd rs := by
  induction rs with
  | nil => exact le_rfl
  | cons r rs ih =>
    show 0 ≤ if r.size = 0 then largestEnd rs else max (r.offset + r.size) (largestEnd rs)
    split_ifs
    · exact ih
    · exact ih.trans (le_max_right ..)

theorem wordsOf_nonneg (rs : List Region) : 0 ≤ wordsOf rs :=
  Gas.wordsFor_nonneg (largestEnd_nonneg rs)

theorem wordsOf_cons (r : Region) (rs : List Region) :
    wordsOf (r :: rs) = max r.words (wordsOf rs) := by
  have hnonneg := wordsOf_nonneg rs
  show Gas.wordsFor
    (if r.size = 0 then largestEnd rs else max (r.offset + r.size) (largestEnd rs)) = _
  unfold words
  split_ifs
  · exact (max_eq_right hnonneg).symm
  · exact wordsFor_max ..

theorem wordsOf_append (rs rs' : List Region) :
    wordsOf (rs ++ rs') = max (wordsOf rs) (wordsOf rs') := by
  induction rs with
  | nil => exact (max_eq_right (wordsOf_nonneg rs')).symm
  | cons r rs ih => rw [List.cons_append, wordsOf_cons, ih, wordsOf_cons, max_assoc]

/-- Expansions cost together what leads from the first size to the last, however they are split. -/
theorem sum_charges (hn : 0 ≤ n) (rs : List Region) :
    (charges n rs).sum = Gas.memoryCost (max n (wordsOf rs)) - Gas.memoryCost n := by
  induction rs generalizing n with
  | nil => rw [wordsOf_nil, max_eq_left hn]; exact (sub_self _).symm
  | cons r rs ih =>
    rw [charges, List.sum_cons, ih (hn.trans (le_max_left ..)), wordsOf_cons, max_assoc]
    omega

theorem charges_nonneg (hn : 0 ≤ n) (rs : List Region) : ∀ x ∈ charges n rs, 0 ≤ x := by
  induction rs generalizing n with
  | nil => rintro x ⟨⟩
  | cons r rs ih =>
    have hgrows : n ≤ max n r.words := le_max_left ..
    refine List.forall_mem_cons.2 ⟨Int.sub_nonneg_of_le (Gas.memoryCost_mono hn hgrows), ?_⟩
    exact ih (hn.trans hgrows)

end Region
end Gasometer
