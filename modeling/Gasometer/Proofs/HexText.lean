import Gasometer.Address
import Mathlib.Tactic.Linarith
import Mathlib.Tactic.SplitIfs

/-!
# Hexadecimal texts

A text of hexadecimal digits spells a number and a byte string: reading it meets no fault, and the
number of digits bounds what it spells.
-/
namespace Gasometer

namespace Bytes

def IsHexDigit (c : Char) : Prop := (hexValue? c).isSome

instance (c : Char) : Decidable (IsHexDigit c) := inferInstanceAs (Decidable (_ = true))

theorem isHexDigit_iff {c : Char} :
    IsHexDigit c ↔ (0x30 ≤ c.toNat ∧ c.toNat ≤ 0x39) ∨ (0x61 ≤ c.toNat ∧ c.toNat ≤ 0x66) ∨
      (0x41 ≤ c.toNat ∧ c.toNat ≤ 0x46) := by
  unfold IsHexDigit hexValue?
  simp only [Bool.and_eq_true, decide_eq_true_eq]
  split_ifs <;> simp <;> omega

theorem IsHexDigit.lt {c : Char} (h : IsHexDigit c) : c.toNat < 0x80 := by
  have := isHexDigit_iff.1 h; omega

theorem IsHexDigit.not_gap {c : Char} (h : IsHexDigit c) : isGap c = false := by
  have := isHexDigit_iff.1 h
  simp [isGap]; omega

/-- Pairs of digits are read as bytes. -/
theorem readHex_ok (k : Nat) (position : Nat) (done : Bytes) (ds : List Char)
    (hd : ∀ c ∈ ds, IsHexDigit c) (hk : ds.length = 2 * k) :
    ∃ r, readHex position done ds = .ok r ∧ r.size = done.size + k := by
  induction k generalizing position done ds with
  | zero =>
    obtain rfl := List.eq_nil_of_length_eq_zero hk
    exact ⟨done, rfl, rfl⟩
  | succ k ih =>
    match ds with
    | [] => simp at hk
    | [_] => simp only [List.length_singleton] at hk; omega
    | c :: d :: r =>
      have hc : IsHexDigit c := hd c (by simp)
      obtain ⟨h, hh⟩ := Option.isSome_iff_exists.1 hc
      obtain ⟨l, hl⟩ := Option.isSome_iff_exists.1 (hd d (by simp))
      obtain ⟨r', hr, hs⟩ := ih (position + 2) (done.push (UInt8.ofNat (h * 16 + l))) r
        (fun x hx => hd x (by simp [hx])) (by simpa [Nat.mul_add] using hk)
      refine ⟨r', ?_, by rw [hs, Array.size_push]; omega⟩
      unfold readHex
      simp only [hc.not_gap, hh, hl, hr, Bool.false_eq_true, if_false]

theorem ofHexChars_ok {k : Nat} {ds : List Char} (hd : ∀ c ∈ ds, IsHexDigit c)
    (hk : ds.length = 2 * k) : ∃ r, ofHexChars ds = .ok r ∧ r.size = k := by
  have hascii : ds.findIdx? (fun c => 0x80 ≤ c.toNat) = none := by
    rw [List.findIdx?_eq_none_iff]
    intro c hc
    have := (hd c hc).lt
    simp; omega
  obtain ⟨r, hr, hs⟩ := readHex_ok k 0 #[] ds hd hk
  refine ⟨r, ?_, by simpa using hs⟩
  unfold ofHexChars
  rw [hascii]
  exact hr

end Bytes

namespace Text
open Bytes (IsHexDigit)

theorem digitIn?_of_isHexDigit {c : Char} (h : IsHexDigit c) :
    ∃ d, digitIn? 16 c = some d ∧ d < 16 := by
  have hc := Bytes.isHexDigit_iff.1 h
  unfold digitIn? digitValue?
  simp only [Bool.and_eq_true, decide_eq_true_eq]
  split_ifs <;> simp <;> omega

theorem moreDigits_hex (ds : List Char) (hd : ∀ c ∈ ds, IsHexDigit c) (value count : Nat) :
    ∃ v, moreDigits 16 value count ds = some (v, count + ds.length, []) ∧
      v < (value + 1) * 16 ^ ds.length := by
  induction ds generalizing value count with
  | nil => exact ⟨value, by simp [moreDigits], by simp⟩
  | cons c r ih =>
    have hc : IsHexDigit c := hd c (by simp)
    obtain ⟨d, hcd, hlt⟩ := digitIn?_of_isHexDigit hc
    have hne : c ≠ '_' := by rintro rfl; revert hc; decide
    obtain ⟨v, hv, hb⟩ := ih (fun x hx => hd x (by simp [hx])) (value * 16 + d) (count + 1)
    refine ⟨v, ?_, ?_⟩
    · rw [moreDigits.eq_3 16 value count c r (by simp [hne]) (by simp [hne])]
      simp only [hcd, hv, List.length_cons]
      congr 3
      omega
    · calc v < (value * 16 + d + 1) * 16 ^ r.length := hb
        _ ≤ ((value + 1) * 16) * 16 ^ r.length := Nat.mul_le_mul_right _ (by omega)
        _ = (value + 1) * 16 ^ (c :: r).length := by
          rw [List.length_cons, Nat.pow_succ, Nat.mul_assoc, Nat.mul_comm 16]

theorem digitsOf_hex {ds : List Char} (hd : ∀ c ∈ ds, IsHexDigit c) (hne : ds ≠ []) :
    ∃ v, digitsOf 16 ds = some (v, ds.length, []) ∧ v < 16 ^ ds.length := by
  obtain ⟨c, r, rfl⟩ := List.exists_cons_of_ne_nil hne
  obtain ⟨d, hcd, hlt⟩ := digitIn?_of_isHexDigit (hd c (by simp))
  obtain ⟨v, hv, hb⟩ := moreDigits_hex r (fun x hx => hd x (by simp [hx])) d 1
  refine ⟨v, ?_, ?_⟩
  · simp only [digitsOf, hcd, Option.bind_some, hv, List.length_cons]
    congr 3
    omega
  · calc v < (d + 1) * 16 ^ r.length := hb
      _ ≤ 16 * 16 ^ r.length := Nat.mul_le_mul_right _ (by omega)
      _ = 16 ^ (c :: r).length := by rw [List.length_cons, Nat.pow_succ, Nat.mul_comm]

theorem plainChar_of_lt {c : Char} (h : c.toNat < 0x80) : plainChar c = c := if_pos h

/-- A numeral that begins with a hexadecimal digit has neither blanks nor a sign before it. -/
theorem splitSign_hex {c : Char} (hc : IsHexDigit c) (r : List Char) :
    splitSign ((c :: r).dropWhile isPlainBlank) = (false, c :: r) := by
  have hc' := Bytes.isHexDigit_iff.1 hc
  have hblank : isPlainBlank c = false := by simp [isPlainBlank]; omega
  have hminus : c ≠ '-' := by rintro rfl; revert hc; decide
  have hplus : c ≠ '+' := by rintro rfl; revert hc; decide
  rw [List.dropWhile_cons_of_neg (by simp [hblank])]
  simp [splitSign, hminus, hplus]

theorem splitMark_digits {ds : List Char} (hd : ∀ c ∈ ds, IsHexDigit c) :
    splitMark .sixteen ds = (16, true, ds) := by
  match ds with
  | [] => rfl
  | [_] => simp [splitMark]
  | c :: m :: r =>
    have hm : IsHexDigit m := hd m (by simp)
    have hx : m ≠ 'x' := by rintro rfl; revert hm; decide
    have hX : m ≠ 'X' := by rintro rfl; revert hm; decide
    by_cases hc : c = '0'
    · subst hc
      by_cases ho : m = 'o' ∨ m = 'O' <;> by_cases hb : m = 'b' ∨ m = 'B' <;>
        simp [splitMark, markedBase?, hx, hX, ho, hb, Base.takesMark, Option.filter]
    · simp [splitMark, hc]

theorem splitMark_marked {m : Char} (hm : m = 'x' ∨ m = 'X') {ds : List Char}
    (hd : ∀ c ∈ ds, IsHexDigit c) :
    splitMark .sixteen ('0' :: m :: ds) = (16, true, ds) := by
  have hmark : (markedBase? m).filter Base.sixteen.takesMark = some 16 := by
    rcases hm with rfl | rfl <;> decide
  match ds with
  | [] => simp [splitMark, hmark]
  | c :: r =>
    have hc : IsHexDigit c := hd c (by simp)
    have hne : c ≠ '_' := by rintro rfl; revert hc; decide
    simp [splitMark, hmark, hne]

def HexMark (mark : List Char) : Prop := mark = [] ∨ mark = ['0', 'x'] ∨ mark = ['0', 'X']

theorem map_plainChar {s : List Char} (h : ∀ c ∈ s, c.toNat < 0x80) : s.map plainChar = s :=
  (List.map_congr_left fun c hc => plainChar_of_lt (h c hc)).trans (List.map_id s)

/-- Hexadecimal digits, marked or not, spell a number. -/
theorem parseInt_hex {mark ds : List Char} (hm : HexMark mark) (hd : ∀ c ∈ ds, IsHexDigit c)
    (hne : ds ≠ []) :
    ∃ v : Nat, parseInt .sixteen (String.ofList (mark ++ ds)) = .ok v ∧ v < 16 ^ ds.length := by
  obtain ⟨v, hv, hb⟩ := digitsOf_hex hd hne
  obtain ⟨c, r, hcr, hc, hplain, hsplit⟩ : ∃ c r, mark ++ ds = c :: r ∧ IsHexDigit c ∧
      (∀ x ∈ c :: r, x.toNat < 0x80) ∧ splitMark .sixteen (c :: r) = (16, true, ds) := by
    rcases hm with rfl | rfl | rfl
    · obtain ⟨c, r, rfl⟩ := List.exists_cons_of_ne_nil hne
      exact ⟨c, r, rfl, hd c (by simp), fun x hx => (hd x hx).lt, splitMark_digits hd⟩
    · refine ⟨'0', 'x' :: ds, rfl, by decide, ?_, splitMark_marked (.inl rfl) hd⟩
      simpa using fun x hx => (hd x hx).lt
    · refine ⟨'0', 'X' :: ds, rfl, by decide, ?_, splitMark_marked (.inr rfl) hd⟩
      simpa using fun x hx => (hd x hx).lt
  refine ⟨v, ?_, hb⟩
  unfold parseInt
  simp only [String.toList_ofList, hcr, map_plainChar hplain, splitSign_hex hc, hsplit, hv]
  simp

/-- A number that fits is written with exactly as many digits as it is given. -/
theorem length_hexDigits {width n : Nat} (hw : 0 < width) (hn : n < 16 ^ width) :
    (hexDigits width n).length = width := by
  have := (Nat.length_toDigits_le_iff (b := 16) (n := n) (by decide) hw).2 hn
  simp only [hexDigits, List.length_append, List.length_replicate]
  omega

/-- What holds of the sixteen digits holds of those that a number is written with. -/
theorem forall_mem_hexDigits {P : Char → Prop} (hP : ∀ d < 16, P (Nat.digitChar d))
    (width n : Nat) : ∀ c ∈ hexDigits width n, P c := by
  have htoDigits : ∀ c ∈ Nat.toDigits 16 n, P c := by
    induction n using Nat.strongRecOn with
    | ind n ih =>
      intro c hc
      rw [Nat.toDigits_eq_if (by decide)] at hc
      split at hc
      next h =>
        rw [List.mem_singleton] at hc
        exact hc ▸ hP n h
      next h =>
        rcases List.mem_append.1 hc with hc | hc
        · exact ih (n / 16) (by omega) c hc
        · rw [List.mem_singleton] at hc
          exact hc ▸ hP _ (Nat.mod_lt n (by decide))
  intro c hc
  rcases List.mem_append.1 hc with hc | hc
  · rw [List.eq_of_mem_replicate hc]
    exact hP 0 (by decide)
  · exact htoDigits c hc

theorem isHexDigit_hexDigits (width n : Nat) : ∀ c ∈ hexDigits width n, IsHexDigit c :=
  forall_mem_hexDigits (by decide) width n

end Text

end Gasometer
