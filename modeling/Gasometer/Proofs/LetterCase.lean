import Gasometer.Proofs.HexText
import Gasometer.Text.Case

/-!
# Small letters

Putting a text into small letters makes hexadecimal digits of hexadecimal digits alone, which keep
their values. Done a second time it changes nothing: no letter leads to one that has another small
form.
-/
namespace Gasometer.Text
open Bytes (IsHexDigit hexValue?)

variable {c d : Char} {n : Nat} {s done : List Char}

theorem toNat_ofNat_of_isValidChar (h : n.isValidChar) : (Char.ofNat n).toNat = n :=
  congrArg Char.toNat (dif_pos h)

/-- A number that is no character is made one that is zero. -/
theorem toNat_ofNat (n : Nat) : (Char.ofNat n).toNat = n ∨ (Char.ofNat n).toNat = 0 := by
  by_cases hvalid : n.isValidChar
  · exact .inl (toNat_ofNat_of_isValidChar hvalid)
  · exact .inr (congrArg Char.toNat (dif_neg hvalid))

/-! ## Hexadecimal digits -/

def smallHexDigits : List Char := "0123456789abcdef".toList

theorem mem_smallHexDigits : c ∈ smallHexDigits ↔
    (0x30 ≤ c.toNat ∧ c.toNat ≤ 0x39) ∨ (0x61 ≤ c.toNat ∧ c.toNat ≤ 0x66) := by
  constructor
  · intro h
    have hall : smallHexDigits.all (fun d => decide ((0x30 ≤ d.toNat ∧ d.toNat ≤ 0x39) ∨
        (0x61 ≤ d.toNat ∧ d.toNat ≤ 0x66))) = true := by decide
    exact of_decide_eq_true (List.all_eq_true.1 hall c h)
  · intro h
    have hall : ∀ n < 0x67, (0x30 ≤ n ∧ n ≤ 0x39) ∨ (0x61 ≤ n ∧ n ≤ 0x66) →
        Char.ofNat n ∈ smallHexDigits := by decide
    have := hall c.toNat (by omega) h
    rwa [Char.ofNat_toNat] at this

/-- A character is its own small form or a letter of a run, the dotted capital of `i` apart. -/
theorem lowerChar_cases (c : Char) :
    lowerChar c = [c] ∨ (c.toNat = 0x130 ∧ lowerChar c = ['i', Char.ofNat 0x307]) ∨
      ∃ r ∈ lowerRuns, r.has c.toNat = true ∧
        lowerChar c = [Char.ofNat ((c.toNat : Int) + r.shift).toNat] := by
  unfold lowerChar
  by_cases hascii : c.toNat < 0x80
  · by_cases hcapital : 0x41 ≤ c.toNat ∧ c.toNat ≤ 0x5a
    · have hlatin : ⟨0x41, 0x5a, 1, 32⟩ ∈ lowerRuns := List.mem_cons_self
      have hshift : ((c.toNat : Int) + 32).toNat = c.toNat + 0x20 := by omega
      exact .inr (.inr ⟨_, hlatin, by simp [CaseRun.has, hcapital, Nat.mod_one],
        by simp [hascii, hcapital, hshift]⟩)
    · exact .inl (by simp [hascii, hcapital])
  by_cases hdotted : c.toNat = 0x130
  · exact .inr (.inl ⟨hdotted, by simp [hdotted]⟩)
  cases hrun : lowerRuns.find? (·.has c.toNat) with
  | none => exact .inl (by simp [hascii, hdotted, hrun])
  | some r =>
    have hhas : r.has c.toNat = true := by simpa using List.find?_some hrun
    exact .inr (.inr ⟨r, List.mem_of_find?_eq_some hrun, hhas, by simp [hascii, hdotted, hrun]⟩)

/-- Only capitals of ASCII have hexadecimal digits as their small form. The small forms are
characters, and none of them is the dotted capital of `i`. -/
theorem lowerRuns_ranges : ∀ r ∈ lowerRuns,
    (0x41 ≤ r.first ∧ r.last ≤ 0x5a ∧ r.shift = 32) ∨
      (0x67 ≤ r.first + r.shift ∧ r.last + r.shift < 0x130) ∨
      (0x130 < r.first + r.shift ∧ r.last + r.shift < 0xd800) ∨
      (0xe000 ≤ r.first + r.shift ∧ r.last + r.shift < 0x110000) := by
  decide +kernel

/-- What a character becomes, and whether it has been a hexadecimal digit. -/
inductive BecomesDigit (c : Char) : List Char → Prop
  | digit {d : Char} (hc : IsHexDigit c) (hd : d ∈ smallHexDigits) : BecomesDigit c [d]
  | other {ds : List Char} {d : Char} (hc : ¬ IsHexDigit c) (hmem : d ∈ ds)
      (hd : d ∉ smallHexDigits) : BecomesDigit c ds

theorem not_mem_smallHexDigits_ofNat (h : 0x67 ≤ n) : Char.ofNat n ∉ smallHexDigits := by
  have hvalue := toNat_ofNat n
  rw [mem_smallHexDigits]
  omega

theorem isHexDigit_of_mem (h : c ∈ smallHexDigits) : IsHexDigit c := by
  have := mem_smallHexDigits.1 h
  exact Bytes.isHexDigit_iff.2 (by omega)

/-- A hexadecimal digit becomes a small one of the same value. -/
theorem lowerChar_of_isHexDigit (hc : IsHexDigit c) :
    lowerChar c = [c.toLower] ∧ c.toLower ∈ smallHexDigits ∧
      hexValue? c.toLower = hexValue? c := by
  have hlt : c.toNat < 0x67 := by
    have := Bytes.isHexDigit_iff.1 hc
    omega
  have hall : ∀ n < 0x67, IsHexDigit (Char.ofNat n) →
      lowerChar (Char.ofNat n) = [(Char.ofNat n).toLower] ∧
        (Char.ofNat n).toLower ∈ smallHexDigits ∧
        hexValue? (Char.ofNat n).toLower = hexValue? (Char.ofNat n) := by decide
  have hofNat := hall c.toNat hlt
  rw [Char.ofNat_toNat] at hofNat
  exact hofNat hc

theorem lowerChar_digit (c : Char) : BecomesDigit c (lowerChar c) := by
  by_cases hc : IsHexDigit c
  · obtain ⟨heq, hsmall, -⟩ := lowerChar_of_isHexDigit hc
    exact heq ▸ .digit hc hsmall
  rcases lowerChar_cases c with heq | ⟨-, heq⟩ | ⟨r, hr, hhas, heq⟩
  · rw [heq]
    exact .other hc (List.mem_singleton_self c) fun hmem => hc (isHexDigit_of_mem hmem)
  · rw [heq]
    exact .other hc (List.mem_cons_self ..) (by decide)
  · rw [heq]
    refine .other hc (List.mem_singleton_self _) (not_mem_smallHexDigits_ofNat ?_)
    simp only [CaseRun.has, Bool.and_eq_true, decide_eq_true_eq] at hhas
    rw [Bytes.isHexDigit_iff] at hc
    have := lowerRuns_ranges r hr
    omega

/-- Characters are put into small letters one after the other. -/
theorem lowerFrom_cons (done : List Char) (c : Char) (r : List Char) :
    ∃ ds, lowerFrom done (c :: r) = ds ++ lowerFrom (c :: done) r ∧ BecomesDigit c ds := by
  rw [lowerFrom]
  split
  · next hsigma =>
    have hc : ¬ IsHexDigit c := fun hc => by
      have := hc.lt
      have := beq_iff_eq.1 hsigma
      omega
    refine ⟨[_], rfl, .other hc (List.mem_singleton_self _) (not_mem_smallHexDigits_ofNat ?_)⟩
    split <;> decide
  · exact ⟨lowerChar c, rfl, lowerChar_digit c⟩

theorem BecomesDigit.ne_nil {ds : List Char} (h : BecomesDigit c ds) : ds ≠ [] := by
  rintro rfl
  cases h with
  | other _ hmem => simp at hmem

/-- Hexadecimal digits are put into small letters one by one. -/
theorem lowerFrom_of_isHexDigit (hs : ∀ c ∈ s, IsHexDigit c) :
    lowerFrom done s = s.map Char.toLower := by
  induction s generalizing done with
  | nil => rfl
  | cons c r ih =>
    have hc : IsHexDigit c := hs c (by simp)
    have hsigma : c.toNat ≠ 0x3a3 := by
      have := hc.lt
      omega
    have hr : lowerFrom (c :: done) r = r.map Char.toLower := ih fun x hx => hs x (by simp [hx])
    simp [lowerFrom, hsigma, (lowerChar_of_isHexDigit hc).1, hr]

/-- A text of hexadecimal digits keeps its length, and gets small digits. -/
theorem lowerFrom_hex (done : List Char) (hs : ∀ c ∈ s, IsHexDigit c) :
    (lowerFrom done s).length = s.length ∧ ∀ d ∈ lowerFrom done s, d ∈ smallHexDigits := by
  rw [lowerFrom_of_isHexDigit hs]
  refine ⟨List.length_map .., fun d hd => ?_⟩
  obtain ⟨c, hc, rfl⟩ := List.mem_map.1 hd
  exact (lowerChar_of_isHexDigit (hs c hc)).2.1

/-- Only hexadecimal digits have small hexadecimal digits as their small form. -/
theorem hex_of_lowerFrom (h : ∀ d ∈ lowerFrom done s, d ∈ smallHexDigits) :
    ∀ c ∈ s, IsHexDigit c := by
  induction s generalizing done with
  | nil => simp
  | cons c r ih =>
    obtain ⟨ds, heq, hds⟩ := lowerFrom_cons done c r
    rw [heq] at h
    intro x hx
    rcases List.mem_cons.1 hx with rfl | hx
    · cases hds with
      | digit hc => exact hc
      | other _ hmem hd => exact absurd (h _ (List.mem_append_left _ hmem)) hd
    · exact ih (fun d hd => h d (List.mem_append_right _ hd)) x hx

theorem lower_ne_nil (h : s ≠ []) : lower s ≠ [] := by
  cases s with
  | nil => contradiction
  | cons c r =>
    obtain ⟨ds, heq, hds⟩ := lowerFrom_cons [] c r
    rw [lower, heq]
    exact List.append_ne_nil_of_left_ne_nil hds.ne_nil _

/-! ## Characters in their small form -/

/-- Whether a character is its own small form, wherever it stands. -/
def IsSmall (c : Char) : Prop := c.toNat ≠ 0x3a3 ∧ lowerChar c = [c]

instance (c : Char) : Decidable (IsSmall c) := inferInstanceAs (Decidable (_ ∧ _))

def CaseRun.letters (r : CaseRun) : List Nat :=
  (List.range ((r.last - r.first) / r.stride + 1)).map fun i => r.first + r.stride * i

def CaseRun.others (r : CaseRun) : List Nat :=
  r.letters.map fun (n : Nat) => ((n : Int) + r.shift).toNat

theorem CaseRun.mem_letters {r : CaseRun} (h : r.has n = true) : n ∈ r.letters := by
  simp only [CaseRun.has, Bool.and_eq_true, decide_eq_true_eq, beq_iff_eq] at h
  obtain ⟨⟨hfirst, hlast⟩, hstride⟩ := h
  refine List.mem_map.2 ⟨(n - r.first) / r.stride, List.mem_range.2 ?_, ?_⟩
  · exact Nat.lt_succ_of_le (Nat.div_le_div_right (by omega))
  · rw [Nat.mul_div_cancel' (Nat.dvd_of_mod_eq_zero hstride)]
    omega

def unionBits {α : Type} (f : α → Nat) (l : List α) : Nat := l.foldr (fun a b => f a ||| b) 0

theorem testBit_unionBits {α : Type} {f : α → Nat} {l : List α} :
    (unionBits f l).testBit n = true ↔ ∃ a ∈ l, (f a).testBit n = true := by
  induction l with
  | nil => simp [unionBits]
  | cons a l ih =>
    have hcons : unionBits f (a :: l) = f a ||| unionBits f l := rfl
    simp [hcons, Nat.testBit_or, ih]

def bitsOf (nss : List (List Nat)) : Nat := unionBits (unionBits (2 ^ ·)) nss

theorem testBit_bitsOf {nss : List (List Nat)} :
    (bitsOf nss).testBit n = true ↔ ∃ ns ∈ nss, n ∈ ns := by
  simp [bitsOf, testBit_unionBits, Nat.testBit_two_pow]

/-- No letter leads to one that has another small form. The letters are compared as sets of bits,
all at once. -/
theorem lowerRuns_others :
    bitsOf (lowerRuns.map CaseRun.letters) &&& bitsOf (lowerRuns.map CaseRun.others) = 0 := by
  decide +kernel

theorem not_has_of_mem_others {r r' : CaseRun} (hr : r ∈ lowerRuns) (hn : n ∈ r.others)
    (hr' : r' ∈ lowerRuns) : r'.has n = false := by
  rw [Bool.eq_false_iff]
  intro hhas
  have hletters : (bitsOf (lowerRuns.map CaseRun.letters)).testBit n = true :=
    testBit_bitsOf.2 ⟨_, List.mem_map_of_mem hr', CaseRun.mem_letters hhas⟩
  have hothers : (bitsOf (lowerRuns.map CaseRun.others)).testBit n = true :=
    testBit_bitsOf.2 ⟨_, List.mem_map_of_mem hr, hn⟩
  have hboth := congrArg (Nat.testBit · n) lowerRuns_others
  simp [hletters, hothers] at hboth

/-- A character that no run holds is its own small form. -/
theorem isSmall_of_no_run (hrun : ∀ r ∈ lowerRuns, r.has c.toNat = false)
    (hdotted : c.toNat ≠ 0x130) : IsSmall c := by
  have hsigma : c.toNat ≠ 0x3a3 := by
    intro hc
    have hheld : lowerRuns.any (·.has 0x3a3) = true := by decide
    obtain ⟨r, hr, hhas⟩ := List.any_eq_true.1 hheld
    simp [← hc, hrun r hr] at hhas
  have hcapital : ¬ (0x41 ≤ c.toNat ∧ c.toNat ≤ 0x5a) := by
    have hlatin : ⟨0x41, 0x5a, 1, 32⟩ ∈ lowerRuns := List.mem_cons_self
    simpa [CaseRun.has, Nat.mod_one] using hrun _ hlatin
  have hnone : lowerRuns.find? (·.has c.toNat) = none := by simpa using hrun
  exact ⟨hsigma, by simp [lowerChar, hcapital, hdotted, hnone]⟩

/-- The other case of a letter is small. -/
theorem isSmall_ofNat_shift {r : CaseRun} (hr : r ∈ lowerRuns) (hn : r.has n = true) :
    IsSmall (Char.ofNat ((n : Int) + r.shift).toNat) := by
  have hvalid := lowerRuns_ranges r hr
  have hrange := hn
  simp only [CaseRun.has, Bool.and_eq_true, decide_eq_true_eq] at hrange
  have hchar := toNat_ofNat_of_isValidChar (n := ((n : Int) + r.shift).toNat)
    (by simp only [Nat.isValidChar]; omega)
  apply isSmall_of_no_run
  · intro r' hr'
    rw [hchar]
    exact not_has_of_mem_others hr (List.mem_map_of_mem (CaseRun.mem_letters hn)) hr'
  · omega

/-- What a character becomes is small. -/
theorem isSmall_of_mem_lowerChar (hc : c.toNat ≠ 0x3a3) (h : d ∈ lowerChar c) : IsSmall d := by
  rcases lowerChar_cases c with heq | ⟨-, heq⟩ | ⟨r, hr, hhas, heq⟩
  · rw [heq, List.mem_singleton] at h
    exact h ▸ ⟨hc, heq⟩
  · have hall : ['i', Char.ofNat 0x307].all (IsSmall ·) = true := by decide
    rw [heq] at h
    exact of_decide_eq_true (List.all_eq_true.1 hall d h)
  · rw [heq, List.mem_singleton] at h
    exact h ▸ isSmall_ofNat_shift hr hhas

theorem isSmall_of_mem_lowerFrom (h : d ∈ lowerFrom done s) : IsSmall d := by
  induction s generalizing done with
  | nil => simp [lowerFrom] at h
  | cons c r ih =>
    rw [lowerFrom] at h
    split at h
    · have hsigmas : IsSmall (Char.ofNat 0x3c2) ∧ IsSmall (Char.ofNat 0x3c3) := by decide
      rcases List.mem_cons.1 h with rfl | h
      · split
        · exact hsigmas.1
        · exact hsigmas.2
      · exact ih h
    · next hc =>
      rcases List.mem_append.1 h with h | h
      · exact isSmall_of_mem_lowerChar (by simpa using hc) h
      · exact ih h

/-- A text in small letters is not changed by putting it into small letters. -/
theorem lowerFrom_of_isSmall (hs : ∀ c ∈ s, IsSmall c) : lowerFrom done s = s := by
  induction s generalizing done with
  | nil => rfl
  | cons c r ih =>
    obtain ⟨hsigma, hself⟩ := hs c (by simp)
    have hr : lowerFrom (c :: done) r = r := ih fun x hx => hs x (by simp [hx])
    simp [lowerFrom, hsigma, hself, hr]

end Gasometer.Text
