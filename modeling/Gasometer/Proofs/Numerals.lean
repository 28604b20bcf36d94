import Gasometer.Assembly.Layout
import Gasometer.Proofs.HexText
import Mathlib.Tactic.SplitIfs

/-!
# The grammar of numerals

An integer that stands in a word, with no blanks around it, is an optional sign and decimal digits,
or `0x` and hexadecimal digits. Single underscores may stand between digits and after the mark, and
the digits of every script count. Reading accepts exactly these numerals and gives the number that
they spell; the number written in decimal or in hexadecimal is read back.
-/
namespace Gasometer.Text
open Bytes (IsHexDigit)

-- Powers are those of the core library, also where Mathlib offers its own.
attribute [local instance (high)] instPowNat

def digitOf? (base : Nat) (c : Char) : Option Nat := digitIn? base (plainChar c)

/-- `Digits base v s w`: with the digits `s` after it, the value `v` becomes `w`. One underscore may
stand before each digit. -/
inductive Digits (base : Nat) : Nat → List Char → Nat → Prop
  | done (v : Nat) : Digits base v [] v
  | digit {v w d : Nat} {c : Char} {r : List Char} (hc : digitOf? base c = some d)
      (hr : Digits base (v * base + d) r w) : Digits base v (c :: r) w
  | underscore {v w d : Nat} {c : Char} {r : List Char} (hc : digitOf? base c = some d)
      (hr : Digits base (v * base + d) r w) : Digits base v ('_' :: c :: r) w

/-- Digits, at least one and the first without an underscore before it, that spell a number. -/
inductive Spelled (base : Nat) : List Char → Nat → Prop
  | mk {d w : Nat} {c : Char} {r : List Char} (hc : digitOf? base c = some d)
      (hr : Digits base d r w) : Spelled base (c :: r) w

def digitCount (s : List Char) : Nat := s.countP (· ≠ '_')

/-- A decimal numeral without a sign; its length is limited. -/
def Decimal (s : List Char) (n : Nat) : Prop := Spelled 10 s n ∧ digitCount s ≤ maxDigits

inductive Numeral : List Char → Int → Prop
  | plain {s : List Char} {n : Nat} (h : Decimal s n) : Numeral s n
  | plus {s : List Char} {n : Nat} (h : Decimal s n) : Numeral ('+' :: s) n
  | minus {s : List Char} {n : Nat} (h : Decimal s n) : Numeral ('-' :: s) (-(n : Int))
  | hex {x : Char} {s : List Char} {n : Nat} (hx : x = 'x' ∨ x = 'X') (h : Spelled 16 s n) :
      Numeral ('0' :: x :: s) n
  | hexGap {x : Char} {s : List Char} {n : Nat} (hx : x = 'x' ∨ x = 'X') (h : Spelled 16 s n) :
      Numeral ('0' :: x :: '_' :: s) n

variable {base v w k n : Nat} {c : Char} {s r : List Char}

/-! Bringing characters into ASCII. -/

theorem decimalDigit?_lt {d : Nat} (h : decimalDigit? c = some d) : d < 10 := by
  unfold decimalDigit? at h
  simp only [Bool.and_eq_true, decide_eq_true_eq] at h
  split_ifs at h with hlow hdigit
  · simp only [Option.some.injEq] at h
    omega
  · obtain ⟨z, hz, rfl⟩ := Option.map_eq_some_iff.1 h
    have hrange := List.find?_some hz
    simp only [Bool.and_eq_true, decide_eq_true_eq] at hrange
    omega

/-- A character comes into ASCII as itself, as a space or as a digit. -/
theorem plainChar_cases (c : Char) :
    plainChar c = c ∨ isBlank c = true ∨ ∃ d < 10, plainChar c = Char.ofNat (0x30 + d) := by
  unfold plainChar
  split_ifs with hascii hblank
  · exact .inl rfl
  · exact .inr (.inl hblank)
  · cases hd : decimalDigit? c with
    | none => exact .inl rfl
    | some d => exact .inr (.inr ⟨d, decimalDigit?_lt hd, rfl⟩)

theorem isBlank_of_isPlainBlank (h : isPlainBlank c = true) : isBlank c = true := by
  simp only [isPlainBlank, isBlank, Bool.or_eq_true, Bool.and_eq_true, decide_eq_true_eq,
    beq_iff_eq] at *
  omega

theorem isPlainBlank_plainChar (h : isBlank c = false) : isPlainBlank (plainChar c) = false := by
  rcases plainChar_cases c with hc | hc | ⟨d, hd, hc⟩
  · rw [hc]
    by_contra hblank
    rw [isBlank_of_isPlainBlank (eq_true_of_ne_false hblank)] at h
    cases h
  · rw [hc] at h
    cases h
  · rw [hc]
    have hdigits : ∀ d < 10, isPlainBlank (Char.ofNat (0x30 + d)) = false := by decide
    exact hdigits d hd

/-- A character that is neither blank nor a digit comes from itself alone. -/
theorem plainChar_eq_iff {x : Char} (hx : x.toNat < 0x80) (hdigit : x.isDigit = false)
    (hc : isBlank c = false) : plainChar c = x ↔ c = x := by
  constructor
  · intro h
    rcases plainChar_cases c with hself | hblank | ⟨d, hd, hto⟩
    · exact hself ▸ h
    · rw [hblank] at hc
      cases hc
    · have hdigits : ∀ d < 10, (Char.ofNat (0x30 + d)).isDigit = true := by decide
      rw [← h, hto, hdigits d hd] at hdigit
      cases hdigit
  · rintro rfl
    exact plainChar_of_lt hx

theorem digitOf?_underscore (base : Nat) : digitOf? base '_' = none := by
  have hvalue : digitValue? (plainChar '_') = none := by decide
  rw [digitOf?, digitIn?, hvalue]
  rfl

theorem ne_underscore {d : Nat} (h : digitOf? base c = some d) : c ≠ '_' := by
  rintro rfl
  rw [digitOf?_underscore] at h
  cases h

/-! Reading digits. -/

theorem digitCount_cons (h : c ≠ '_') (r : List Char) : digitCount (c :: r) = digitCount r + 1 := by
  simp [digitCount, h]

theorem digitCount_underscore (r : List Char) : digitCount ('_' :: r) = digitCount r := by
  simp [digitCount]

/-- A text that is read to its end consists of digits. -/
theorem Digits.of_moreDigits (hs : ∀ c ∈ s, isBlank c = false) {k' : Nat}
    (h : moreDigits base v k (s.map plainChar) = some (w, k', [])) :
    Digits base v s w ∧ k' = k + digitCount s := by
  generalize hm : s.map plainChar = t at h
  fun_induction moreDigits base v k t generalizing s with
  | case1 v k c r d hd ih =>
    obtain ⟨x, s, rfl⟩ := List.exists_cons_of_ne_nil (l := s) (by rintro rfl; simp at hm)
    obtain ⟨y, s, rfl⟩ := List.exists_cons_of_ne_nil (l := s) (by rintro rfl; simp at hm)
    simp only [List.map_cons, List.cons.injEq] at hm
    obtain ⟨hx, rfl, rfl⟩ := hm
    obtain rfl := (plainChar_eq_iff (by decide) (by decide) (hs x (by simp))).1 hx
    obtain ⟨hr, rfl⟩ := ih (fun c hc => hs c (by simp [hc])) rfl h
    refine ⟨.underscore hd hr, ?_⟩
    rw [digitCount_underscore, digitCount_cons (ne_underscore hd)]
    omega
  | case2 | case3 => cases h
  | case4 v k c r _ _ d hd ih =>
    obtain ⟨x, s, rfl⟩ := List.exists_cons_of_ne_nil (l := s) (by rintro rfl; simp at hm)
    simp only [List.map_cons, List.cons.injEq] at hm
    obtain ⟨rfl, rfl⟩ := hm
    obtain ⟨hr, rfl⟩ := ih (fun c hc => hs c (by simp [hc])) rfl h
    refine ⟨.digit hd hr, ?_⟩
    rw [digitCount_cons (ne_underscore hd)]
    omega
  | case5 => simp at h
  | case6 =>
    obtain rfl := List.map_eq_nil_iff.1 hm
    simp only [Option.some.injEq, Prod.mk.injEq] at h
    obtain ⟨rfl, rfl, -⟩ := h
    exact ⟨.done _, rfl⟩

theorem plainChar_ne_underscore {d : Nat} (h : digitOf? base c = some d) : plainChar c ≠ '_' := by
  intro hc
  have hvalue : digitValue? '_' = none := by decide
  rw [digitOf?, hc, digitIn?, hvalue] at h
  cases h

/-- Digits are read to their end. -/
theorem Digits.moreDigits (h : Digits base v s w) (k : Nat) :
    moreDigits base v k (s.map plainChar) = some (w, k + digitCount s, []) := by
  induction h generalizing k with
  | done v => rfl
  | @digit v w d c r hc hr ih =>
    have hne := plainChar_ne_underscore hc
    rw [List.map_cons, Text.moreDigits.eq_3 base v k _ _ (by simp [hne]) (by simp [hne])]
    rw [digitOf?] at hc
    simp only [hc, ih]
    rw [digitCount_cons (ne_underscore hc)]
    congr 3
    omega
  | @underscore v w d c r hc hr ih =>
    have hunder : plainChar '_' = '_' := by decide
    rw [List.map_cons, List.map_cons, hunder, Text.moreDigits]
    have hc' := hc
    rw [digitOf?] at hc'
    simp only [hc', ih]
    rw [digitCount_underscore, digitCount_cons (ne_underscore hc)]
    congr 3
    omega

/-- What reading digits leaves is the end of the text. -/
theorem moreDigits_suffix {k' : Nat} {rest : List Char}
    (h : moreDigits base v k s = some (w, k', rest)) : rest <:+ s := by
  fun_induction moreDigits base v k s with
  | case1 v k c r d hd ih =>
    exact (ih h).trans ((List.suffix_cons c r).trans (List.suffix_cons '_' _))
  | case2 | case3 => cases h
  | case4 v k c r _ _ d hd ih => exact (ih h).trans (List.suffix_cons c r)
  | case5 v k c r _ _ hd =>
    simp only [Option.some.injEq, Prod.mk.injEq] at h
    exact h.2.2 ▸ List.suffix_refl _
  | case6 =>
    simp only [Option.some.injEq, Prod.mk.injEq] at h
    exact h.2.2 ▸ List.suffix_refl _

/-- Digits that nothing but blanks may follow, in a text without blanks. -/
theorem digitsOf_eq_some_iff (hs : ∀ c ∈ s, isBlank c = false) :
    (∃ rest, digitsOf base (s.map plainChar) = some (w, k, rest) ∧ rest.all isPlainBlank = true) ↔
      Spelled base s w ∧ k = digitCount s := by
  constructor
  · rintro ⟨rest, h, hrest⟩
    cases s with
    | nil => cases h
    | cons c r =>
      obtain ⟨d, hd, hmore⟩ := Option.bind_eq_some_iff.1 h
      have hblanks : ∀ x ∈ (c :: r).map plainChar, isPlainBlank x = false := by
        intro x hx
        obtain ⟨y, hy, rfl⟩ := List.mem_map.1 hx
        exact isPlainBlank_plainChar (hs y hy)
      obtain rfl : rest = [] := by
        refine List.eq_nil_iff_forall_not_mem.2 fun x hx => ?_
        have hmem : x ∈ (c :: r).map plainChar :=
          List.mem_cons_of_mem _ ((moreDigits_suffix hmore).subset hx)
        have hblank := hblanks x hmem
        rw [List.all_eq_true.1 hrest x hx] at hblank
        cases hblank
      obtain ⟨hdigits, rfl⟩ := Digits.of_moreDigits (fun c hc => hs c (by simp [hc])) hmore
      refine ⟨.mk hd hdigits, ?_⟩
      rw [digitCount_cons (ne_underscore hd)]
      omega
  · rintro ⟨@⟨d, w, c, r, hc, hr⟩, rfl⟩
    refine ⟨[], ?_, rfl⟩
    have hc' := hc
    rw [digitOf?] at hc'
    simp only [List.map_cons, digitsOf, hc', Option.bind_some, hr.moreDigits]
    rw [digitCount_cons (ne_underscore hc)]
    congr 3
    omega

/-! Reading numerals. -/

/-- A word does not begin with a blank, also when it was brought into ASCII. -/
theorem dropWhile_plainChar (hs : ∀ c ∈ s, isBlank c = false) :
    (s.map plainChar).dropWhile isPlainBlank = s.map plainChar := by
  cases s with
  | nil => rfl
  | cons c r =>
    have hc : isPlainBlank (plainChar c) = false := isPlainBlank_plainChar (hs c (by simp))
    rw [List.map_cons, List.dropWhile_cons_of_neg (by simp [hc])]

/-- What is left of a numeral when its sign and its mark are taken away. -/
theorem parseInt_eq_ok_iff {b : Base} {text : String} {minus : Bool} {i : Int}
    (htext : ∀ c ∈ text.toList, isBlank c = false) (hs : ∀ c ∈ s, isBlank c = false)
    (hsign : splitSign (text.toList.map plainChar) = (minus, r))
    (hmark : splitMark b r = (base, true, s.map plainChar)) :
    parseInt b text = .ok i ↔
      ∃ n : Nat, Spelled base s n ∧ (base = 10 → digitCount s ≤ maxDigits) ∧
        i = if minus then -(n : Int) else n := by
  unfold parseInt
  simp only [dropWhile_plainChar htext, hsign, hmark]
  constructor
  · intro h
    cases hd : digitsOf base (s.map plainChar) with
    | none => rw [hd] at h; cases h
    | some found =>
      obtain ⟨w, k, rest⟩ := found
      rw [hd] at h
      simp only [Bool.not_true, Bool.false_and, Bool.false_or] at h
      split_ifs at h with hlong hrest hminus
      all_goals
        cases h
        have hrest' : rest.all isPlainBlank = true := by simpa using hrest
        obtain ⟨hspelled, rfl⟩ := (digitsOf_eq_some_iff hs).1 ⟨rest, hd, hrest'⟩
        refine ⟨w, hspelled, fun hten => ?_, by simp [hminus]⟩
        simp only [hten, beq_self_eq_true, Bool.true_and, decide_eq_true_eq, not_lt] at hlong
        exact hlong
  · rintro ⟨n, hspelled, hcount, rfl⟩
    obtain ⟨rest, hd, hrest⟩ := (digitsOf_eq_some_iff hs).2 ⟨hspelled, rfl⟩
    have hlong : (base == 10 && decide (digitCount s > maxDigits)) = false := by
      by_cases hten : base = 10
      · simp [hten, hcount hten]
      · simp [hten]
    rw [hd]
    simp [hlong, hrest]

/-- A decimal numeral has no mark. -/
theorem splitMark_ten (s : List Char) : splitMark .ten s = (10, true, s) := by
  have hmark : ∀ m, (markedBase? m).filter Base.ten.takesMark = none := by
    intro m
    rw [Option.filter_eq_none_iff]
    intro base _
    simp [Base.takesMark]
  rcases s with _ | ⟨c, _ | ⟨m, r⟩⟩
  · rfl
  · simp [splitMark]
  · by_cases hc : c = '0'
    · simp [splitMark, hc, hmark]
    · simp [splitMark, hc]

/-- A decimal numeral with or without a sign. -/
theorem parseInt_ten_eq_ok_iff (hs : ∀ c ∈ s, isBlank c = false) {i : Int} :
    parseInt .ten (String.ofList s) = .ok i ↔
      (∃ n : Nat, Decimal s n ∧ i = n) ∨
      (∃ (r : List Char) (n : Nat), s = '+' :: r ∧ Decimal r n ∧ i = n) ∨
      ∃ (r : List Char) (n : Nat), s = '-' :: r ∧ Decimal r n ∧ i = -(n : Int) := by
  have hno : ∀ c r n, c = '+' ∨ c = '-' → ¬ Decimal (c :: r) n := by
    rintro c r n hc ⟨⟨hdigit, -⟩, -⟩
    have hnone : digitOf? 10 c = none := by rcases hc with rfl | rfl <;> decide
    rw [hnone] at hdigit
    cases hdigit
  have hread : ∀ {minus : Bool} {ds : List Char}, (∀ c ∈ ds, isBlank c = false) →
      splitSign (s.map plainChar) = (minus, ds.map plainChar) →
      (parseInt .ten (String.ofList s) = .ok i ↔
        ∃ n : Nat, Decimal ds n ∧ i = if minus then -(n : Int) else n) := by
    intro minus ds hds hsign
    rw [parseInt_eq_ok_iff (by simpa using hs) hds (by simpa using hsign) (splitMark_ten _)]
    simp [Decimal, and_assoc]
  have hplain : ∀ x : Char, x = '+' ∨ x = '-' → plainChar x = x := by
    rintro x (rfl | rfl) <;> decide
  cases s with
  | nil =>
    rw [hread (by simp) rfl]
    simp
  | cons c r =>
    have hr : ∀ x ∈ r, isBlank x = false := fun x hx => hs x (by simp [hx])
    by_cases hplus : c = '+'
    · subst hplus
      rw [hread hr (by rw [List.map_cons, hplain _ (.inl rfl)]; rfl)]
      simp [hno]
    by_cases hminus : c = '-'
    · subst hminus
      rw [hread hr (by rw [List.map_cons, hplain _ (.inr rfl)]; rfl)]
      simp [hno]
    have hc : isBlank c = false := hs c (by simp)
    have h₁ : plainChar c ≠ '+' := (plainChar_eq_iff (by decide) (by decide) hc).not.2 hplus
    have h₂ : plainChar c ≠ '-' := (plainChar_eq_iff (by decide) (by decide) hc).not.2 hminus
    have hsign : splitSign ((c :: r).map plainChar) = (false, (c :: r).map plainChar) := by
      simp [splitSign, h₁, h₂]
    rw [hread hs hsign]
    simp [hplus, hminus]

/-- A hexadecimal numeral with its mark. -/
theorem parseInt_sixteen_eq_ok_iff {x : Char} (hx : x = 'x' ∨ x = 'X')
    (hs : ∀ c ∈ s, isBlank c = false) {i : Int} :
    parseInt .sixteen (String.ofList ('0' :: x :: s)) = .ok i ↔
      ∃ n : Nat, i = n ∧ (Spelled 16 s n ∨ ∃ r, s = '_' :: r ∧ Spelled 16 r n) := by
  have htext : ∀ c ∈ (String.ofList ('0' :: x :: s)).toList, isBlank c = false := by
    have h0 : isBlank '0' = false := by decide
    have hx0 : isBlank x = false := by rcases hx with rfl | rfl <;> decide
    simpa [h0, hx0] using hs
  have hplain : plainChar x = x := by rcases hx with rfl | rfl <;> decide
  have hsign : splitSign ((String.ofList ('0' :: x :: s)).toList.map plainChar) =
      (false, '0' :: x :: s.map plainChar) := by
    have hzero : plainChar '0' = '0' := by decide
    simp [hzero, hplain, splitSign]
  have hmarked : (markedBase? x).filter Base.sixteen.takesMark = some 16 := by
    rcases hx with rfl | rfl <;> decide
  have hgap : ∀ r n, ¬ Spelled 16 ('_' :: r) n := by
    rintro r n ⟨hc, -⟩
    rw [digitOf?_underscore] at hc
    cases hc
  by_cases hunder : ∃ r, s = '_' :: r
  · obtain ⟨r, rfl⟩ := hunder
    have hplain' : plainChar '_' = '_' := by decide
    have hmark : splitMark .sixteen ('0' :: x :: ('_' :: r).map plainChar) =
        (16, true, r.map plainChar) := by simp [splitMark, hmarked, hplain']
    rw [parseInt_eq_ok_iff htext (fun c hc => hs c (by simp [hc])) hsign hmark]
    simp [hgap, and_comm]
  · have hmark :
        splitMark .sixteen ('0' :: x :: s.map plainChar) = (16, true, s.map plainChar) := by
      cases s with
      | nil => simp [splitMark, hmarked]
      | cons c r =>
        have hc : plainChar c ≠ '_' := by
          rw [Ne, plainChar_eq_iff (by decide) (by decide) (hs c (by simp))]
          rintro rfl
          exact hunder ⟨r, rfl⟩
        simp [splitMark, hmarked, hc]
    rw [parseInt_eq_ok_iff htext hs hsign hmark]
    have hnone : ∀ n, ¬ ∃ r, s = '_' :: r ∧ Spelled 16 r n := by
      rintro n ⟨r, hr, -⟩
      exact hunder ⟨r, hr⟩
    simp [hnone, and_comm]

/-! Writing numerals. -/

theorem Digits.append {t : List Char} {u : Nat} (h : Digits base v s w) (ht : Digits base w t u) :
    Digits base v (s ++ t) u := by
  induction h with
  | done => exact ht
  | digit hc _ ih => exact .digit hc (ih ht)
  | underscore hc _ ih => exact .underscore hc (ih ht)

theorem Spelled.append {t : List Char} {u : Nat} (h : Spelled base s w) (ht : Digits base w t u) :
    Spelled base (s ++ t) u := by
  obtain ⟨hc, hr⟩ := h
  exact .mk hc (hr.append ht)

theorem digitOf?_digitChar (hbase : base = 10 ∨ base = 16) {d : Nat} (h : d < base) :
    digitOf? base (Nat.digitChar d) = some d := by
  rcases hbase with rfl | rfl <;> (revert d; decide)

/-- A number written in a base is spelled by its digits. -/
theorem spelled_toDigits (hbase : base = 10 ∨ base = 16) (n : Nat) :
    Spelled base (Nat.toDigits base n) n := by
  have hpos : 1 < base := by omega
  induction n using Nat.strongRecOn with
  | ind n ih =>
    rw [Nat.toDigits_eq_if hpos]
    split
    next h => exact .mk (digitOf?_digitChar hbase h) (.done n)
    next h =>
      have hmod : n % base < base := Nat.mod_lt n (by omega)
      refine (ih (n / base) (Nat.div_lt_self (by omega) hpos)).append ?_
      refine .digit (digitOf?_digitChar hbase hmod) ?_
      rw [Nat.mul_comm, Nat.div_add_mod]
      exact .done n

theorem digitOf?_zero (hbase : base = 10 ∨ base = 16) : digitOf? base '0' = some 0 := by
  rcases hbase with rfl | rfl <;> decide

theorem Spelled.digits (h : Spelled base s n) : Digits base 0 s n := by
  obtain ⟨hc, hr⟩ := h
  refine .digit hc ?_
  rwa [Nat.zero_mul, Nat.zero_add]

/-- Zeros before the first digit change nothing. -/
theorem Spelled.zeros (hbase : base = 10 ∨ base = 16) (h : Spelled base s n) (k : Nat) :
    Spelled base (List.replicate k '0' ++ s) n := by
  induction k with
  | zero => exact h
  | succ k ih => exact .mk (digitOf?_zero hbase) ih.digits

theorem spelled_hexDigits (width n : Nat) : Spelled 16 (hexDigits width n) n :=
  (spelled_toDigits (.inr rfl) n).zeros (.inr rfl) _

theorem digitCount_le (s : List Char) : digitCount s ≤ s.length := List.countP_le_length

theorem toList_decimal (n : Nat) : (decimal n).toList = Nat.toDigits 10 n := by
  have hrepr : decimal (n : Int) = Nat.repr n := rfl
  rw [hrepr, Nat.repr, String.toList_ofList]

/-- A word has few digits. -/
theorem length_toDigits_le {n : Nat} (h : n < 2 ^ 256) :
    (Nat.toDigits 10 n).length ≤ maxDigits := by
  have hmax : 2 ^ 256 ≤ 10 ^ maxDigits :=
    Nat.pow_le_pow_left (by decide) 256 |>.trans (Nat.pow_le_pow_right (by decide) (by decide))
  exact (Nat.length_toDigits_le_iff (by decide) (by decide)).2 (h.trans_le hmax)

/-- A word in decimal. -/
theorem numeral_decimal {i : Int} (h₀ : 0 ≤ i) (h₁ : i < 2 ^ 256) :
    Numeral (decimal i).toList i := by
  lift i to Nat using h₀
  rw [toList_decimal]
  refine .plain ⟨spelled_toDigits (.inl rfl) i, (digitCount_le _).trans ?_⟩
  exact length_toDigits_le (by omega)

end Gasometer.Text

namespace Gasometer.Assembly
open Text (isBlank Numeral)

variable {s : List Char} {i : Int}

theorem number_eq_ok_iff {base : Text.Base} {text : String} :
    number base text = .ok i ↔ Text.parseInt base text = .ok i := by
  unfold number
  cases Text.parseInt base text <;> simp [Except.mapError]

/-- A literal is read as the numeral that it is. -/
theorem number_literal_eq_ok_iff (hs : ∀ c ∈ s, isBlank c = false) :
    number (if isHexLiteral (String.ofList s) then .sixteen else .ten) (String.ofList s) = .ok i ↔
      Numeral s i := by
  rw [number_eq_ok_iff]
  by_cases hhex : ∃ x r, s = '0' :: x :: r ∧ (x = 'x' ∨ x = 'X')
  · obtain ⟨x, r, rfl, hx⟩ := hhex
    have hlit : isHexLiteral (String.ofList ('0' :: x :: r)) = true := by
      simpa [isHexLiteral] using hx
    rw [hlit, if_pos rfl, Text.parseInt_sixteen_eq_ok_iff hx fun c hc => hs c (by simp [hc])]
    constructor
    · rintro ⟨n, rfl, h | ⟨r, rfl, h⟩⟩
      · exact .hex hx h
      · exact .hexGap hx h
    · intro h
      have hno : Text.digitOf? 10 x = none := by rcases hx with rfl | rfl <;> decide
      cases h with
      | plain h =>
        -- The mark is no decimal digit.
        obtain ⟨⟨hc, hr⟩, -⟩ := h
        cases hr with
        | digit hx' => rw [hno] at hx'; cases hx'
        | underscore => simp at hx
      | hex hx' h => exact ⟨_, rfl, .inl h⟩
      | hexGap hx' h => exact ⟨_, rfl, .inr ⟨_, rfl, h⟩⟩
  · have hlit : isHexLiteral (String.ofList s) = false := by
      rcases s with _ | ⟨c, _ | ⟨x, r⟩⟩
      · rfl
      · by_cases hc : c = '0' <;> simp [isHexLiteral, hc]
      · by_cases hc : c = '0'
        · subst hc
          simpa [isHexLiteral] using fun hx => hhex ⟨x, r, rfl, hx⟩
        · simp [isHexLiteral, hc]
    rw [hlit, if_neg (by simp), Text.parseInt_ten_eq_ok_iff hs]
    constructor
    · rintro (⟨n, h, rfl⟩ | ⟨r, n, rfl, h, rfl⟩ | ⟨r, n, rfl, h, rfl⟩)
      · exact .plain h
      · exact .plus h
      · exact .minus h
    · intro h
      cases h with
      | plain h => exact .inl ⟨_, h, rfl⟩
      | plus h => exact .inr (.inl ⟨_, _, rfl, h, rfl⟩)
      | minus h => exact .inr (.inr ⟨_, _, rfl, h, rfl⟩)
      | hex hx h => exact absurd ⟨_, _, rfl, hx⟩ hhex
      | hexGap hx h => exact absurd ⟨_, _, rfl, hx⟩ hhex

/-- The value of a literal must be a word. -/
theorem literalValue_eq_ok_iff {text : String} :
    literalValue text = .ok i ↔
      number (if isHexLiteral text then .sixteen else .ten) text = .ok i ∧
        0 ≤ i ∧ i < 2 ^ (256 : Nat) := by
  unfold literalValue
  cases number _ text with
  | error e => simp [bind, Except.bind]
  | ok j =>
    by_cases hj : j < 0 ∨ 2 ^ (256 : Nat) ≤ j
    · simp only [bind, Except.bind, if_pos hj, throw, throwThe, MonadExceptOf.throw, reduceCtorEq,
        Except.ok.injEq, false_iff]
      rintro ⟨rfl, h₀, h₁⟩
      omega
    · simp only [bind, Except.bind, if_neg hj, pure, Except.pure, Except.ok.injEq]
      constructor
      · rintro rfl
        exact ⟨rfl, by omega, by omega⟩
      · exact fun h => h.1

/-- The width of a push is a decimal numeral without a sign. -/
theorem number_width_eq_ok_iff (hs : s.all Char.isDigit = true) :
    number .ten (String.ofList s) = .ok i ↔ ∃ n : Nat, Text.Decimal s n ∧ i = n := by
  have hdigit : ∀ c ∈ s, c.isDigit = true := List.all_eq_true.1 hs
  have hblank : ∀ c ∈ s, isBlank c = false := by
    intro c hc
    have hrange := hdigit c hc
    simp only [Char.isDigit, Bool.and_eq_true, decide_eq_true_eq, ge_iff_le] at hrange
    have h₁ : 48 ≤ c.toNat := hrange.1
    have h₂ : c.toNat ≤ 57 := hrange.2
    simp [isBlank]
    omega
  have hsign : ∀ c r, c = '+' ∨ c = '-' → s ≠ c :: r := by
    rintro c r hc rfl
    have hfalse : c.isDigit = false := by rcases hc with rfl | rfl <;> decide
    have htrue := hdigit c (by simp)
    rw [hfalse] at htrue
    cases htrue
  rw [number_eq_ok_iff, Text.parseInt_ten_eq_ok_iff hblank]
  constructor
  · rintro (h | ⟨r, n, h, -⟩ | ⟨r, n, h, -⟩)
    · exact h
    · exact absurd h (hsign '+' r (.inl rfl))
    · exact absurd h (hsign '-' r (.inr rfl))
  · exact .inl

end Gasometer.Assembly
