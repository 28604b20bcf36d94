import Gasometer.Proofs.Addresses
import Gasometer.Proofs.HexNumbers
import Mathlib.Data.Bool.AllAny

/-!
# Forms of an address

An address is given as a number, as bytes or as a hexadecimal text. Each form has a value, and its
address depends on that value modulo `2 ^ 160` alone: it is `0x` and forty small digits, which
spell the value and are read back from the number and from the bytes of the address. An address
that was brought into this form is not changed by bringing it into the form once more.
-/
namespace Gasometer.Address
open Bytes (IsHexDigit)
open Text (HexMark hexDigits hexNumber smallHexDigits)

variable {a : Address} {ds mark : List Char} {m n : Int}

inductive Form
  | number (n : Int)
  | bytes (bs : Bytes)
  | text (s : String)

def Form.normalise : Form → Except Fault Address
  | number n => .ok (ofInt n)
  | bytes bs => .ok (ofBytes bs)
  | text s => ofText s

/-- Whether a form has this value. A text has one if it is a hexadecimal text of at most forty
digits, marked or not. -/
inductive Form.HasValue : Form → Int → Prop
  | number (n : Int) : HasValue (.number n) n
  | bytes (bs : Bytes) : HasValue (.bytes bs) bs.toNat
  | text {mark ds : List Char} (hm : HexMark mark) (hd : ∀ c ∈ ds, IsHexDigit c)
      (hlen : ds.length ≤ 40) : HasValue (.text (String.ofList (mark ++ ds))) (hexNumber ds)

/-- Whether an address is `0x` and forty small digits. -/
def IsNormalised (a : Address) : Prop :=
  ∃ ds, ds.length = 40 ∧ (∀ c ∈ ds, c ∈ smallHexDigits) ∧
    a.text = String.ofList ('0' :: 'x' :: ds)

/-! ## Addresses of numbers -/

theorem residue_nonneg (n : Int) : 0 ≤ n % 2 ^ 160 := Int.emod_nonneg n (by decide)

theorem residue_lt (n : Int) : (n % 2 ^ 160).toNat < 16 ^ 40 := by
  have := Int.emod_lt_of_pos n (show (0 : Int) < 2 ^ 160 by decide)
  omega

theorem ofInt_emod (n : Int) : ofInt (n % 2 ^ 160) = ofInt n := by
  simp [ofInt]

theorem isNormalised_ofInt (n : Int) : (ofInt n).IsNormalised :=
  ⟨_, Text.length_hexDigits (by decide) (residue_lt n), Text.mem_smallHexDigits_hexDigits 40 _, rfl⟩

/-- Small digits are the address of their number. -/
theorem ofInt_hexNumber (hlen : ds.length = 40) (hd : ∀ c ∈ ds, c ∈ smallHexDigits) :
    ofInt (hexNumber ds) = ⟨String.ofList ('0' :: 'x' :: ds)⟩ := by
  have hne : ds ≠ [] := by
    rintro rfl
    simp at hlen
  have hlt : hexNumber ds < 16 ^ 40 := hlen ▸ Text.hexNumber_lt ds
  have hresidue : ((hexNumber ds : Int) % 2 ^ 160).toNat = hexNumber ds := by omega
  have hdigits := Text.hexDigits_hexNumber hne hd
  rw [hlen] at hdigits
  unfold ofInt
  rw [hresidue, hdigits]

theorem normal_iff_isNormalised : a.Normal ↔ a.IsNormalised := by
  constructor
  · rintro ⟨n, rfl⟩
    exact isNormalised_ofInt n
  · rintro ⟨ds, hlen, hd, htext⟩
    refine ⟨hexNumber ds, ?_⟩
    rw [ofInt_hexNumber hlen hd, ← htext]

/-- The number of an address is that which it was made from, modulo `2 ^ 160`. -/
theorem toInt_ofInt (n : Int) : (ofInt n).toInt = .ok (n % 2 ^ 160) := by
  have hblank : ∀ c ∈ hexDigits 40 (n % 2 ^ 160).toNat, Text.isBlank c = false :=
    Text.forall_mem_hexDigits (by decide) 40 _
  refine (Text.parseInt_sixteen_eq_ok_iff (.inl rfl) hblank).2 ⟨(n % 2 ^ 160).toNat, ?_, .inl ?_⟩
  · exact (Int.toNat_of_nonneg (residue_nonneg n)).symm
  · exact Text.spelled_hexDigits 40 _

theorem ofInt_eq_ofInt_iff : ofInt m = ofInt n ↔ m % 2 ^ 160 = n % 2 ^ 160 := by
  constructor
  · intro h
    have hm := toInt_ofInt m
    rw [h, toInt_ofInt] at hm
    exact (Except.ok.inj hm).symm
  · intro h
    rw [← ofInt_emod m, h, ofInt_emod]

/-! ## Addresses of bytes -/

theorem ofBytes_eq (bs : Bytes) : ofBytes bs = ofInt bs.toNat := by
  have hlast : (bs.slice (-20) bs.size).toNat = bs.toNat % 256 ^ 20 :=
    Bytes.toNat_slice_neg (w := 20) (by decide) bs
  have hpow : ((bs.toNat % 256 ^ 20 : Nat) : Int) = (bs.toNat : Int) % 2 ^ 160 := by omega
  rw [ofBytes, hlast, hpow, ofInt_emod]

/-- The bytes of an address are those of the number that it was made from. -/
theorem toBytes_ofInt (n : Int) :
    (ofInt n).toBytes = .ok (Bytes.ofNat 20 (n % 2 ^ 160).toNat) := by
  have hlt : (n % 2 ^ 160).toNat < 256 ^ 20 := by
    have := residue_lt n
    omega
  have htext : (ofInt n).text.toList.drop 2 = hexDigits (2 * 20) (n % 2 ^ 160).toNat := by
    rw [ofInt, String.toList_ofList]
    rfl
  rw [toBytes, htext, Bytes.ofHexChars_hexDigits (by decide) hlt]

theorem ofBytes_ofNat (n : Int) : ofBytes (Bytes.ofNat 20 (n % 2 ^ 160).toNat) = ofInt n := by
  have hlt := residue_lt n
  have hvalue := Int.toNat_of_nonneg (residue_nonneg n)
  rw [ofBytes_eq, Bytes.toNat_ofNat, Nat.mod_eq_of_lt (by omega), hvalue, ofInt_emod]

/-! ## Addresses of texts -/

/-- A text without the mark that it may begin with. -/
def unmark : List Char → List Char
  | '0' :: 'x' :: r => r
  | s => s

theorem ofText_eq (text : String) :
    ofText text =
      if (unmark (Text.lower text.toList)).length > 40 then .error (.addressLength text)
      else .ok ⟨String.ofList ('0' :: 'x' ::
        (List.replicate (40 - (unmark (Text.lower text.toList)).length) '0' ++
          unmark (Text.lower text.toList)))⟩ := rfl

theorem unmark_of_small (hd : ∀ c ∈ ds, c ∈ smallHexDigits) : unmark ds = ds := by
  unfold unmark
  split
  · exact absurd (hd 'x' (by simp)) (by decide)
  · rfl

/-- Without its mark and in small letters a text has the same digits. -/
theorem unmark_lower (hm : HexMark mark) (hd : ∀ c ∈ ds, IsHexDigit c) :
    unmark (Text.lower (mark ++ ds)) = ds.map Char.toLower := by
  have hds : ∀ done, Text.lowerFrom done ds = ds.map Char.toLower := fun done =>
    Text.lowerFrom_of_isHexDigit hd
  have hchars : Text.lowerChar '0' = ['0'] ∧ Text.lowerChar 'x' = ['x'] ∧
      Text.lowerChar 'X' = ['x'] := by decide
  obtain ⟨hzero, hsmall, hcapital⟩ := hchars
  rcases hm with rfl | rfl | rfl
  · rw [List.nil_append, Text.lower, hds]
    apply unmark_of_small
    intro d hd'
    obtain ⟨c, hc, rfl⟩ := List.mem_map.1 hd'
    exact (Text.lowerChar_of_isHexDigit (hd c hc)).2.1
  · simp [Text.lower, Text.lowerFrom, hzero, hsmall, hds, unmark]
  · simp [Text.lower, Text.lowerFrom, hzero, hcapital, hds, unmark]

/-- A hexadecimal text is brought into the form that its number has. -/
theorem ofText_hex (hm : HexMark mark) (hd : ∀ c ∈ ds, IsHexDigit c) (hlen : ds.length ≤ 40) :
    ofText (String.ofList (mark ++ ds)) = .ok (ofInt (hexNumber ds)) := by
  have hsmall : ∀ c ∈ List.replicate (40 - ds.length) '0' ++ ds.map Char.toLower,
      c ∈ smallHexDigits := by
    intro c hc
    rcases List.mem_append.1 hc with hc | hc
    · rw [List.eq_of_mem_replicate hc]
      decide
    · obtain ⟨x, hx, rfl⟩ := List.mem_map.1 hc
      exact (Text.lowerChar_of_isHexDigit (hd x hx)).2.1
  have hnumber : hexNumber (List.replicate (40 - ds.length) '0' ++ ds.map Char.toLower) =
      hexNumber ds := by
    rw [Text.hexNumber_zeros, Text.hexNumber_toLower hd]
  have hwhole := ofInt_hexNumber (by simp; omega) hsmall
  rw [ofText_eq, String.toList_ofList, unmark_lower hm hd, List.length_map, if_neg (by omega),
    ← hwhole, hnumber]

theorem mem_of_mem_unmark {s : List Char} {c : Char} (h : c ∈ unmark s) : c ∈ s := by
  unfold unmark at h
  split at h
  · simp [h]
  · exact h

/-- Forty characters in small letters after a mark are kept. -/
theorem ofText_of_isSmall (hlen : ds.length = 40) (hs : ∀ c ∈ ds, Text.IsSmall c) :
    ofText (String.ofList ('0' :: 'x' :: ds)) = .ok ⟨String.ofList ('0' :: 'x' :: ds)⟩ := by
  have hmark : Text.IsSmall '0' ∧ Text.IsSmall 'x' := by decide
  have hlower : Text.lower ('0' :: 'x' :: ds) = '0' :: 'x' :: ds := by
    apply Text.lowerFrom_of_isSmall
    simpa [hmark] using hs
  rw [ofText_eq, String.toList_ofList, hlower]
  simp [unmark, hlen]

/-- A text that was brought into the normal form is not changed when this is done once more. -/
theorem ofText_text {text : String} (h : ofText text = .ok a) : ofText a.text = .ok a := by
  rw [ofText_eq] at h
  split_ifs at h with hlong
  cases h
  apply ofText_of_isSmall
  · simp
    omega
  · intro c hc
    rcases List.mem_append.1 hc with hc | hc
    · rw [List.eq_of_mem_replicate hc]
      decide
    · exact Text.isSmall_of_mem_lowerFrom (mem_of_mem_unmark hc)

/-! ## All forms -/

/-- A form is brought into the address of its value. -/
theorem Form.HasValue.normalise {f : Form} (h : f.HasValue n) : f.normalise = .ok (ofInt n) := by
  cases h with
  | number => rfl
  | bytes bs => exact congrArg Except.ok (ofBytes_eq bs)
  | text hm hd hlen => exact ofText_hex hm hd hlen

theorem normalise_text_ofInt (n : Int) : (Form.text (ofInt n).text).normalise = .ok (ofInt n) := by
  have hlen := Text.length_hexDigits (by decide) (residue_lt n)
  have hkept := ofText_of_isSmall hlen (Text.forall_mem_hexDigits (by decide) 40 _)
  exact hkept

theorem normalise_text {f : Form} (h : f.normalise = .ok a) :
    (Form.text a.text).normalise = .ok a := by
  cases f with
  | number n =>
    cases h
    exact normalise_text_ofInt n
  | bytes bs =>
    cases h
    rw [ofBytes_eq]
    exact normalise_text_ofInt bs.toNat
  | text s => exact ofText_text h

/-- Forms whose values agree modulo `2 ^ 160` are brought into the same address, and no others are:
`0x` and forty small digits. The number and the bytes of such an address give it back, the number
being the value that the forms agree on. A second pass changes nothing, whatever the text. -/
theorem forms_agree :
    (∀ (f : Form) (n : Int), f.HasValue n →
      ∃ a, f.normalise = .ok a ∧ a.IsNormalised ∧ a.toInt = .ok (n % 2 ^ 160) ∧
        ∀ (g : Form) (m : Int), g.HasValue m →
          (g.normalise = .ok a ↔ m % 2 ^ 160 = n % 2 ^ 160)) ∧
    (∀ a : Address, a.IsNormalised →
      ∃ n bs, a.toInt = .ok n ∧ ofInt n = a ∧ a.toBytes = .ok bs ∧ ofBytes bs = a) ∧
    ∀ (f : Form) (a : Address), f.normalise = .ok a → (Form.text a.text).normalise = .ok a := by
  refine ⟨?agree, ?invert, fun f a => normalise_text⟩
  case agree =>
    intro f n hf
    refine ⟨ofInt n, hf.normalise, isNormalised_ofInt n, toInt_ofInt n, ?_⟩
    intro g m hg
    rw [hg.normalise, Except.ok.injEq]
    exact ofInt_eq_ofInt_iff
  case invert =>
    intro a ha
    obtain ⟨n, rfl⟩ := normal_iff_isNormalised.2 ha
    exact ⟨_, _, toInt_ofInt n, ofInt_emod n, toBytes_ofInt n, ofBytes_ofNat n⟩

theorem forms_agree_abc :
    let a : Address := ⟨"0x0000000000000000000000000000000000000abc"⟩
    let bs : Bytes := #[1] ++ Array.replicate 18 0 ++ #[0x0a, 0xbc]
    (Form.text "0XaBc").HasValue 0xabc ∧ (Form.bytes bs).HasValue (2 ^ 160 + 0xabc) ∧
      (Form.number (0xabc - 2 ^ 160)).HasValue (0xabc - 2 ^ 160) ∧ a.IsNormalised ∧
      (Form.text "0XaBc").normalise = .ok a ∧ (Form.bytes bs).normalise = .ok a ∧
      (Form.number (0xabc - 2 ^ 160)).normalise = .ok a ∧ a.toInt = .ok 0xabc ∧
      (∃ bs', a.toBytes = .ok bs' ∧ ofBytes bs' = a) ∧ (Form.text a.text).normalise = .ok a := by
  intro a bs
  have htext : (Form.text "0XaBc").HasValue 0xabc :=
    @Form.HasValue.text ['0', 'X'] ['a', 'B', 'c'] (.inr (.inr rfl))
      (List.all_iff_forall_prop.1 (by decide)) (by decide)
  have hvalue : (bs.toNat : Int) = 2 ^ 160 + 0xabc := by decide
  have hbytes : (Form.bytes bs).HasValue (2 ^ 160 + 0xabc) := hvalue ▸ .bytes bs
  have hnormal : a.IsNormalised :=
    ⟨"0000000000000000000000000000000000000abc".toList, by decide,
      List.all_iff_forall_prop.1 (by decide), rfl⟩
  have ha : (Form.text "0XaBc").normalise = .ok a := by decide
  obtain ⟨hagree, hinvert, hagain⟩ := forms_agree
  obtain ⟨a', ha', -, hint, hforms⟩ := hagree _ _ htext
  obtain rfl : a = a' := Except.ok.inj (ha.symm.trans ha')
  obtain ⟨-, bs', -, -, hread, hback⟩ := hinvert a hnormal
  exact ⟨htext, hbytes, .number _, hnormal, ha, (hforms _ _ hbytes).2 (by decide),
    (hforms _ _ (.number _)).2 (by decide), hint, ⟨bs', hread, hback⟩, hagain _ a ha⟩

end Gasometer.Address
