import Gasometer.Proofs.Disassembly
import Gasometer.Proofs.LetterCase
import Mathlib.Data.List.Induction
import Mathlib.Tactic.Ring

/-!
# Numbers in hexadecimal digits

Hexadecimal digits spell a number, whatever their case and however many zeros stand before them. Of
the texts of one length in small digits each is what its number is written as. The text of a byte
string spells the number of its bytes, and the last bytes of a string are its number modulo a power.
-/
namespace Gasometer

namespace Text
open Bytes (IsHexDigit hexValue?)

variable {c : Char} {ds : List Char} {w : Nat}

/-- The number that hexadecimal digits spell, most significant first. -/
def hexNumber (ds : List Char) : Nat := ds.foldl (fun n c => n * 16 + (hexValue? c).getD 0) 0

@[simp] theorem hexNumber_nil : hexNumber [] = 0 := rfl

theorem hexNumber_concat (ds : List Char) (c : Char) :
    hexNumber (ds ++ [c]) = hexNumber ds * 16 + (hexValue? c).getD 0 := by
  simp [hexNumber]

theorem hexNumber_append (ds es : List Char) :
    hexNumber (ds ++ es) = hexNumber ds * 16 ^ es.length + hexNumber es := by
  induction es using List.reverseRecOn with
  | nil => simp
  | append_singleton es c ih =>
    rw [← List.append_assoc, hexNumber_concat, ih, hexNumber_concat, List.length_append,
      List.length_singleton]
    ring

theorem hexValue?_getD_lt (c : Char) : (hexValue? c).getD 0 < 16 := by
  unfold hexValue?
  simp only [Bool.and_eq_true, decide_eq_true_eq]
  split_ifs <;> simp <;> omega

theorem hexNumber_lt (ds : List Char) : hexNumber ds < 16 ^ ds.length := by
  induction ds using List.reverseRecOn with
  | nil => simp
  | append_singleton ds c ih =>
    have hc := hexValue?_getD_lt c
    rw [hexNumber_concat, List.length_append, List.length_singleton, Nat.pow_succ]
    omega

/-- Zeros before the digits change nothing. -/
theorem hexNumber_zeros (k : Nat) (ds : List Char) :
    hexNumber (List.replicate k '0' ++ ds) = hexNumber ds := by
  have hzeros : hexNumber (List.replicate k '0') = 0 := by
    induction k with
    | zero => rfl
    | succ k ih =>
      rw [List.replicate_succ', hexNumber_concat, ih]
      rfl
  rw [hexNumber_append, hzeros, Nat.zero_mul, Nat.zero_add]

/-- Digits keep their number when they are put into small letters. -/
theorem hexNumber_toLower (hd : ∀ c ∈ ds, IsHexDigit c) :
    hexNumber (ds.map Char.toLower) = hexNumber ds := by
  induction ds using List.reverseRecOn with
  | nil => rfl
  | append_singleton ds c ih =>
    have hc : IsHexDigit c := hd c (by simp)
    have hds := ih fun x hx => hd x (by simp [hx])
    rw [List.map_append, List.map_singleton, hexNumber_concat, hexNumber_concat, hds,
      (lowerChar_of_isHexDigit hc).2.2]

/-! ## Writing and reading -/

theorem hexValue?_digitChar {d : Nat} (h : d < 16) : hexValue? (Nat.digitChar d) = some d := by
  revert d
  decide

theorem digitChar_hexValue? (hc : c ∈ smallHexDigits) :
    Nat.digitChar ((hexValue? c).getD 0) = c := by
  have hall : smallHexDigits.all (fun c => Nat.digitChar ((hexValue? c).getD 0) == c) = true := by
    decide
  exact beq_iff_eq.1 (List.all_eq_true.1 hall c hc)

theorem hexNumber_toDigits (n : Nat) : hexNumber (Nat.toDigits 16 n) = n := by
  induction n using Nat.strongRecOn with
  | ind n ih =>
    rw [Nat.toDigits_eq_if (by decide)]
    split
    · next h =>
      have hdigit := hexNumber_concat [] (Nat.digitChar n)
      simpa [hexValue?_digitChar h] using hdigit
    · next h =>
      rw [hexNumber_concat, ih (n / 16) (by omega), hexValue?_digitChar (Nat.mod_lt n (by decide))]
      simp only [Option.getD_some]
      omega

@[simp] theorem hexNumber_hexDigits (w n : Nat) : hexNumber (hexDigits w n) = n := by
  rw [hexDigits, hexNumber_zeros, hexNumber_toDigits]

theorem hexDigits_one {d : Nat} (h : d < 16) : hexDigits 1 d = [Nat.digitChar d] := by
  simp [hexDigits, Nat.toDigits_of_lt_base h]

/-- The last digit is the lowest one. -/
theorem hexDigits_succ (hw : 0 < w) (n : Nat) :
    hexDigits (w + 1) n = hexDigits w (n / 16) ++ [Nat.digitChar (n % 16)] := by
  simp only [hexDigits]
  rw [Nat.toDigits_eq_if (by decide)]
  split
  · next h =>
    obtain ⟨k, rfl⟩ := Nat.exists_eq_add_one_of_ne_zero hw.ne'
    have hzero : n / 16 = 0 := Nat.div_eq_of_lt h
    simp [hzero, Nat.mod_eq_of_lt h, List.replicate_succ']
  · simp

/-- Small digits are what their number is written as. -/
theorem hexDigits_hexNumber (hne : ds ≠ []) (hd : ∀ c ∈ ds, c ∈ smallHexDigits) :
    hexDigits ds.length (hexNumber ds) = ds := by
  induction ds using List.reverseRecOn with
  | nil => contradiction
  | append_singleton ds c ih =>
    have hchar := digitChar_hexValue? (hd c (by simp))
    have hlt := hexValue?_getD_lt c
    rw [hexNumber_concat, List.length_append, List.length_singleton]
    by_cases hds : ds = []
    · subst hds
      simpa [hexDigits_one hlt] using hchar
    · have hhead := ih hds fun x hx => hd x (by simp [hx])
      have hquot : (hexNumber ds * 16 + (hexValue? c).getD 0) / 16 = hexNumber ds := by omega
      have hrem : (hexNumber ds * 16 + (hexValue? c).getD 0) % 16 = (hexValue? c).getD 0 := by omega
      rw [hexDigits_succ (List.length_pos_iff.2 hds), hquot, hrem, hhead, hchar]

theorem mem_smallHexDigits_hexDigits (w n : Nat) : ∀ c ∈ hexDigits w n, c ∈ smallHexDigits :=
  forall_mem_hexDigits (by decide) w n

end Text

namespace Bytes
open Text (hexDigits hexNumber smallHexDigits)

variable {bs : Bytes} {w n : Nat}

/-! ## Byte strings -/

theorem length_flatMap_hexByte (l : List UInt8) : (l.flatMap hexByte).length = 2 * l.length := by
  have hwidth : ∀ b : UInt8, (hexByte b).length = 2 := fun b =>
    Text.length_hexDigits (by decide) b.toNat_lt
  simp [List.length_flatMap, hwidth, Nat.mul_comm]

/-- The text of a byte string spells the number of its bytes. -/
theorem hexNumber_flatMap_hexByte (l : List UInt8) :
    hexNumber (l.flatMap hexByte) = toNat l.toArray := by
  induction l using List.reverseRecOn with
  | nil => rfl
  | append_singleton l b ih =>
    have hbyte : hexNumber (hexByte b) = b.toNat := Text.hexNumber_hexDigits 2 b.toNat
    have hlength : (hexByte b).length = 2 := Text.length_hexDigits (by decide) b.toNat_lt
    have hpush : (l ++ [b]).toArray = l.toArray.push b := by simp
    rw [hpush, toNat_push, ← ih, List.flatMap_append, List.flatMap_singleton,
      Text.hexNumber_append, hbyte, hlength]
    rfl

/-- The text of a byte string is what its number is written as. -/
theorem flatMap_hexByte (hpos : 0 < bs.size) :
    bs.toList.flatMap hexByte = hexDigits (2 * bs.size) bs.toNat := by
  have hlength : (bs.toList.flatMap hexByte).length = 2 * bs.size := by
    rw [length_flatMap_hexByte, Array.length_toList]
  have hne : bs.toList.flatMap hexByte ≠ [] := by
    rw [← List.length_pos_iff, hlength]
    omega
  have hsmall : ∀ c ∈ bs.toList.flatMap hexByte, c ∈ smallHexDigits := by
    intro c hc
    obtain ⟨b, -, hb⟩ := List.mem_flatMap.1 hc
    exact Text.mem_smallHexDigits_hexDigits 2 b.toNat c hb
  calc bs.toList.flatMap hexByte
      = hexDigits (bs.toList.flatMap hexByte).length (hexNumber (bs.toList.flatMap hexByte)) :=
        (Text.hexDigits_hexNumber hne hsmall).symm
    _ = hexDigits (2 * bs.size) bs.toNat := by rw [hlength, hexNumber_flatMap_hexByte]

/-- The digits of a number that fits are read as its bytes. -/
theorem ofHexChars_hexDigits (hw : 0 < w) (hn : n < 256 ^ w) :
    ofHexChars (hexDigits (2 * w) n) = .ok (ofNat w n) := by
  have htext : (ofNat w n).toList.flatMap hexByte = hexDigits (2 * w) n := by
    rw [flatMap_hexByte (by simpa using hw), size_ofNat, toNat_ofNat, Nat.mod_eq_of_lt hn]
  have hread := ofHex_toHex (ofNat w n)
  rwa [ofHex, toHex, String.toList_ofList, htext] at hread

theorem toNat_append (as bs : Bytes) :
    (as ++ bs).toNat = as.toNat * 256 ^ bs.size + bs.toNat := by
  have hlist : ∀ l : List UInt8,
      toNat (as ++ l.toArray) = as.toNat * 256 ^ l.length + toNat l.toArray := by
    intro l
    induction l using List.reverseRecOn with
    | nil => simp [toNat]
    | append_singleton l b ih =>
      have hpush : (l ++ [b]).toArray = l.toArray.push b := by simp
      rw [hpush, ← Array.push_append, toNat_push, toNat_push, ih, List.length_append,
        List.length_singleton]
      ring
  simpa using hlist bs.toList

/-- The last bytes of a string are its number modulo a power. -/
theorem toNat_slice_neg (hw : 0 < w) (bs : Bytes) :
    (bs.slice (-w) bs.size).toNat = bs.toNat % 256 ^ w := by
  have hstart : bound bs.size (-w) = bs.size - w := by
    unfold bound
    rw [if_pos (by omega)]
    omega
  have hstop : bound bs.size bs.size = bs.size := bound_of_le (by omega) le_rfl
  have hsplit : bs.extract 0 (bs.size - w) ++ bs.extract (bs.size - w) bs.size = bs := by simp
  have hsize : (bs.extract (bs.size - w) bs.size).size = min w bs.size := by simp; omega
  have hlt := toNat_lt (bs.extract (bs.size - w) bs.size)
  rw [slice, hstart, hstop]
  by_cases hshort : bs.size ≤ w
  · have hall : bs.size - w = 0 := by omega
    have hle : 256 ^ bs.size ≤ 256 ^ w := Nat.pow_le_pow_right (by decide) hshort
    rw [hall, Array.extract_size, Nat.mod_eq_of_lt ((toNat_lt bs).trans_le hle)]
  · have hwhole := toNat_append (bs.extract 0 (bs.size - w)) (bs.extract (bs.size - w) bs.size)
    rw [hsize, Nat.min_eq_left (by omega)] at hwhole hlt
    rw [hsplit] at hwhole
    rw [hwhole, Nat.mul_add_mod_of_lt hlt]

end Bytes

end Gasometer
