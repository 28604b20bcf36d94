import Gasometer.Machine.Call
import Gasometer.Proofs.ByteStrings
import Gasometer.Proofs.HexText

/-!
# Addresses of a run

An address made from a number is the text of twenty bytes, so it has a number below `2 ^ 160` and
bytes. Hence a creator with such an address finds a place for its contract.
-/
namespace Gasometer

namespace Address
open Bytes (IsHexDigit)

/-- Whether a text is the hexadecimal text of twenty bytes, marked or not. -/
def IsHex (a : Address) : Prop :=
  ∃ mark ds, Text.HexMark mark ∧ ds.length = 40 ∧ (∀ c ∈ ds, IsHexDigit c) ∧
    a.text = String.ofList (mark ++ ds)

def Normal (a : Address) : Prop := ∃ n, a = ofInt n

theorem normal_ofInt (n : Int) : (ofInt n).Normal := ⟨n, rfl⟩

theorem normal_zero : zero.Normal := ⟨0, rfl⟩

theorem Normal.digits {a : Address} (h : a.Normal) :
    ∃ ds, ds.length = 40 ∧ (∀ c ∈ ds, IsHexDigit c) ∧
      a.text = String.ofList ('0' :: 'x' :: ds) := by
  obtain ⟨n, rfl⟩ := h
  have hlt : (n % 2 ^ 160).toNat < 16 ^ 40 := by
    have := Int.emod_lt_of_pos n (show (0 : Int) < 2 ^ 160 by decide)
    have := Int.emod_nonneg n (show (2 ^ 160 : Int) ≠ 0 by decide)
    omega
  exact ⟨_, Text.length_hexDigits (by decide) hlt, Text.isHexDigit_hexDigits _ _, rfl⟩

theorem Normal.isHex {a : Address} (h : a.Normal) : a.IsHex := by
  obtain ⟨ds, hlen, hd, htext⟩ := h.digits
  exact ⟨['0', 'x'], ds, .inr (.inl rfl), hlen, hd, htext⟩

/-- The text of twenty bytes has a number below `2 ^ 160`. -/
theorem IsHex.toInt_ok {a : Address} (h : a.IsHex) :
    ∃ v, a.toInt = .ok v ∧ 0 ≤ v ∧ v < 2 ^ 160 := by
  obtain ⟨mark, ds, hm, hlen, hd, htext⟩ := h
  obtain ⟨v, hv, hb⟩ := Text.parseInt_hex hm hd (by rintro rfl; simp at hlen)
  rw [hlen] at hb
  refine ⟨v, ?_, Int.natCast_nonneg v, by exact_mod_cast hb⟩
  rw [toInt, htext, hv]

theorem Normal.toBytes_ok {a : Address} (h : a.Normal) :
    ∃ bs, a.toBytes = .ok bs ∧ bs.size = 20 := by
  obtain ⟨ds, hlen, hd, htext⟩ := h.digits
  obtain ⟨bs, hbs, hs⟩ := Bytes.ofHexChars_ok (k := 20) hd (by omega)
  refine ⟨bs, ?_, hs⟩
  rw [toBytes, htext, String.toList_ofList]
  exact hbs

theorem byte_ok {n : Int} (h₀ : 0 ≤ n) (h₁ : n < 256) :
    ∃ bs, byte n = .ok bs ∧ bs.size = 1 := ⟨_, if_pos ⟨h₀, h₁⟩, rfl⟩

theorem widthOf_le {n : Nat} {k : Nat} (h : n < 2 ^ (8 * k)) : Bytes.widthOf n ≤ k := by
  unfold Bytes.widthOf
  split_ifs with h₀
  · exact Nat.zero_le k
  · have := (Nat.log2_lt h₀).2 h
    omega

/-- Nonces below this have an encoding that fits a creation. -/
def nonceLimit : Int := 2 ^ 264

theorem encodeNonce_ok {nonce : Int} (h₀ : 0 ≤ nonce) (h₁ : nonce < nonceLimit) :
    ∃ bs, encodeNonce nonce = .ok bs ∧ bs.size ≤ 34 := by
  unfold encodeNonce
  by_cases hz : nonce = 0
  · exact ⟨_, if_pos hz, by decide⟩
  by_cases hs : nonce < 0x80
  · obtain ⟨bs, hb, hsize⟩ := byte_ok h₀ (hs.trans (by decide))
    exact ⟨bs, by simp [hz, hs, hb], by omega⟩
  · have hw : Bytes.widthOf nonce.toNat ≤ 33 :=
      widthOf_le (k := 33) (by unfold nonceLimit at h₁; omega)
    obtain ⟨bs, hb, hsize⟩ := byte_ok (n := 0x80 + Bytes.widthOf nonce.toNat) (by omega) (by omega)
    refine ⟨bs ++ Bytes.ofNat (Bytes.widthOf nonce.toNat) nonce.toNat, ?_, ?_⟩
    · simp [hz, hs, hb]
    · simp only [Array.size_append, Bytes.size_ofNat]; omega

theorem creationPayload_ok {sender : Bytes} (hs : sender.size = 20) {nonce : Int} (h₀ : 0 ≤ nonce)
    (h₁ : nonce < nonceLimit) : ∃ bs, creationPayload sender nonce = .ok bs := by
  obtain ⟨n, hn, hnsize⟩ := encodeNonce_ok h₀ h₁
  obtain ⟨m, hm, hmsize⟩ := byte_ok (n := 0x80 + sender.size) (by omega) (by omega)
  obtain ⟨h, hh, -⟩ := byte_ok (n := 0xc0 + (m ++ sender ++ n).size) (by omega)
    (by simp only [Array.size_append]; omega)
  refine ⟨h ++ (m ++ sender ++ n), ?_⟩
  simp only [creationPayload, hn, hm, hh, Fault.ok_bind]
  rfl

/-- A normalised creator with such a nonce has a place for its contract. -/
theorem placeOf_ok {creator : Address} (hc : creator.Normal) {nonce : Int} (h₀ : 0 ≤ nonce)
    (h₁ : nonce < nonceLimit) {salt : Option Int}
    (hsalt : ∀ s ∈ salt, 0 ≤ s ∧ s < Word.ceiling) (code : Bytes) :
    ∃ place, Exec.placeOf creator nonce salt code = .ok place := by
  obtain ⟨sender, hs, hsize⟩ := hc.toBytes_ok
  cases salt with
  | none =>
    obtain ⟨payload, hp⟩ := creationPayload_ok hsize h₀ h₁
    exact ⟨ofBytes (Keccak.hash payload), by simp [Exec.placeOf, created, hs, hp]⟩
  | some salt =>
    obtain ⟨h₀, h₁⟩ := hsalt salt rfl
    obtain ⟨bs, hb, -⟩ := Bytes.ofInt_ok h₀ h₁
    exact ⟨_, by simp [Exec.placeOf, createdSalted, hs, hb]; rfl⟩

/-! Looking for a place may fail, but it is never cut off. -/

theorem bind_ne_cutOff {α β : Type} {x : Except Fault α} {f : α → Except Fault β}
    (hx : x ≠ .error .cutOff) (hf : ∀ v, f v ≠ .error .cutOff) : (x >>= f) ≠ .error .cutOff := by
  cases x with
  | error fault => simpa using hx
  | ok v => exact hf v

theorem byte_ne_cutOff (n : Int) : byte n ≠ .error .cutOff := by
  unfold byte
  split_ifs <;> simp

theorem encodeNonce_ne_cutOff (nonce : Int) : encodeNonce nonce ≠ .error .cutOff := by
  unfold encodeNonce
  split_ifs
  · simp
  · exact byte_ne_cutOff nonce
  · exact bind_ne_cutOff (byte_ne_cutOff _) fun _ => by simp [pure, Except.pure]

theorem creationPayload_ne_cutOff (sender : Bytes) (nonce : Int) :
    creationPayload sender nonce ≠ .error .cutOff := by
  refine bind_ne_cutOff (encodeNonce_ne_cutOff nonce) fun n => ?_
  refine bind_ne_cutOff (byte_ne_cutOff _) fun m => ?_
  exact bind_ne_cutOff (byte_ne_cutOff _) fun _ => by simp [pure, Except.pure]

theorem placeOf_ne_cutOff {creator : Address} (hc : creator.Normal) (nonce : Int)
    (salt : Option Int) (code : Bytes) :
    Exec.placeOf creator nonce salt code ≠ .error .cutOff := by
  obtain ⟨sender, hs, -⟩ := hc.toBytes_ok
  have hsender : creator.toBytes ≠ .error .cutOff := by simp [hs]
  cases salt with
  | none =>
    refine bind_ne_cutOff hsender fun sender => ?_
    exact bind_ne_cutOff (creationPayload_ne_cutOff _ _) fun _ => by simp [pure, Except.pure]
  | some salt =>
    refine bind_ne_cutOff hsender fun sender => ?_
    exact bind_ne_cutOff (Bytes.ofInt_ne_cutOff 32 salt) fun _ => by simp [pure, Except.pure]

/-- What a creation is placed at is in the normal form. -/
theorem normal_placeOf {creator : Address} {nonce : Int} {salt : Option Int} {code : Bytes}
    {place : Address} (h : Exec.placeOf creator nonce salt code = .ok place) : place.Normal := by
  cases salt with
  | none =>
    obtain ⟨sender, -, h⟩ := Fault.bind_eq_ok.1 h
    obtain ⟨payload, -, h⟩ := Fault.bind_eq_ok.1 h
    cases h
    exact normal_ofInt _
  | some salt =>
    obtain ⟨sender, -, h⟩ := Fault.bind_eq_ok.1 h
    obtain ⟨salt, -, h⟩ := Fault.bind_eq_ok.1 h
    cases h
    exact normal_ofInt _

end Address
end Gasometer
