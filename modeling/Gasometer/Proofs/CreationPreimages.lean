import Gasometer.Proofs.Addresses
import Gasometer.Proofs.Disassembly

/-!
# What the places of contracts are hashed from

A contract is placed at a hash: of the recursive-length-prefix list of its creator and a nonce, or
of a marked string of creator, salt and digest of its code. The format is given here by a reader for
all its items, which accepts no item in two forms. What is written for a nonce is read back as the
list it stands for, so no two creations of either kind are hashed from one string.
-/
namespace Gasometer

-- Powers are those of the core library, also where Mathlib offers its own.
attribute [local instance (high)] instPowNat

/-! ## The recursive-length-prefix format -/

namespace Rlp

/-- An item of the format: a string of bytes or a list of items. -/
inductive Item
  | bytes (content : List UInt8)
  | list (items : List Item)

/-- The first item of a string of bytes, its content not read yet, and what stands after it. -/
structure Head where
  isList : Bool
  content : List UInt8
  rest : List UInt8

def take? (isList : Bool) (n : Nat) (bs : List UInt8) : Option Head :=
  if n ≤ bs.length then some ⟨isList, bs.take n, bs.drop n⟩ else none

/-- The head whose content has its size written before it, in `width` bytes. Such a size has no
leading zero, and a size of at most 55 is not written in this way. -/
def takeLong? (isList : Bool) (width : Nat) (bs : List UInt8) : Option Head :=
  if width ≤ bs.length then
    let size := Bytes.toNat (bs.take width).toArray
    if bs.head? = some 0 ∨ size ≤ 55 then none else take? isList size (bs.drop width)
  else none

/-- Whether the content is one byte below `0x80`, which is an item of its own. -/
def Head.isSmall (h : Head) : Bool :=
  match h.content with
  | [b] => b.toNat < 0x80
  | _ => false

def head? : List UInt8 → Option Head
  | [] => none
  | b :: bs =>
    if b.toNat < 0x80 then some ⟨false, [b], bs⟩
    else if b.toNat ≤ 0xb7 then
      (take? false (b.toNat - 0x80) bs).filter (!·.isSmall)
    else if b.toNat ≤ 0xbf then takeLong? false (b.toNat - 0xb7) bs
    else if b.toNat ≤ 0xf7 then take? true (b.toNat - 0xc0) bs
    else takeLong? true (b.toNat - 0xf7) bs

theorem take?_lengths {isList : Bool} {n : Nat} {bs : List UInt8} {h : Head}
    (hh : take? isList n bs = some h) : h.content.length + h.rest.length = bs.length := by
  unfold take? at hh
  split at hh
  · cases hh
    simp only [List.length_take, List.length_drop]
    omega
  · contradiction

theorem takeLong?_lengths {isList : Bool} {width : Nat} {bs : List UInt8} {h : Head}
    (hh : takeLong? isList width bs = some h) :
    h.content.length + h.rest.length ≤ bs.length := by
  unfold takeLong? at hh
  dsimp only at hh
  split_ifs at hh
  have hlengths := take?_lengths hh
  simp only [List.length_drop] at hlengths
  omega

/-- A head takes at least one byte, and with it the head of a list has a shorter content. -/
theorem head?_lengths {bs : List UInt8} {h : Head} (hh : head? bs = some h) :
    h.rest.length < bs.length ∧ (h.isList = true → h.content.length < bs.length) := by
  cases bs with
  | nil => contradiction
  | cons b bs =>
    simp only [head?] at hh
    rw [List.length_cons]
    split_ifs at hh
    · cases hh
      exact ⟨Nat.lt_succ_self _, by simp⟩
    · have := take?_lengths (Option.filter_eq_some_iff.1 hh).1
      exact ⟨by omega, by omega⟩
    · have := takeLong?_lengths hh
      exact ⟨by omega, by omega⟩
    · have := take?_lengths hh
      exact ⟨by omega, by omega⟩
    · have := takeLong?_lengths hh
      exact ⟨by omega, by omega⟩

def items? (bs : List UInt8) : Option (List Item) :=
  if bs = [] then some []
  else
    match hh : head? bs with
    | none => none
    | some h =>
      have _ := (head?_lengths hh).1
      if hlist : h.isList = true then do
        have _ := (head?_lengths hh).2 hlist
        let items ← items? h.content
        let others ← items? h.rest
        return .list items :: others
      else do
        let others ← items? h.rest
        return .bytes h.content :: others
  termination_by bs.length

/-- The item that a string of bytes is, with no bytes left over. -/
def decode? (bs : List UInt8) : Option Item :=
  match items? bs with
  | some [item] => some item
  | _ => none

variable {content rest : List UInt8}

@[simp] theorem items?_nil : items? [] = some [] := by
  rw [items?, if_pos rfl]

/-- A string of bytes that begins with a string. -/
theorem items?_bytes {bs : List UInt8} (h : head? bs = some ⟨false, content, rest⟩) :
    items? bs = (items? rest).map (.bytes content :: ·) := by
  have hne : bs ≠ [] := by rintro rfl; contradiction
  rw [items?, if_neg hne]
  split
  · simp_all
  · next h' hh =>
    obtain rfl : ⟨false, content, rest⟩ = h' := Option.some.inj (h.symm.trans hh)
    simp [Option.map_eq_bind]

/-- A string of bytes that begins with a list. -/
theorem items?_list {bs : List UInt8} {items : List Item}
    (h : head? bs = some ⟨true, content, rest⟩) (hitems : items? content = some items) :
    items? bs = (items? rest).map (.list items :: ·) := by
  have hne : bs ≠ [] := by rintro rfl; contradiction
  rw [items?, if_neg hne]
  split
  · simp_all
  · next h' hh =>
    obtain rfl : ⟨true, content, rest⟩ = h' := Option.some.inj (h.symm.trans hh)
    simp [hitems, Option.map_eq_bind]

theorem take?_append (isList : Bool) (content rest : List UInt8) :
    take? isList content.length (content ++ rest) = some ⟨isList, content, rest⟩ := by
  simp [take?]

/-- A small byte is its own string. -/
theorem head?_small {b : UInt8} (hb : b.toNat < 0x80) :
    head? (b :: rest) = some ⟨false, [b], rest⟩ := by
  rw [head?, if_pos hb]

/-- A short string stands after its size. -/
theorem head?_string (content rest : List UInt8) {b : UInt8} (hb : b.toNat = 0x80 + content.length)
    (hshort : content.length ≤ 55) (hsmall : ∀ c, content = [c] → 0x80 ≤ c.toNat) :
    head? (b :: (content ++ rest)) = some ⟨false, content, rest⟩ := by
  have hsize : b.toNat - 0x80 = content.length := by omega
  have hnot : Head.isSmall ⟨false, content, rest⟩ = false := by
    unfold Head.isSmall
    split
    · next c hc => simpa using hsmall c hc
    · rfl
  rw [head?, if_neg (by omega), if_pos (by omega), hsize, take?_append, Option.filter_some, hnot]
  rfl

/-- A short list stands after the size of its content. -/
theorem head?_list (content rest : List UInt8) {b : UInt8} (hb : b.toNat = 0xc0 + content.length)
    (hshort : content.length ≤ 55) :
    head? (b :: (content ++ rest)) = some ⟨true, content, rest⟩ := by
  have hsize : b.toNat - 0xc0 = content.length := by omega
  rw [head?, if_neg (by omega), if_neg (by omega), if_neg (by omega), if_pos (by omega), hsize,
    take?_append]

end Rlp

namespace Bytes

/-- Whether the bytes are those of a number, most significant first and without a leading zero. -/
def IsMinimal (digits : Bytes) (n : Int) : Prop := (digits.toNat : Int) = n ∧ digits[0]? ≠ some 0

/-- A number that is written in as many bytes as it needs has no leading zero. -/
theorem isMinimal_ofNat (n : Nat) : (ofNat (widthOf n) n).IsMinimal n := by
  have hn : n < 256 ^ widthOf n := widthOf_le_iff.1 le_rfl
  refine ⟨by rw [toNat_ofNat, Nat.mod_eq_of_lt hn], fun hzero => ?_⟩
  obtain ⟨hpos, hzero⟩ := Array.getElem?_eq_some_iff.1 hzero
  rw [size_ofNat] at hpos
  -- Were its first byte zero, one byte less would do.
  have hless : n < 256 ^ (widthOf n - 1) := by
    have hpow : 2 ^ (8 * (widthOf n - 1)) = 256 ^ (widthOf n - 1) := Nat.pow_mul 2 8 _
    have hsplit : 256 ^ widthOf n = 256 ^ (widthOf n - 1) * 256 := by
      rw [← Nat.pow_succ]
      congr 1
      omega
    have hbyte : n / 256 ^ (widthOf n - 1) % 256 = 0 := by
      have := congrArg UInt8.toNat hzero
      simpa [ofNat, Nat.shiftRight_eq_div_pow, hpow] using this
    have hquot : n / 256 ^ (widthOf n - 1) < 256 := Nat.div_lt_of_lt_mul (hsplit ▸ hn)
    rw [Nat.mod_eq_of_lt hquot] at hbyte
    exact (Nat.div_eq_zero_iff_lt (Nat.pow_pos (by decide))).1 hbyte
  have := widthOf_le_iff.2 hless
  omega

end Bytes

namespace Address
open Bytes (IsMinimal)

theorem toNat_singleton (b : UInt8) : Bytes.toNat #[b] = b.toNat := by
  simp [Bytes.toNat]

theorem byte_eq {n : Nat} (h : n < 256) : byte n = .ok #[UInt8.ofNat n] := by
  rw [byte, if_pos (by omega), Int.toNat_natCast]

/-- The item of a nonce is the string of its bytes. -/
theorem head?_encodeNonce {nonce : Int} (h₀ : 0 ≤ nonce) (h₁ : nonce < nonceLimit) :
    ∃ bs digits, encodeNonce nonce = .ok bs ∧ bs.size ≤ 34 ∧ IsMinimal digits nonce ∧
      ∀ rest, Rlp.head? (bs.toList ++ rest) = some ⟨false, digits.toList, rest⟩ := by
  lift nonce to Nat using h₀
  unfold encodeNonce
  by_cases hz : nonce = 0
  · subst hz
    refine ⟨#[0x80], #[], if_pos rfl, by decide, ⟨rfl, by simp⟩, fun rest => ?_⟩
    exact Rlp.head?_string [] rest rfl (by decide) (by simp)
  by_cases hs : nonce < 0x80
  · refine ⟨#[UInt8.ofNat nonce], #[UInt8.ofNat nonce], ?_, by simp, ?_, fun rest => ?_⟩
    · rw [if_neg (by omega), if_pos (by omega), byte_eq (by omega)]
    · have hbyte : (UInt8.ofNat nonce).toNat = nonce := by
        rw [UInt8.toNat_ofNat', Nat.mod_eq_of_lt (by omega)]
      refine ⟨by rw [toNat_singleton, hbyte], fun hzero => hz ?_⟩
      have hnil : UInt8.ofNat nonce = 0 := by simpa using hzero
      rw [← hbyte, hnil]
      rfl
    · exact Rlp.head?_small (by simp; omega)
  · have hw : Bytes.widthOf nonce ≤ 33 := widthOf_le (by unfold nonceLimit at h₁; omega)
    set raw := Bytes.ofNat (Bytes.widthOf nonce) nonce with hraw
    have hsize : raw.size = Bytes.widthOf nonce := Bytes.size_ofNat ..
    have hminimal : raw.IsMinimal nonce := Bytes.isMinimal_ofNat nonce
    refine ⟨#[UInt8.ofNat (0x80 + raw.size)] ++ raw, raw, ?_, ?_, hminimal, fun rest => ?_⟩
    · rw [if_neg (by omega), if_neg (by omega)]
      have hbyte : byte (0x80 + raw.size) = .ok #[UInt8.ofNat (0x80 + raw.size)] :=
        byte_eq (n := 0x80 + raw.size) (by omega)
      simp [← hraw, hbyte]
    · simp only [Array.size_append, List.size_toArray, List.length_singleton]
      omega
    · have hlen : raw.toList.length = raw.size := Array.length_toList
      have hone : ∀ c, raw.toList = [c] → 0x80 ≤ c.toNat := by
        intro c hc
        have hraw : raw = #[c] := Array.toList_inj.1 hc
        have hvalue := hminimal.1
        rw [hraw, toNat_singleton] at hvalue
        omega
      have hbyte : (UInt8.ofNat (0x80 + raw.size)).toNat = 0x80 + raw.toList.length := by
        rw [UInt8.toNat_ofNat', Nat.mod_eq_of_lt (by omega), hlen]
      simpa using Rlp.head?_string raw.toList rest hbyte (by omega) hone

variable {sender sender' : Bytes} {nonce nonce' salt salt' : Int}

/-- What is written for a creator and a nonce is the list of the two. Its size fits its first byte,
which is therefore below the mark of the other kind. -/
theorem decode_creationPayload (hs : sender.size = 20) (h₀ : 0 ≤ nonce) (h₁ : nonce < nonceLimit) :
    ∃ payload digits, creationPayload sender nonce = .ok payload ∧ IsMinimal digits nonce ∧
      Rlp.decode? payload.toList =
        some (.list [.bytes sender.toList, .bytes digits.toList]) ∧
      payload[0]? ≠ some 0xff := by
  obtain ⟨bs, digits, hnonce, hsize, hminimal, hhead⟩ := head?_encodeNonce h₀ h₁
  set body : Bytes := #[UInt8.ofNat (0x80 + sender.size)] ++ sender ++ bs with hbody
  have hlen : body.size = 21 + bs.size := by simp [hbody, hs]; omega
  have hmark : byte (0x80 + sender.size) = .ok #[UInt8.ofNat (0x80 + sender.size)] :=
    byte_eq (n := 0x80 + sender.size) (by omega)
  have hfirst : byte (0xc0 + body.size) = .ok #[UInt8.ofNat (0xc0 + body.size)] :=
    byte_eq (n := 0xc0 + body.size) (by omega)
  have hpayload : creationPayload sender nonce =
      .ok (#[UInt8.ofNat (0xc0 + body.size)] ++ body) := by
    simp only [creationPayload, hnonce, hmark, Fault.ok_bind, ← hbody, hfirst]
    rfl
  have hsender : Rlp.head? body.toList = some ⟨false, sender.toList, bs.toList⟩ := by
    have hbyte : (UInt8.ofNat (0x80 + sender.size)).toNat = 0x80 + sender.toList.length := by
      simp [hs]
    have hone : ∀ c, sender.toList = [c] → 0x80 ≤ c.toNat := by
      intro c hc
      have := congrArg List.length hc
      simp [hs] at this
    simpa [hbody] using Rlp.head?_string sender.toList bs.toList hbyte (by simp [hs]) hone
  have hitems : Rlp.items? body.toList = some [.bytes sender.toList, .bytes digits.toList] := by
    have hend := hhead []
    rw [List.append_nil] at hend
    rw [Rlp.items?_bytes hsender, Rlp.items?_bytes hend, Rlp.items?_nil]
    rfl
  have hlist := Rlp.head?_list body.toList [] (b := UInt8.ofNat (0xc0 + body.size))
    (by simp; omega) (by simp; omega)
  rw [List.append_nil] at hlist
  refine ⟨_, digits, hpayload, hminimal, ?_, ?_⟩
  · have hwhole : Rlp.items? (#[UInt8.ofNat (0xc0 + body.size)] ++ body).toList =
        some [.list [.bytes sender.toList, .bytes digits.toList]] := by
      rw [Array.toList_append]
      exact (Rlp.items?_list hlist hitems).trans (by rw [Rlp.items?_nil]; rfl)
    rw [Rlp.decode?, hwhole]
  · intro hff
    have hvalue : UInt8.ofNat (0xc0 + body.size) = 0xff := by simpa using hff
    have := congrArg UInt8.toNat hvalue
    rw [UInt8.toNat_ofNat', Nat.mod_eq_of_lt (by omega)] at this
    have : (0xff : UInt8).toNat = 255 := rfl
    omega

theorem mark_saltedPayload (sender mark code : Bytes) :
    (saltedPayload sender mark code)[0]? = some 0xff := by
  simp only [saltedPayload, Array.append_assoc]
  rw [Array.getElem?_append_left (by simp)]
  rfl

/-- The parts of a marked string stand at fixed places. -/
theorem saltedPayload_inj {mark mark' code code' : Bytes} (hs : sender.size = sender'.size)
    (hm : mark.size = mark'.size)
    (h : saltedPayload sender mark code = saltedPayload sender' mark' code') :
    sender = sender' ∧ mark = mark' ∧ Keccak.hash code = Keccak.hash code' := by
  simp only [saltedPayload, Array.append_assoc] at h
  obtain ⟨-, h⟩ := Array.append_inj h rfl
  obtain ⟨hsender, h⟩ := Array.append_inj h hs
  obtain ⟨hmark, hhash⟩ := Array.append_inj h hm
  exact ⟨hsender, hmark, hhash⟩

/-- A salt is written in 32 bytes that spell it. -/
theorem ofInt_salt (h₀ : 0 ≤ salt) (h₁ : salt < Word.ceiling) :
    ∃ mark, Bytes.ofInt 32 salt = .ok mark ∧ mark.size = 32 ∧ (mark.toNat : Int) = salt := by
  have hlt : salt.toNat < 256 ^ 32 := by
    unfold Word.ceiling at h₁
    omega
  refine ⟨_, Bytes.ofInt_eq_ok_iff.2 ⟨h₀, hlt, rfl⟩, Bytes.size_ofNat .., ?_⟩
  rw [Bytes.toNat_ofNat, Nat.mod_eq_of_lt hlt]
  exact Int.toNat_of_nonneg h₀

/-- For a creator of twenty bytes and a nonce below the limit, what is hashed is read as the list of
the creator and of the nonce in as few bytes as it needs, with nothing left over. Hence no two of
them are hashed from one string; nor are two creators with salts and digests of code; nor is one of
the first kind hashed from the string of one of the second. -/
theorem creation_preimages_separate (hs : sender.size = 20) (hs' : sender'.size = 20)
    (h₀ : 0 ≤ nonce) (h₁ : nonce < nonceLimit) (h₀' : 0 ≤ nonce') (h₁' : nonce' < nonceLimit)
    (hsalt₀ : 0 ≤ salt) (hsalt₁ : salt < Word.ceiling)
    (hsalt₀' : 0 ≤ salt') (hsalt₁' : salt' < Word.ceiling) (code code' : Bytes) :
    ∃ payload payload' digits mark mark',
      creationPayload sender nonce = .ok payload ∧
      creationPayload sender' nonce' = .ok payload' ∧
      IsMinimal digits nonce ∧
      Rlp.decode? payload.toList =
        some (.list [.bytes sender.toList, .bytes digits.toList]) ∧
      (payload = payload' ↔ sender = sender' ∧ nonce = nonce') ∧
      Bytes.ofInt 32 salt = .ok mark ∧
      Bytes.ofInt 32 salt' = .ok mark' ∧
      (saltedPayload sender mark code = saltedPayload sender' mark' code' ↔
        sender = sender' ∧ salt = salt' ∧ Keccak.hash code = Keccak.hash code') ∧
      payload ≠ saltedPayload sender' mark' code' := by
  obtain ⟨payload, digits, hp, hminimal, hdecode, hfirst⟩ := decode_creationPayload hs h₀ h₁
  obtain ⟨payload', digits', hp', hminimal', hdecode', -⟩ := decode_creationPayload hs' h₀' h₁'
  obtain ⟨mark, hmark, hsize, hvalue⟩ := ofInt_salt hsalt₀ hsalt₁
  obtain ⟨mark', hmark', hsize', hvalue'⟩ := ofInt_salt hsalt₀' hsalt₁'
  refine ⟨payload, payload', digits, mark, mark', hp, hp', hminimal, hdecode, ?_, hmark, hmark',
    ?_, ?_⟩
  · constructor
    · rintro rfl
      have hitems := hdecode.symm.trans hdecode'
      simp only [Option.some.injEq, Rlp.Item.list.injEq, List.cons.injEq, Rlp.Item.bytes.injEq,
        Array.toList_inj, and_true] at hitems
      obtain ⟨hsender, rfl⟩ := hitems
      exact ⟨hsender, hminimal.1.symm.trans hminimal'.1⟩
    · rintro ⟨rfl, rfl⟩
      exact Except.ok.inj (hp.symm.trans hp')
  · constructor
    · intro h
      obtain ⟨hsender, rfl, hhash⟩ :=
        saltedPayload_inj (hs.trans hs'.symm) (hsize.trans hsize'.symm) h
      exact ⟨hsender, hvalue.symm.trans hvalue', hhash⟩
    · rintro ⟨rfl, rfl, hhash⟩
      obtain rfl : mark = mark' := Except.ok.inj (hmark.symm.trans hmark')
      rw [saltedPayload, saltedPayload, hhash]
  · intro heq
    exact hfirst (heq ▸ mark_saltedPayload sender' mark' code')

theorem creation_preimages_separate_twoByteNonce :
    let sender : Bytes := Array.replicate 20 0x6a
    let payload : Bytes := #[0xd8, 0x94] ++ sender ++ #[0x82, 0x01, 0x00]
    let payload' : Bytes := #[0xd6, 0x94] ++ sender ++ #[0x7f]
    sender.size = 20 ∧ (256 : Int) < nonceLimit ∧ (2 : Int) ^ 256 - 1 < Word.ceiling ∧
      creationPayload sender 256 = .ok payload ∧ creationPayload sender 127 = .ok payload' ∧
      payload ≠ payload' ∧
      (∃ digits, IsMinimal digits 256 ∧
        Rlp.decode? payload.toList = some (.list [.bytes sender.toList, .bytes digits.toList])) ∧
      ∃ mark mark', Bytes.ofInt 32 0 = .ok mark ∧ Bytes.ofInt 32 (2 ^ 256 - 1) = .ok mark' ∧
        saltedPayload sender mark #[] ≠ saltedPayload sender mark' #[] ∧
        payload ≠ saltedPayload sender mark' #[] := by
  intro sender payload payload'
  have hsize : sender.size = 20 := by decide
  have hnonce : (256 : Int) < nonceLimit := by decide +kernel
  have hsalt : (2 : Int) ^ 256 - 1 < Word.ceiling := by decide
  have hp : creationPayload sender 256 = .ok payload := by decide
  have hp' : creationPayload sender 127 = .ok payload' := by decide
  obtain ⟨q, q', digits, mark, mark', hq, hq', hdigits, hdecode, hne, hmark, hmark', hsalted,
      hkind⟩ :=
    creation_preimages_separate hsize hsize (by decide) hnonce
      (show (0 : Int) ≤ 127 by decide) (show (127 : Int) < nonceLimit by decide +kernel)
      le_rfl (by decide) (by decide) hsalt #[] #[]
  obtain rfl : payload = q := Except.ok.inj (hp.symm.trans hq)
  obtain rfl : payload' = q' := Except.ok.inj (hp'.symm.trans hq')
  refine ⟨hsize, hnonce, hsalt, hp, hp', fun h => ?_, ⟨digits, hdigits, hdecode⟩, mark, mark',
    hmark, hmark', fun h => ?_, hkind⟩
  · exact absurd (hne.1 h).2 (by decide)
  · exact absurd (hsalted.1 h).2.1 (by decide)

end Address
end Gasometer
