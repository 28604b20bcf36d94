import Gasometer.Assembly.Instruction
import Gasometer.Proofs.LetterCase
import Gasometer.Proofs.Words
import Mathlib.Data.Char
import Mathlib.Data.List.Nodup

/-!
# Mnemonics and names

A mnemonic is the name of an operation in some letter case. Every operation is found by its name,
and the pushes are the operations whose names begin with `PUSH`: of all characters only the small
letters and the long s have the capitals of that word.
-/
namespace Gasometer

namespace Text

variable {c x : Char} {w t : List Char}

def followInPush (x y : Nat) : Bool :=
  (x, y) ∈ [(0x50, 0x55), (0x55, 0x53), (0x53, 0x48)] ||
    (x == 0x48 || (0x30 ≤ x && x ≤ 0x39)) && (0x30 ≤ y && y ≤ 0x39)

/-- No capital form of several characters is part of such a word. -/
theorem upperExpansions_follow :
    ∀ e ∈ upperExpansions, ∃ x y r, e.2.map Char.ofNat = x :: y :: r ∧
      followInPush x.toNat y.toNat = false := by
  have hall : ∀ e ∈ upperExpansions, 2 ≤ e.2.length ∧
      followInPush (Char.ofNat (e.2.getD 0 0)).toNat (Char.ofNat (e.2.getD 1 0)).toNat = false := by
    decide
  rintro ⟨n, cs⟩ he
  obtain ⟨hlength, hfollow⟩ := hall _ he
  rcases cs with _ | ⟨x, _ | ⟨y, cs⟩⟩
  · simp at hlength
  · simp at hlength
  · exact ⟨_, _, _, rfl, hfollow⟩

/-- The two letters outside ASCII whose capital is a letter of ASCII. -/
theorem upperRuns_ascii :
    ∀ r ∈ upperRuns, 0x80 ≤ r.last → 0x80 ≤ (r.first : Int) + r.shift ∨
      (r.first = 0x131 ∧ r.last = 0x131 ∧ r.shift = -232) ∨
      (r.first = 0x17f ∧ r.last = 0x17f ∧ r.shift = -300) := by decide +kernel

def IsForm (x c : Char) : Prop :=
  c = x ∨ (0x61 ≤ c.toNat ∧ c.toNat ≤ 0x7a ∧ c.toNat = x.toNat + 0x20) ∨
    (x = 'I' ∧ c = 'ı') ∨ (x = 'S' ∧ c = 'ſ')

/-- A capital form is one character, in ASCII only from the letters known there, or several that
are no part of a push. -/
theorem upperChar_cases (c : Char) :
    (∃ x, upperChar c = [x] ∧ (IsForm x c ∨ x.toNat = 0 ∨ 0x80 ≤ x.toNat)) ∨
      ∃ x y r, upperChar c = x :: y :: r ∧ followInPush x.toNat y.toNat = false := by
  unfold upperChar
  by_cases hascii : c.toNat < 0x80
  · left
    rw [if_pos hascii]
    refine ⟨_, rfl, .inl ?_⟩
    by_cases hletter : 0x61 ≤ c.toNat ∧ c.toNat ≤ 0x7a
    · have hvalid : (c.toNat - 0x20).isValidChar := .inl (by omega)
      rw [if_pos (by simpa using hletter)]
      refine .inr (.inl ⟨hletter.1, hletter.2, ?_⟩)
      rw [toNat_ofNat_of_isValidChar hvalid]
      omega
    · rw [if_neg (by simpa using hletter)]
      exact .inl rfl
  rw [if_neg hascii]
  cases hlookup : upperExpansions.lookup c.toNat with
  | some cs =>
    right
    have hmem : (c.toNat, cs) ∈ upperExpansions := by
      obtain ⟨l₁, l₂, heq, -⟩ := List.lookup_eq_some_iff.1 hlookup
      simp [heq]
    exact upperExpansions_follow _ hmem
  | none =>
    left
    cases hrun : upperRuns.find? (·.has c.toNat) with
    | none => exact ⟨c, rfl, .inl (.inl rfl)⟩
    | some r =>
      have hhas := List.find?_some hrun
      simp only [CaseRun.has, Bool.and_eq_true, decide_eq_true_eq, beq_iff_eq] at hhas
      obtain ⟨⟨hfirst, hlast⟩, -⟩ := hhas
      refine ⟨_, rfl, ?_⟩
      rcases upperRuns_ascii r (List.mem_of_find?_eq_some hrun) (by omega) with
        h | ⟨h₁, h₂, h₃⟩ | ⟨h₁, h₂, h₃⟩
      · have hvalue := toNat_ofNat ((c.toNat : Int) + r.shift).toNat
        exact .inr (by omega)
      · have hc : c = 'ı' := Char.toNat_inj.1 (show c.toNat = 0x131 by omega)
        subst hc
        rw [h₃]
        exact .inl (.inr (.inr (.inl ⟨by decide, rfl⟩)))
      · have hc : c = 'ſ' := Char.toNat_inj.1 (show c.toNat = 0x17f by omega)
        subst hc
        rw [h₃]
        exact .inl (.inr (.inr (.inr ⟨by decide, rfl⟩)))

/-- A capital word of `PUSH` and digits begins with the form of one character. -/
theorem upper_eq_cons (h : upper w = x :: t) (hx : 0 < x.toNat ∧ x.toNat < 0x80)
    (hfollow : ∀ y r, t = y :: r → followInPush x.toNat y.toNat = true) :
    ∃ c r, w = c :: r ∧ IsForm x c ∧ upper r = t := by
  cases w with
  | nil => cases h
  | cons c r =>
    have hupper : upperChar c ++ upper r = x :: t := by rw [← h, upper, upper, List.flatMap_cons]
    rcases upperChar_cases c with ⟨y, hy, hform⟩ | ⟨y, z, u, hy, hnot⟩
    · rw [hy, List.singleton_append] at hupper
      obtain ⟨rfl, hr⟩ := List.cons.inj hupper
      exact ⟨c, r, rfl, hform.resolve_right (by omega), hr⟩
    · rw [hy, List.cons_append, List.cons_append] at hupper
      obtain ⟨rfl, hr⟩ := List.cons.inj hupper
      rw [hfollow z _ hr.symm] at hnot
      cases hnot

theorem upper_cons (c : Char) (r : List Char) : upper (c :: r) = upperChar c ++ upper r :=
  List.flatMap_cons

theorem upper_eq_nil (h : upper w = []) : w = [] := by
  cases w with
  | nil => rfl
  | cons c r =>
    rw [upper_cons] at h
    rcases upperChar_cases c with ⟨y, hy, -⟩ | ⟨y, z, u, hy, -⟩ <;> simp [hy] at h

theorem isDigit_iff : c.isDigit = true ↔ 0x30 ≤ c.toNat ∧ c.toNat ≤ 0x39 := by
  simp only [Char.isDigit, Bool.and_eq_true, decide_eq_true_eq, ge_iff_le]
  rfl

/-- Digits have no other case. -/
theorem upper_eq_digits (ht : ∀ x ∈ t, x.isDigit = true) : upper w = t ↔ w = t := by
  constructor
  · intro h
    induction t generalizing w with
    | nil => exact upper_eq_nil h
    | cons x t ih =>
      have hx := isDigit_iff.1 (ht x (by simp))
      have hfollow : ∀ y r, t = y :: r → followInPush x.toNat y.toNat = true := by
        rintro y r rfl
        have hy := isDigit_iff.1 (ht y (by simp))
        simp [followInPush, hx, hy]
      obtain ⟨c, r, rfl, hform, hr⟩ := upper_eq_cons h (by omega) hfollow
      have hc : c = x := by
        rcases hform with hc | ⟨h₁, -, h₂⟩ | ⟨rfl, -⟩ | ⟨rfl, -⟩
        · exact hc
        · omega
        · exact absurd hx (by decide)
        · exact absurd hx (by decide)
      rw [hc, ih (fun y hy => ht y (by simp [hy])) hr]
  · rintro rfl
    induction w with
    | nil => rfl
    | cons x w ih =>
      have hx := isDigit_iff.1 (ht x (by simp))
      have hself : upperChar x = [x] := by
        rw [upperChar, if_pos (by omega), if_neg (by simp; omega)]
      rw [upper_cons, hself, ih fun y hy => ht y (by simp [hy]), List.singleton_append]

/-- The forms of a letter. -/
theorem IsForm.cases (h : IsForm x c) (small : Char) (hsmall : small.toNat = x.toNat + 0x20)
    (hx : x ≠ 'I') : c = x ∨ c = small ∨ (x = 'S' ∧ c = 'ſ') := by
  rcases h with h | ⟨-, -, h⟩ | ⟨h, -⟩ | h
  · exact .inl h
  · exact .inr (.inl (Char.toNat_inj.1 (h.trans hsmall.symm)))
  · exact absurd h hx
  · exact .inr (.inr h)

end Text

namespace Assembly
open Text (upper upper_cons upper_eq_cons upper_eq_digits followInPush isDigit_iff)

/-- A push is spelled by the letters `PUSH` in any case, and digits. -/
theorem pushWidth?_eq_some_iff {w d : List Char} :
    pushWidth? w = some d ↔
      upper w = 'P' :: 'U' :: 'S' :: 'H' :: d ∧ ∀ c ∈ d, c.isDigit = true := by
  constructor
  · intro h
    unfold pushWidth? at h
    split at h
    · rename_i p u s h' width
      split_ifs at h with hform
      obtain rfl := Option.some.inj h
      simp only [Bool.and_eq_true, Bool.or_eq_true, beq_iff_eq, List.all_eq_true] at hform
      obtain ⟨⟨⟨⟨hp, hu⟩, hs⟩, hh⟩, hdigits⟩ := hform
      have hletter : ∀ {c x : Char}, Text.upperChar c = [x] →
          ∀ r, upper (c :: r) = x :: upper r := by
        intro c x hc r
        rw [upper_cons, hc, List.singleton_append]
      have hp' : Text.upperChar p = ['P'] := by rcases hp with rfl | rfl <;> decide
      have hu' : Text.upperChar u = ['U'] := by rcases hu with rfl | rfl <;> decide
      have hs' : Text.upperChar s = ['S'] := by rcases hs with (rfl | rfl) | rfl <;> decide
      have hh' : Text.upperChar h' = ['H'] := by rcases hh with rfl | rfl <;> decide
      refine ⟨?_, hdigits⟩
      rw [hletter hp', hletter hu', hletter hs', hletter hh', (upper_eq_digits hdigits).2 rfl]
    · cases h
  · rintro ⟨h, hdigits⟩
    obtain ⟨p, w, rfl, hp, h⟩ := upper_eq_cons h (by decide) (by rintro y r ⟨⟩; decide)
    obtain ⟨u, w, rfl, hu, h⟩ := upper_eq_cons h (by decide) (by rintro y r ⟨⟩; decide)
    obtain ⟨s, w, rfl, hs, h⟩ := upper_eq_cons h (by decide) (by rintro y r ⟨⟩; decide)
    have hfollow : ∀ y r, d = y :: r → followInPush ('H' : Char).toNat y.toNat = true := by
      rintro y r rfl
      have hy := isDigit_iff.1 (hdigits y (by simp))
      simp [followInPush, hy]
    obtain ⟨h', w, rfl, hh, h⟩ := upper_eq_cons h (by decide) hfollow
    obtain rfl := (upper_eq_digits hdigits).1 h
    have hp := hp.cases 'p' (by decide) (by decide)
    have hu := hu.cases 'u' (by decide) (by decide)
    have hs := hs.cases 's' (by decide) (by decide)
    have hh := hh.cases 'h' (by decide) (by decide)
    simp only [pushWidth?]
    rw [if_pos]
    simp_all [or_assoc]

end Assembly

namespace Opcode
open Text (upper)

theorem all_eq : all = (List.range 256).filterMap ofCode? := by decide

/-- The list of all operations is complete. -/
theorem mem_all (op : Opcode) : op ∈ all := by
  rw [all_eq]
  exact List.mem_filterMap.2 ⟨op.code, List.mem_range.2 op.code_lt, ofCode?_code op⟩

/-! ## Names -/

def areDistinct : Nat → List Nat → Bool
  | _, [] => true
  | seen, n :: ns => !seen.testBit n && areDistinct (seen ||| 2 ^ n) ns

theorem areDistinct.nodup {seen : Nat} {ns : List Nat} (h : areDistinct seen ns = true) :
    ns.Nodup ∧ ∀ n ∈ ns, seen.testBit n = false := by
  induction ns generalizing seen with
  | nil => simp
  | cons n ns ih =>
    simp only [areDistinct, Bool.and_eq_true, Bool.not_eq_true'] at h
    obtain ⟨hnodup, hseen⟩ := ih h.2
    simp only [Nat.testBit_or, Nat.testBit_two_pow, Bool.or_eq_false_iff,
      decide_eq_false_iff_not] at hseen
    have hn : n ∉ ns := fun hn => (hseen n hn).2 rfl
    exact ⟨List.nodup_cons.2 ⟨hn, hnodup⟩,
      List.forall_mem_cons.2 ⟨h.1, fun m hm => (hseen m hm).1⟩⟩

def nameNumber (op : Opcode) : Nat := Bytes.toNat op.name.toByteArray.data % 1299

theorem name_injective {op op' : Opcode} (h : op.name = op'.name) : op = op' := by
  have hdistinct : areDistinct 0 (all.map nameNumber) = true := by decide +kernel
  have hnumber : nameNumber op = nameNumber op' := by rw [nameNumber, h, nameNumber]
  exact List.inj_on_of_nodup_map (areDistinct.nodup hdistinct).1 op.mem_all op'.mem_all hnumber

/-- Every operation is found by its name. -/
theorem ofName?_name (op : Opcode) : ofName? op.name = some op := by
  cases hfind : ofName? op.name with
  | none =>
    have hnot := List.find?_eq_none.1 hfind op op.mem_all
    simp at hnot
  | some op' =>
    have hname : op'.name = op.name := by simpa using List.find?_some hfind
    rw [name_injective hname]

theorem ofName?_eq_some_iff {name : String} {op : Opcode} :
    ofName? name = some op ↔ op.name = name := by
  constructor
  · intro h
    simpa using List.find?_some h
  · rintro rfl
    exact ofName?_name op

theorem name_push (n : Fin 32) :
    (push n).name.toList = 'P' :: 'U' :: 'S' :: 'H' :: Nat.toDigits 10 (n + 1) := by
  revert n
  decide

/-- Whether a name is made of capital letters and digits, begins like a push only if it is the name
of one, and is no second name. -/
def HasPlainName (op : Opcode) : Prop :=
  (op.name.toList ≠ [] ∧
      op.name.toList.all (fun c => c.isAlphanum && decide (c.toNat < 0x61)) = true) ∧
    (['P', 'U', 'S', 'H'] <+: op.name.toList → op.width ≠ 0) ∧
    op.name ≠ "SHA3" ∧ op.name ≠ "PREVRANDAO"

instance (op : Opcode) : Decidable op.HasPlainName := inferInstanceAs (Decidable (_ ∧ _))

theorem hasPlainName (op : Opcode) : op.HasPlainName := by
  have hall : ∀ op ∈ all, op.HasPlainName := by decide +kernel
  exact hall op op.mem_all

theorem width_ne_zero_of_name {op : Opcode} {d : List Char}
    (h : op.name.toList = 'P' :: 'U' :: 'S' :: 'H' :: d) : op.width ≠ 0 := by
  obtain ⟨-, hpush, -⟩ := op.hasPlainName
  exact hpush (h ▸ ⟨d, rfl⟩)

theorem exists_push_of_width {op : Opcode} (h : op.width ≠ 0) : ∃ n, op = push n := by
  cases op with
  | push n => exact ⟨n, rfl⟩
  | _ => exact absurd rfl h

/-- A word that stands for an operation: its name in any case, or the name that it has under other
rules. -/
inductive Names (w : List Char) : Opcode → Prop
  | name {op : Opcode} (h : upper w = op.name.toList) : Names w op
  | sha3 (h : upper w = "SHA3".toList) : Names w keccak256
  | prevrandao (h : upper w = "PREVRANDAO".toList) : Names w (query .difficulty)

/-- Names are in capital letters. -/
theorem upper_name (op : Opcode) : upper op.name.toList = op.name.toList := by
  obtain ⟨⟨-, hletters⟩, -⟩ := op.hasPlainName
  generalize op.name.toList = cs at hletters
  induction cs with
  | nil => rfl
  | cons c cs ih =>
    simp only [List.all_cons, Bool.and_eq_true, decide_eq_true_iff] at hletters
    obtain ⟨⟨-, hcapital⟩, hrest⟩ := hletters
    have hascii : c.toNat < 0x80 := by omega
    have hsmall : ¬ (0x61 ≤ c.toNat && c.toNat ≤ 0x7a) = true := by
      rw [Bool.and_eq_true, decide_eq_true_iff, decide_eq_true_iff]
      omega
    rw [Text.upper_cons, ih hrest, Text.upperChar, if_pos hascii, if_neg hsmall,
      List.singleton_append]

/-- Mnemonics are made of letters and digits. -/
theorem Names.isAlphanum {w : List Char} {op : Opcode} (h : Names w op) :
    upper w ≠ [] ∧ ∀ c ∈ upper w, c.isAlphanum = true := by
  cases h with
  | name h =>
    obtain ⟨⟨hne, hletters⟩, -⟩ := op.hasPlainName
    rw [h]
    exact ⟨hne, fun c hc => (Bool.and_eq_true_iff.1 (List.all_eq_true.1 hletters c hc)).1⟩
  | sha3 h | prevrandao h =>
    rw [h]
    exact ⟨by decide, List.all_eq_true.1 (by decide)⟩

/-- A mnemonic is looked up by what it names. -/
theorem ofMnemonic_eq_ok_iff {mnemonic : String} {op : Opcode} :
    ofMnemonic mnemonic = .ok op ↔ Names (Text.trim mnemonic.toList) op := by
  generalize hw : Text.trim mnemonic.toList = w
  have hcanonical : ofMnemonic mnemonic = .ok op ↔ op.name = canonicalName mnemonic := by
    rw [← ofName?_eq_some_iff, ofMnemonic]
    cases ofName? (canonicalName mnemonic) <;> simp
  obtain ⟨-, -, hsecond⟩ := op.hasPlainName
  rw [hcanonical, canonicalName, hw]
  split
  · rename_i hname
    have hsha : upper w = "SHA3".toList := by rw [← hname, String.toList_ofList]
    constructor
    · intro h
      obtain rfl : op = keccak256 := name_injective h
      exact .sha3 hsha
    · intro h
      cases h with
      | name h => exact absurd (String.toList_inj.1 (h.symm.trans hsha)) hsecond.1
      | sha3 => rfl
      | prevrandao h => exact absurd (h.symm.trans hsha) (by decide)
  · rename_i hname
    have hprev : upper w = "PREVRANDAO".toList := by rw [← hname, String.toList_ofList]
    constructor
    · intro h
      obtain rfl : op = query .difficulty := name_injective h
      exact .prevrandao hprev
    · intro h
      cases h with
      | name h => exact absurd (String.toList_inj.1 (h.symm.trans hprev)) hsecond.2
      | sha3 h => exact absurd (h.symm.trans hprev) (by decide)
      | prevrandao => rfl
  · rename_i hsha hprev
    constructor
    · intro h
      exact .name (by rw [h, String.toList_ofList])
    · intro h
      cases h with
      | name h => rw [h, String.ofList_toList]
      | sha3 h => exact absurd (by rw [h, String.ofList_toList]) hsha
      | prevrandao h => exact absurd (by rw [h, String.ofList_toList]) hprev

/-- A word names a push if and only if it is spelled like one. -/
theorem Names.width_eq_zero_iff {w : List Char} {op : Opcode} (h : Names w op) :
    op.width = 0 ↔ Assembly.pushWidth? w = none := by
  constructor
  · intro hwidth
    by_contra hpush
    obtain ⟨d, hd⟩ := Option.ne_none_iff_exists'.1 hpush
    have hupper := (Assembly.pushWidth?_eq_some_iff.1 hd).1
    cases h with
    | name h => exact width_ne_zero_of_name (h.symm.trans hupper) hwidth
    | sha3 h | prevrandao h =>
      rw [hupper] at h
      exact absurd h (by simp)
  · intro hnone
    by_contra hwidth
    obtain ⟨n, rfl⟩ := exists_push_of_width hwidth
    cases h with
    | name h =>
      have hdigits : ∀ c ∈ Nat.toDigits 10 (n + 1), c.isDigit = true := fun c hc =>
        Nat.isDigit_of_mem_toDigits (by decide) (by decide) hc
      have hsome := Assembly.pushWidth?_eq_some_iff.2 ⟨h.trans (name_push n), hdigits⟩
      rw [hsome] at hnone
      cases hnone

end Opcode
end Gasometer
