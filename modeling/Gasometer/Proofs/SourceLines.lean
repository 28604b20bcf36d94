import Gasometer.LoopProgram.Source
import Gasometer.Proofs.Disassembly

/-!
# Written lines

The other direction of reading: lines that are written for an operation, for the push of a number or
as a remark ask for that and for nothing else, whatever stands before and after them. Numbers are
written in decimal or in hexadecimal.
-/
namespace Gasometer
open Assembly Text

-- Powers are those of the core library, also where Mathlib offers its own.
attribute [local instance (high)] instPowNat

namespace Text

/-- Blanks, and the characters that begin comments, have no other case. -/
theorem upperChar_of_isBlank {c : Char} (h : isBlank c = true ∨ c = ';' ∨ c = '/') :
    upperChar c = [c] := by
  have hblank : ∀ n ∈ blankCodes, upperChar (Char.ofNat n) = [Char.ofNat n] := by decide +kernel
  rcases h with h | rfl | rfl
  · obtain ⟨n, hn, rfl⟩ := exists_blankCode h
    exact hblank n hn
  · decide
  · decide

end Text

theorem forall_mem_of_any {cs : List Char} {p : Char → Bool} (h : cs.any p = false) :
    ∀ c ∈ cs, p c = false := by
  simpa using h

/-- No comment begins with a blank. -/
theorem plain_of_isBlank {c : Char} (h : isBlank c = true) : c ≠ ';' ∧ c ≠ '/' := by
  constructor <;> rintro rfl <;> revert h <;> decide

/-- A word in which no comment begins. -/
def IsPlainWord (w : List Char) : Prop := IsWord w ∧ ∀ c ∈ w, c ≠ ';' ∧ c ≠ '/'

theorem isPlainWord_of_isAlphanum {w : List Char} (hne : w ≠ [])
    (hw : ∀ c ∈ w, c.isAlphanum = true) : IsPlainWord w := by
  refine ⟨⟨hne, fun c hc => isBlank_of_isNamePart ?_⟩, fun c hc => ?_⟩
  · rw [isNamePart, hw c hc, Bool.true_or]
  · constructor <;> rintro rfl <;> exact absurd (hw _ hc) (by decide)

/-- A mnemonic is such a word. -/
theorem Opcode.Names.isPlainWord {w : List Char} {op : Opcode} (h : Opcode.Names w op) :
    IsPlainWord w := by
  obtain ⟨hne, hname⟩ := h.isAlphanum
  have hmem : ∀ c ∈ w, ¬ (isBlank c = true ∨ c = ';' ∨ c = '/') := by
    intro c hc hbad
    have hself : c ∈ upper w := List.mem_flatMap.2 ⟨c, hc, by simp [upperChar_of_isBlank hbad]⟩
    have hpart : isNamePart c = true := by rw [isNamePart, hname c hself, Bool.true_or]
    rcases hbad with hblank | rfl | rfl
    · rw [isBlank_of_isNamePart hpart] at hblank
      cases hblank
    · cases hpart
    · cases hpart
  refine ⟨⟨?_, fun c hc => ?_⟩, fun c hc => ?_⟩
  · rintro rfl
    exact hne rfl
  · exact eq_false_of_ne_true fun hblank => hmem c hc (.inl hblank)
  · exact not_or.1 fun hbad => hmem c hc (.inr hbad)

namespace Opcode

/-- A word without blanks is looked up as it is. -/
theorem Names.ofMnemonic {mnemonic : String} {op : Opcode} (h : Names mnemonic.toList op) :
    ofMnemonic mnemonic = .ok op := by
  rw [ofMnemonic_eq_ok_iff, trim_eq_of_words h.isPlainWord.1.words]
  exact h

/-- A name stands for its operation. -/
theorem ofMnemonic_name (op : Opcode) : Opcode.ofMnemonic op.name = .ok op :=
  Names.ofMnemonic (.name op.upper_name)

end Opcode

namespace Assembly

/-! Lines that are written. -/

theorem uncommented_eq_self {l : List Char} (h : ∀ c ∈ l, c ≠ ';' ∧ c ≠ '/') :
    uncommented l = l := by
  induction l with
  | nil => rfl
  | cons c r ih =>
    rw [List.forall_mem_cons] at h
    unfold uncommented
    split <;> simp_all

theorem spells_nil_of_words {ls : List (List Char)} (h : ls.flatMap words = [])
    (hc : ∀ l ∈ ls, uncommented l = l) : Spells ls [] := by
  induction ls with
  | nil => exact .nil
  | cons l ls ih =>
    rw [List.flatMap_cons, List.append_eq_nil_iff] at h
    rw [List.forall_mem_cons] at hc
    exact .skip (by rw [hc.1, h.1]; exact .blank) (ih h.2 hc.2)

/-- Blank lines around a word do not matter. -/
theorem spells_of_words {ls : List (List Char)} {w : List Char} {s : Statement}
    (h : ls.flatMap words = [w]) (hc : ∀ l ∈ ls, uncommented l = l) (hs : Says [w] (some s)) :
    Spells ls [s] := by
  induction ls with
  | nil => cases h
  | cons l ls ih =>
    rw [List.flatMap_cons] at h
    rw [List.forall_mem_cons] at hc
    rcases List.append_eq_singleton_iff.1 h with ⟨hl, hls⟩ | ⟨hl, hls⟩
    · exact .skip (by rw [hc.1, hl]; exact .blank) (ih hls hc.2)
    · exact .cons (by rwa [hc.1, hl]) (spells_nil_of_words hls hc.2)

theorem Spells.of_append_blank {ls : List (List Char)} {p : List Statement}
    (h : Spells (ls ++ [[]]) p) : Spells ls p := by
  induction ls generalizing p with
  | nil =>
    cases h with
    | skip _ hr => exact hr
    | cons hs hr => cases hs
  | cons l ls ih =>
    cases h with
    | skip hs hr => exact .skip hs (ih hr)
    | cons hs hr => exact .cons hs (ih hr)

end Assembly

namespace LoopProgram

variable {line : String} {ls ls' : List String} {p p' : List Statement}

def textLines (ls : List String) : List (List Char) :=
  ls.flatMap fun l => Text.lines (l.toList ++ ['\n'])

theorem lines_joinLines (h : ls ≠ []) : Text.lines (joinLines ls).toList = textLines ls := by
  induction ls with
  | nil => exact absurd rfl h
  | cons l ls ih =>
    cases ls with
    | nil => simp [joinLines, textLines]
    | cons l' ls =>
      have hjoin : (joinLines (l :: l' :: ls)).toList =
          l.toList ++ '\n' :: (joinLines (l' :: ls)).toList := by
        simp [joinLines, String.intercalate_cons_cons]
      rw [hjoin, lines_append, ih (by simp)]
      rfl

def Writes (ls : List String) (p : List Statement) : Prop := Spells (textLines ls) p

/-- The last line needs no end. -/
theorem Writes.spells (h : Writes ls p) : Spells (Text.lines ("\n".intercalate ls).toList) p := by
  by_cases hempty : ls = []
  · rw [hempty] at h ⊢
    exact h
  · rw [Writes, ← lines_joinLines hempty, joinLines, String.toList_append] at h
    rcases lines_feed ("\n".intercalate ls).toList with heq | heq
    · exact heq ▸ h
    · exact .of_append_blank (heq ▸ h)

theorem Writes.append (h : Writes ls p) (h' : Writes ls' p') : Writes (ls ++ ls') (p ++ p') := by
  unfold Writes textLines
  rw [List.flatMap_append]
  exact Spells.append h h'

theorem Writes.replicate (h : Writes ls p) (n : Nat) :
    Writes (List.replicate n ls).flatten (List.replicate n p).flatten := by
  induction n with
  | zero => exact .nil
  | succ n ih =>
    rw [List.replicate_succ, List.flatten_cons, List.replicate_succ, List.flatten_cons]
    exact h.append ih

theorem writes_singleton :
    Writes [line] p ↔ Spells (Text.lines (line.toList ++ ['\n'])) p := by
  rw [Writes, textLines, List.flatMap_singleton]

/-- A remark asks for nothing. -/
theorem writes_remark {l : String} (h : ∀ c ∈ l.toList, isLineBreak c = false) :
    Writes ["; " ++ l] [] := by
  have hline : ∀ c ∈ ("; " ++ l).toList, isLineBreak c = false := by
    intro c hc
    rw [String.toList_append, List.mem_append] at hc
    rcases hc with hc | hc
    · exact forall_mem_of_any (by decide) c hc
    · exact h c hc
  rw [writes_singleton, lines_line hline]
  refine .skip ?_ .nil
  have hempty : uncommented ("; " ++ l).toList = [] := by
    rw [String.toList_append]
    rfl
  rw [hempty]
  exact .blank

/-- A mnemonic stands for its operation, also with blanks around it. -/
theorem writes_mnemonic {op : Opcode} (h : Opcode.ofMnemonic line = .ok op) (hop : op.width = 0) :
    Writes [line] [.plain op] := by
  have hnames := Opcode.ofMnemonic_eq_ok_iff.1 h
  obtain ⟨hword, hplain⟩ := hnames.isPlainWord
  have hwords : words line.toList = [trim line.toList] := by rw [← words_trim, hword.words]
  rw [writes_singleton]
  refine spells_of_words ?_ ?_ (.plain hnames hop)
  · rw [flatMap_words_lines, words_append_blanks (List.all_eq_true.1 (by decide)), hwords]
  · -- What is around the mnemonic is blank.
    obtain ⟨b, v, hline, hb, hv⟩ := words_eq_cons hwords
    intro l hl
    refine uncommented_eq_self fun c hc => ?_
    have hmem := mem_of_mem_lines hl hc
    rw [hline, List.mem_append, List.mem_append, List.mem_append] at hmem
    rcases hmem with (hc | hc | hc) | hc
    · exact plain_of_isBlank (hb c hc)
    · exact hplain c hc
    · exact plain_of_isBlank (words_eq_nil hv c hc)
    · exact plain_of_isBlank (by rw [List.mem_singleton.1 hc]; decide)

/-- A push and what it pushes. Blanks may follow its mnemonic as long as they break no line. -/
theorem writes_push {w b operand : List Char} {width? : Option Nat} {target : Target}
    (hw : SaysPush w width?) (hword : IsPlainWord w)
    (hb : ∀ c ∈ b, isBlank c = true ∧ isLineBreak c = false) (ho : SaysTarget operand target)
    (hoperand : IsPlainWord operand) :
    Writes [String.ofList (w ++ (b ++ ' ' :: operand))] [.push width? target] := by
  have hbreak : ∀ {c}, isBlank c = false → isLineBreak c = false := fun hc =>
    eq_false_of_ne_true fun hb => by rw [isBlank_of_isLineBreak hb] at hc; cases hc
  have hchars : ∀ c ∈ w ++ (b ++ ' ' :: operand), isLineBreak c = false ∧ c ≠ ';' ∧ c ≠ '/' := by
    intro c hc
    simp only [List.mem_append, List.mem_cons] at hc
    rcases hc with hc | hc | rfl | hc
    · exact ⟨hbreak (hword.1.2 c hc), hword.2 c hc⟩
    · exact ⟨(hb c hc).2, plain_of_isBlank (hb c hc).1⟩
    · decide
    · exact ⟨hbreak (hoperand.1.2 c hc), hoperand.2 c hc⟩
  have hwords : words (w ++ (b ++ ' ' :: operand)) = [w, operand] := by
    cases b with
    | nil => rw [List.nil_append, hword.1.words_append_blank (by decide), hoperand.1.words]
    | cons c b =>
      rw [List.forall_mem_cons] at hb
      rw [List.cons_append, hword.1.words_append_blank hb.1.1,
        words_blanks_append fun c hc => (hb.2 c hc).1, words_cons_blank (by decide),
        hoperand.1.words]
  rw [writes_singleton, String.toList_ofList, lines_line fun c hc => (hchars c hc).1]
  refine .cons ?_ .nil
  rw [uncommented_eq_self fun c hc => (hchars c hc).2, hwords]
  exact .push hw ho

theorem isPlainWord_push : IsPlainWord "PUSH".toList :=
  isPlainWord_of_isAlphanum (by decide) (List.all_eq_true.1 (by decide))

/-- A push without a width. -/
theorem writes_push_bare {operand : String} {target : Target}
    (ho : SaysTarget operand.toList target) (hoperand : IsPlainWord operand.toList) :
    Writes ["PUSH " ++ operand] [.push none target] := by
  have hline : "PUSH " ++ operand = String.ofList ("PUSH".toList ++ ' ' :: operand.toList) := by
    simp [← String.toList_inj]
  rw [hline]
  exact writes_push (b := []) (.bare (by decide)) isPlainWord_push (by simp) ho hoperand

/-- A push of a number in decimal. -/
theorem writes_decimal {v : Int} (h₀ : 0 ≤ v) (h₁ : v < 2 ^ (256 : Nat)) :
    Writes ["PUSH " ++ decimal v] [.push none (.number v)] := by
  have hdigits : IsPlainWord (decimal v).toList := by
    lift v to Nat using h₀
    rw [toList_decimal]
    refine isPlainWord_of_isAlphanum Nat.toDigits_ne_nil fun c hc => ?_
    rw [Char.isAlphanum, Nat.isDigit_of_mem_toDigits (by decide) (by decide) hc, Bool.or_true]
  exact writes_push_bare (.number (numeral_decimal h₀ h₁)) hdigits

/-- A push of stated width of a number in hexadecimal. -/
theorem writes_hex {w b : List Char} {n v : Nat} (digits : Nat) (hw : SaysPush w (some n))
    (hword : IsPlainWord w) (hb : ∀ c ∈ b, isBlank c = true ∧ isLineBreak c = false) :
    Writes [String.ofList (w ++ (b ++ ' ' :: '0' :: 'x' :: hexDigits digits v))]
      [.push (some n) (.number v)] := by
  refine writes_push hw hword hb (.number (.hex (.inl rfl) (spelled_hexDigits digits v))) ?_
  refine isPlainWord_of_isAlphanum (by simp) ?_
  refine List.forall_mem_cons.2 ⟨by decide, List.forall_mem_cons.2 ⟨by decide, fun c hc => ?_⟩⟩
  exact forall_mem_hexDigits (P := fun c => c.isAlphanum = true) (by decide) digits v c hc

theorem decimal?_of_length {n : Nat} (h : (Nat.toDigits 10 n).length ≤ maxDigits) :
    decimal? n = .ok (decimal n) := by
  have hlength : (toString (n : Int).natAbs).length = (Nat.toDigits 10 n).length := by
    rw [← toList_decimal, String.length_toList]
    rfl
  unfold decimal?
  rw [if_neg]
  rwa [hlength, not_lt]

theorem decimal?_ok {v : Int} (h₀ : 0 ≤ v) (h₁ : v < 2 ^ (256 : Nat)) :
    decimal? v = .ok (decimal v) := by
  lift v to Nat using h₀
  exact decimal?_of_length (length_toDigits_le (by exact_mod_cast h₁))

theorem decimal_toDigits {n : Nat} (h : n < 32) : Decimal (Nat.toDigits 10 (n + 1)) (n + 1) := by
  refine ⟨spelled_toDigits (.inl rfl) _, (digitCount_le _).trans (length_toDigits_le ?_)⟩
  exact lt_trans (by omega : n + 1 < 2 ^ 6) (Nat.pow_lt_pow_right (by decide) (by decide))

/-- The width of a push stands in its name. -/
theorem saysPush_of_upper {w : List Char} {n : Fin 32} (h : upper w = (Opcode.push n).name.toList) :
    SaysPush w (some (n + 1)) := by
  rw [Opcode.name_push] at h
  exact .sized h (fun c hc => Nat.isDigit_of_mem_toDigits (by decide) (by decide) hc)
    (decimal_toDigits n.isLt)

/-- The width can be read off the name of a push. -/
theorem parseInt_width {w : List Char} {n : Fin 32} (h : upper w = (Opcode.push n).name.toList) :
    parseInt .ten (String.ofList (w.drop 4)) = .ok (n + 1 : Nat) := by
  have hdigits : ∀ c ∈ Nat.toDigits 10 (n + 1), c.isDigit = true := fun c hc =>
    Nat.isDigit_of_mem_toDigits (by decide) (by decide) hc
  rw [Opcode.name_push] at h
  have hdrop : w.drop 4 = Nat.toDigits 10 (n + 1) := by
    have hwidth := pushWidth?_eq_some_iff.2 ⟨h, hdigits⟩
    unfold pushWidth? at hwidth
    split at hwidth
    · split_ifs at hwidth
      exact Option.some.inj hwidth
    · cases hwidth
  rw [hdrop, ← number_eq_ok_iff, number_width_eq_ok_iff (List.all_eq_true.2 hdigits)]
  exact ⟨_, decimal_toDigits n.isLt, rfl⟩

end LoopProgram
end Gasometer
