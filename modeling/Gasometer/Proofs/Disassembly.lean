import Gasometer.Code
import Gasometer.Proofs.Assembler
import Gasometer.Proofs.HexText
import Mathlib.Data.Set.Basic
import Mathlib.Order.Bounds.Basic

/-!
# Disassembly

Code is read back from its first byte: an operation, then as many bytes as a push of its number has.
The bytes of an assembled program are read as its statements in their order, and every place of a
label is found by the analysis of jump destinations.
-/
namespace Gasometer
open Text (hexDigits words)

-- Powers are those of the core library, also where Mathlib offers its own.
attribute [local instance (high)] instPowNat

namespace Bytes

/-! Byte strings and their texts. -/

theorem toNat_push (bs : Bytes) (b : UInt8) : toNat (bs.push b) = bs.toNat * 256 + b.toNat := by
  simp [toNat]

/-- The last byte is the lowest one. -/
theorem ofNat_succ (w n : Nat) : ofNat (w + 1) n = (ofNat w (n / 256)).push (UInt8.ofNat n) := by
  unfold ofNat
  rw [Array.ofFn_succ]
  congr 1
  · refine congrArg Array.ofFn (funext fun i => ?_)
    have hi := i.isLt
    have hshift : 8 * (w + 1 - 1 - i.castSucc.val) = 8 + 8 * (w - 1 - i.val) := by
      simp only [Fin.val_castSucc]
      omega
    rw [hshift, Nat.shiftRight_add, Nat.shiftRight_eq_div_pow n 8]
  · simp

/-- The bytes of a number spell it if it fits. -/
theorem toNat_ofNat (w n : Nat) : (ofNat w n).toNat = n % 256 ^ w := by
  induction w generalizing n with
  | zero => simp [ofNat, toNat, Nat.mod_one]
  | succ w ih =>
    have hbyte : (UInt8.ofNat n).toNat = n % 256 := by simp
    have hpow : 256 ^ (w + 1) = 256 * 256 ^ w := by rw [Nat.pow_succ, Nat.mul_comm]
    rw [ofNat_succ, toNat_push, ih, hbyte, hpow, Nat.mod_mul, Nat.add_comm, Nat.mul_comm]

/-- The text of a byte is read as the byte. -/
theorem readHex_hexByte (position : Nat) (done : Bytes) (b : UInt8) (r : List Char) :
    readHex position done (hexByte b ++ r) = readHex (position + 2) (done.push b) r := by
  have hdigits : ∀ n < 256, ∃ c d, hexDigits 2 n = [c, d] ∧ isGap c = false ∧
      hexValue? c = some (n / 16) ∧ hexValue? d = some (n % 16) := by
    have hall : ∀ n < 256,
        hexDigits 2 n = [(hexDigits 2 n).getD 0 '0', (hexDigits 2 n).getD 1 '0'] ∧
        isGap ((hexDigits 2 n).getD 0 '0') = false ∧
        hexValue? ((hexDigits 2 n).getD 0 '0') = some (n / 16) ∧
        hexValue? ((hexDigits 2 n).getD 1 '0') = some (n % 16) := by decide +kernel
    exact fun n hn => ⟨_, _, hall n hn⟩
  obtain ⟨c, d, hcd, hgap, hc, hd⟩ := hdigits b.toNat b.toNat_lt
  have hbyte : UInt8.ofNat (b.toNat / 16 * 16 + b.toNat % 16) = b := by
    rw [Nat.mul_comm, Nat.div_add_mod, UInt8.ofNat_toNat]
  rw [hexByte, hcd, List.cons_append, List.singleton_append]
  conv_lhs => unfold readHex
  simp only [hgap, hc, hd, hbyte, Bool.false_eq_true, if_false]

/-- Hexadecimal text is read back. -/
theorem ofHex_toHex (bs : Bytes) : ofHex bs.toHex = .ok bs := by
  have hread : ∀ (l : List UInt8) (position : Nat) (done : Bytes),
      readHex position done (l.flatMap hexByte) = .ok (done ++ l.toArray) := by
    intro l
    induction l with
    | nil => intro position done; simp [readHex]
    | cons b l ih =>
      intro position done
      rw [List.flatMap_cons, readHex_hexByte, ih]
      simp
  have hascii : (bs.toList.flatMap hexByte).findIdx? (fun c => 0x80 ≤ c.toNat) = none := by
    rw [List.findIdx?_eq_none_iff]
    intro c hc
    obtain ⟨b, -, hb⟩ := List.mem_flatMap.1 hc
    have hlt := (Text.isHexDigit_hexDigits 2 b.toNat c hb).lt
    simp; omega
  rw [ofHex, toHex, String.toList_ofList, ofHexChars, hascii]
  exact (hread bs.toList 0 #[]).trans (by simp)

end Bytes

namespace Code

/-! Reading code from its first byte. -/

/-- The operations of some code, each with the bytes of data that follow it. -/
def disassemble : List UInt8 → List (UInt8 × List UInt8)
  | [] => []
  | b :: r => (b, r.take (Opcode.dataWidth b)) :: disassemble (r.drop (Opcode.dataWidth b))
termination_by l => l.length
decreasing_by
  rw [List.length_drop, List.length_cons]
  omega

/-- Whether as many bytes follow each operation as it takes. -/
def IsWhole (ds : List (UInt8 × List UInt8)) : Prop := ∀ d ∈ ds, d.2.length = Opcode.dataWidth d.1

def assembled (ds : List (UInt8 × List UInt8)) : List UInt8 := ds.flatMap fun d => d.1 :: d.2

/-- Code that is made of whole operations is read as these. -/
theorem disassemble_assembled {ds : List (UInt8 × List UInt8)} (h : IsWhole ds) :
    disassemble (assembled ds) = ds := by
  induction ds with
  | nil => simp [assembled, disassemble]
  | cons d ds ih =>
    have hd : d.2.length = Opcode.dataWidth d.1 := h d (by simp)
    have hcons : assembled (d :: ds) = d.1 :: (d.2 ++ assembled ds) := by simp [assembled]
    rw [hcons, disassemble, ← hd, List.take_left, List.drop_left,
      ih fun e he => h e (by simp [he])]

def marksOf (d : UInt8 × List UInt8) : List Bool := (d.1 == 0x5b) :: d.2.map fun _ => false

/-- Data bytes are no destinations. -/
theorem foldl_markNext_data (data : List UInt8) (marks : Array Bool) :
    data.foldl markNext (marks, data.length) =
      (marks ++ (data.map fun _ => false).toArray, 0) := by
  induction data generalizing marks with
  | nil => simp
  | cons b data ih =>
    rw [List.foldl_cons, List.length_cons, markNext, ih]
    exact congrArg (·, 0) (Array.toList_inj.1 (by simp))

/-- The analysis of jump destinations meets the same operations. -/
theorem foldl_markNext_assembled {ds : List (UInt8 × List UInt8)} (h : IsWhole ds)
    (marks : Array Bool) :
    (assembled ds).foldl markNext (marks, 0) = (marks ++ (ds.flatMap marksOf).toArray, 0) := by
  induction ds generalizing marks with
  | nil => simp [assembled]
  | cons d ds ih =>
    have hd : d.2.length = Opcode.dataWidth d.1 := h d (by simp)
    have hcons : assembled (d :: ds) = d.1 :: (d.2 ++ assembled ds) := by simp [assembled]
    rw [hcons, List.foldl_cons, markNext, ← hd, List.foldl_append, foldl_markNext_data,
      ih fun e he => h e (by simp [he])]
    exact congrArg (·, 0) (Array.toList_inj.1 (by simp [marksOf]))

theorem length_marks (ds : List (UInt8 × List UInt8)) :
    (ds.flatMap marksOf).length = (assembled ds).length := by
  simp [assembled, marksOf, List.length_flatMap]

/-- A jump may lead to a destination that was reached by reading whole operations. -/
theorem isJumpDest_of_whole {before after : List (UInt8 × List UInt8)} {code : Code}
    (hcode : code.bytes.toList = assembled (before ++ (0x5b, []) :: after))
    (h : IsWhole (before ++ (0x5b, []) :: after)) :
    code.isJumpDest (assembled before).length = true := by
  have hmarks : markAll code.bytes = ((before ++ (0x5b, []) :: after).flatMap marksOf).toArray := by
    rw [markAll, ← Array.foldl_toList, hcode, foldl_markNext_assembled h]
    simp
  rw [isJumpDest, code.marks_eq, hmarks, ← length_marks]
  simp [marksOf]

end Code

theorem Opcode.dataWidth_byte (op : Opcode) : dataWidth op.byte = op.width := by
  have hall : ∀ op ∈ all, dataWidth op.byte = op.width := by decide +kernel
  exact hall op op.mem_all

namespace Assembly

variable {p : List Statement}

/-! Reading an assembled program. -/

/-- Statements whose bytes are an operation with its data: the width of a push is one that a push
can have. -/
def Statement.IsOperation : Statement → Prop
  | .label _ => True
  | .plain op => op.width = 0
  | s@(.push _ _) => 1 ≤ s.dataWidth ∧ s.dataWidth ≤ 32

def Statement.parts (p : List Statement) (s : Statement) : UInt8 × List UInt8 :=
  (s.operation, s.data p)

theorem encode_eq_assembled (p q : List Statement) :
    q.flatMap (Statement.encode p) = Code.assembled (q.map (Statement.parts p)) := by
  rw [Code.assembled, List.flatMap_map]
  rfl

@[simp] theorem Statement.length_data (p : List Statement) (s : Statement) :
    (s.data p).length = s.dataWidth := by
  cases s <;> simp [data, dataWidth]

theorem toNat_operation_push {width? : Option Nat} {target : Target}
    (h : (Statement.push width? target).IsOperation) :
    (Statement.push width? target).operation.toNat =
      0x5f + (Statement.push width? target).dataWidth := by
  have hle := h.2
  rw [Statement.operation, UInt8.toNat_ofNat']
  omega

theorem Statement.IsOperation.dataWidth {s : Statement} (h : s.IsOperation) :
    Opcode.dataWidth s.operation = s.dataWidth := by
  cases s with
  | label name => exact Opcode.dataWidth_byte .jumpdest
  | plain op => exact (Opcode.dataWidth_byte op).trans h
  | push width? target =>
    obtain ⟨h₁, h₂⟩ := id h
    rw [Opcode.dataWidth, toNat_operation_push h, if_pos (by omega)]
    omega

theorem isWhole_parts {q : List Statement} (h : ∀ s ∈ q, s.IsOperation) :
    Code.IsWhole (q.map (Statement.parts p)) := by
  intro d hd
  obtain ⟨s, hs, rfl⟩ := List.mem_map.1 hd
  exact (Statement.length_data p s).trans (h s hs).dataWidth.symm

/-- An operation that stands on its own line is no push. -/
theorem Spells.width_plain {lines : List (List Char)} (h : Spells lines p) {op : Opcode}
    (hop : .plain op ∈ p) : op.width = 0 := by
  induction h with
  | nil => cases hop
  | skip _ _ ih => exact ih hop
  | cons hsays _ ih =>
    rcases List.mem_cons.1 hop with rfl | hop
    · generalize words (uncommented _) = ws at hsays
      cases hsays with
      | plain _ hwidth => exact hwidth
    · exact ih hop

/-- Whether every stated width is one that a push can have. -/
def StatedWidths (p : List Statement) : Prop :=
  ∀ n target, .push (some n) target ∈ p → n ∈ Set.Icc 1 32

/-- A number that fits its push has a width that a push can have. -/
theorem isOperation_of_fits (p : List Statement) (widths : Set Nat) {v : Int} {width? : Option Nat}
    (h : (Target.number v).Fits p widths width?) :
    (Statement.push width? (.number v)).IsOperation := by
  obtain ⟨h₀, h₁, hstated⟩ := h
  cases width? with
  | some n => exact (hstated n rfl).1
  | none =>
    have hword : v.toNat < 256 ^ 32 := by
      have hpow : (2 : Int) ^ (256 : Nat) = ((256 ^ 32 : Nat) : Int) := by norm_num
      omega
    have hwidth := Bytes.widthOf_le_iff.2 hword
    simp only [Statement.IsOperation, Statement.dataWidth]
    omega

theorem isOperation_of_admissible {lines : List (List Char)} {widths : Set Nat}
    (hp : Spells lines p) (hadm : Admissible widths p) (hw : StatedWidths p) :
    ∀ s ∈ p, s.IsOperation := by
  intro s hs
  have hfits := hadm.fits s hs
  cases s with
  | label => trivial
  | plain op => exact hp.width_plain hs
  | push width? target =>
    cases target with
    | number v => exact isOperation_of_fits p widths hfits
    | label name =>
      cases width? with
      | some n => exact hw n (.label name) hs
      | none => exact ⟨by simp [Statement.dataWidth], by simp [Statement.dataWidth]⟩

/-! Places. -/

/-- A label has its place where it is defined, if no label is defined twice. -/
theorem place?_append (before after : List Statement) (name : String)
    (h : (labelNames (before ++ .label name :: after)).Nodup) :
    place? name (before ++ .label name :: after) = some (before.map Statement.size).sum := by
  induction before with
  | nil => simp [place?]
  | cons s before ih =>
    have hmem : name ∈ labelNames (before ++ .label name :: after) := by
      clear h ih
      induction before with
      | nil => simp [labelNames]
      | cons s before ih => cases s <;> simp [labelNames, ih]
    have hne : s ≠ .label name := by
      rintro rfl
      rw [List.cons_append, labelNames, List.nodup_cons] at h
      exact h.1 hmem
    have hrest : (labelNames (before ++ .label name :: after)).Nodup := by
      cases s with
      | label => exact (List.nodup_cons.1 h).2
      | plain | push => exact h
    rw [List.cons_append, place?, if_neg hne, ih hrest]
    simp

theorem length_encode (p q : List Statement) :
    (q.flatMap (Statement.encode p)).length = (q.map Statement.size).sum := by
  rw [List.length_flatMap]
  simp only [Statement.length_encode]

/-- A label is a jump destination. -/
theorem isJumpDest_label {before after : List Statement} {name : String} {code : Code}
    (hp : p = before ++ .label name :: after) (hcode : code.bytes.toList = encode p)
    (hop : ∀ s ∈ p, s.IsOperation) :
    code.isJumpDest (before.map Statement.size).sum = true := by
  have hparts : p.map (Statement.parts p) =
      before.map (Statement.parts p) ++ (0x5b, []) :: after.map (Statement.parts p) := by
    conv_lhs => rw [hp]
    rw [List.map_append, List.map_cons, ← hp]
    rfl
  rw [← length_encode p, encode_eq_assembled]
  have hbytes : code.bytes.toList = Code.assembled (p.map (Statement.parts p)) := by
    rw [hcode, encode, encode_eq_assembled]
  exact Code.isJumpDest_of_whole (hparts ▸ hbytes) (hparts ▸ isWhole_parts hop)

/-- The width that a push is read back with: the stated one, or two bytes for a label and the least
that holds a number. -/
def IsWidth : Option Nat → Target → Nat → Prop
  | some n, _, w => w = n
  | none, .label _, w => w = 2
  | none, .number v, w => IsLeast {n | 1 ≤ n ∧ v.toNat < 256 ^ n} w

/-- The number that a push is read back with. -/
def IsTarget (p : List Statement) : Target → Nat → Prop
  | .label name, x => place? name p = some x
  | .number v, x => v = x

/-- What a statement of the program is read back as. -/
def Statement.IsReadAs (p : List Statement) : Statement → UInt8 × List UInt8 → Prop
  | .label _, d => d = (Opcode.jumpdest.byte, [])
  | .plain op, d => d = (op.byte, [])
  | .push width? target, d => d.1.toNat = 0x5f + d.2.length ∧ IsWidth width? target d.2.length ∧
      IsTarget p target (Bytes.toNat d.2.toArray)

theorem isWidth_dataWidth (width? : Option Nat) (target : Target) :
    IsWidth width? target (Statement.push width? target).dataWidth := by
  cases width? with
  | some n => rfl
  | none =>
    cases target with
    | label name => rfl
    | number v =>
      refine ⟨⟨le_max_left _ _, Bytes.widthOf_le_iff.1 (le_max_right _ _)⟩, ?_⟩
      rintro n ⟨hone, hn⟩
      exact max_le hone (Bytes.widthOf_le_iff.2 hn)

theorem isReadAs_parts {s : Statement} (hop : s.IsOperation) (hfits : s.Fits p {n | n ≤ 160}) :
    s.IsReadAs p (s.parts p) := by
  cases s with
  | label | plain => rfl
  | push width? target =>
    obtain ⟨-, hknown, -, hlt⟩ := Target.fits_iff.1 hfits
    have hvalue : Bytes.toNat ((Statement.push width? target).data p).toArray = target.value p := by
      simp only [Statement.data, Array.toArray_toList]
      rw [Bytes.toNat_ofNat, Nat.mod_eq_of_lt hlt]
    refine ⟨?_, ?_, ?_⟩
    · simpa [Statement.parts] using toNat_operation_push hop
    · simpa [Statement.parts] using isWidth_dataWidth width? target
    · simp only [Statement.parts, hvalue]
      cases target with
      | label name =>
        obtain ⟨place, hplace⟩ := Option.isSome_iff_exists.1 hknown
        simp [IsTarget, Target.value, hplace]
      | number v => exact (Int.toNat_of_nonneg hknown.1).symm

/-- Disassembling undoes assembling: an accepted text has one reading, and if the widths that it
states are those of pushes, its code is read back as these statements in their order. A label is
pushed as the place where it is defined, and a jump may lead there. -/
theorem disassemble_compile {source hex : String} (h : compile source = .ok hex) :
    ∃ p, (∀ q, Spells (Text.lines source.toList) q ↔ q = p) ∧
      (StatedWidths p → ∃ code, Bytes.ofHex hex = .ok code ∧
        List.Forall₂ (Statement.IsReadAs p) p (Code.disassemble code.toList) ∧
        ∀ before name after, p = before ++ .label name :: after →
          ∃ x, x = (before.map Statement.size).sum ∧ place? name p = some x ∧
            x ∈ (Code.ofBytes code).jumpDests) := by
  obtain ⟨code, hasm, rfl⟩ := compile_eq_ok_iff.1 h
  obtain ⟨p, hp, hadm, hcode⟩ := assemble_eq_ok_iff.1 hasm
  refine ⟨p, fun q => ⟨fun hq => hq.unique hp, fun hq => hq ▸ hp⟩, fun hw => ?_⟩
  have hop := isOperation_of_admissible hp hadm hw
  refine ⟨code, Bytes.ofHex_toHex code, ?_, ?_⟩
  · rw [hcode, encode, encode_eq_assembled, Code.disassemble_assembled (isWhole_parts hop),
      List.forall₂_map_right_iff, List.forall₂_same]
    exact fun s hs => isReadAs_parts (hop s hs) (hadm.fits s hs)
  · intro before name after hsplit
    refine ⟨_, rfl, ?_, ?_⟩
    · have hnodup := hadm.labels
      rw [hsplit] at hnodup ⊢
      exact place?_append before after name hnodup
    · have hdest : (Code.ofBytes code).isJumpDest (before.map Statement.size).sum = true :=
        isJumpDest_label hsplit (by rwa [Code.bytes_ofBytes]) hop
      refine List.mem_filter.2 ⟨List.mem_range.2 ?_, hdest⟩
      have hlength : code.size = (p.map Statement.size).sum := by
        rw [← length_encode p, ← Array.length_toList, hcode]
        rfl
      rw [Code.size, Code.bytes_ofBytes, hlength, hsplit]
      simp [Statement.size]

theorem disassemble_compile_label :
    compile "x:\nPUSH1 5\nPUSH @x" = .ok "5b6005610000" ∧
      StatedWidths [.label "x", .push (some 1) (.number 5), .push none (.label "x")] ∧
      ∃ code, Bytes.ofHex "5b6005610000" = .ok code ∧
        List.Forall₂
          (Statement.IsReadAs [.label "x", .push (some 1) (.number 5), .push none (.label "x")])
          [.label "x", .push (some 1) (.number 5), .push none (.label "x")]
          (Code.disassemble code.toList) ∧
        0 ∈ (Code.ofBytes code).jumpDests := by
  have hcompile : compile "x:\nPUSH1 5\nPUSH @x" = .ok "5b6005610000" := by decide +kernel
  have hlines : Text.lines "x:\nPUSH1 5\nPUSH @x".toList =
      ["x:".toList, "PUSH1 5".toList, "PUSH @x".toList] := by decide
  have hreading : Spells (Text.lines "x:\nPUSH1 5\nPUSH @x".toList)
      [.label "x", .push (some 1) (.number 5), .push none (.label "x")] := by
    have hone : Text.Decimal ['1'] 1 := ⟨.mk (d := 1) (by decide) (.done 1), by decide⟩
    have hfive : Text.Decimal ['5'] 5 := ⟨.mk (d := 5) (by decide) (.done 5), by decide⟩
    rw [hlines]
    have hlabel : IsLabelName ['x'] := ⟨by decide, by simp⟩
    have hsized : SaysPush "PUSH1".toList (some 1) :=
      .sized (d := ['1']) (by decide) (List.all_eq_true.1 (by decide)) hone
    have hbare : SaysPush "PUSH".toList none := .bare (by decide)
    exact .cons (.label hlabel) (.cons (.push hsized (.number (.plain hfive)))
      (.cons (.push hbare (.label ['x'])) .nil))
  have hwidths :
      StatedWidths [.label "x", .push (some 1) (.number 5), .push none (.label "x")] := by
    simp [StatedWidths]
  obtain ⟨p, hp, hread⟩ := disassemble_compile hcompile
  obtain rfl := (hp _).1 hreading
  obtain ⟨code, hcode, hall, hlabels⟩ := hread hwidths
  obtain ⟨x, rfl, -, hx⟩ := hlabels [] "x" _ rfl
  exact ⟨hcompile, hwidths, code, hcode, hall, hx⟩

end Assembly
end Gasometer
