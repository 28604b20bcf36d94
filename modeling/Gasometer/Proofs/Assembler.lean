import Gasometer.Proofs.AssemblyLanguage
import Gasometer.Proofs.ByteStrings
import Mathlib.Data.List.Forall2

/-!
# Assembled programs

What a text asks for can be assembled if its labels are distinct and every number and every place
of a label fits its push; the bytes are then those of the statements, one after the other. The two
passes of the assembler accept exactly these texts and write exactly these bytes.
-/
namespace Gasometer
open Text (upper words)

-- Powers are those of the core library, also where Mathlib offers its own.
attribute [local instance (high)] instPowNat

namespace Bytes

/-- A number needs no more bytes than it has room in. -/
theorem widthOf_le_iff {n w : Nat} : widthOf n ≤ w ↔ n < 256 ^ w := by
  have hpow : 256 ^ w = 2 ^ (8 * w) := by rw [Nat.pow_mul]
  unfold widthOf
  split_ifs with h
  · simp [h]
  · rw [hpow, ← Nat.log2_lt h]
    omega

theorem ofInt_eq_ok_iff {w : Nat} {n : Int} {bs : Bytes} :
    ofInt w n = .ok bs ↔ 0 ≤ n ∧ n.toNat < 256 ^ w ∧ bs = ofNat w n.toNat := by
  unfold ofInt
  split_ifs with hneg hbig
  · simp
    omega
  · rw [← widthOf_le_iff]
    simp
    omega
  · rw [← widthOf_le_iff]
    simp only [Except.ok.injEq]
    constructor
    · rintro rfl
      exact ⟨by omega, by omega, rfl⟩
    · exact fun h => h.2.2.symm

end Bytes

namespace Assembly

/-! What a program stands for. -/

def Statement.dataWidth : Statement → Nat
  | .label _ | .plain _ => 0
  | .push (some n) _ => n
  | .push none (.label _) => 2
  | .push none (.number v) => max 1 (Bytes.widthOf v.toNat)

def Statement.size (s : Statement) : Nat := 1 + s.dataWidth

def labelNames : List Statement → List String
  | [] => []
  | .label name :: p => name :: labelNames p
  | _ :: p => labelNames p

def place? (name : String) : List Statement → Option Nat
  | [] => none
  | s :: p => if s = .label name then some 0 else (place? name p).map (s.size + ·)

def Target.value (p : List Statement) : Target → Nat
  | .label name => (place? name p).getD 0
  | .number v => v.toNat

/-- Whether a push is possible. A label must be defined and its place must fit the width; the widths
that may be stated for it are given. A number must be a word and fit the width. -/
def Target.Fits (p : List Statement) (widths : Set Nat) (width? : Option Nat) : Target → Prop
  | .label name => (∀ n ∈ width?, n ∈ widths) ∧
      ∃ place, place? name p = some place ∧ place < 256 ^ width?.getD 2
  | .number v => 0 ≤ v ∧ v < 2 ^ (256 : Nat) ∧
      ∀ n ∈ width?, (1 ≤ n ∧ n ≤ 32) ∧ v.toNat < 256 ^ n

/-- Whether a statement is possible. -/
def Statement.Fits (p : List Statement) (widths : Set Nat) : Statement → Prop
  | .label _ | .plain _ => True
  | .push width? target => target.Fits p widths width?

/-- A program that can be assembled, if a push of a label may state one of these widths. -/
structure Admissible (widths : Set Nat) (p : List Statement) : Prop where
  labels : (labelNames p).Nodup
  fits : ∀ s ∈ p, s.Fits p widths

def Statement.operation : Statement → UInt8
  | .label _ => Opcode.jumpdest.byte
  | .plain op => op.byte
  | s@(.push _ _) => UInt8.ofNat (0x5f + s.dataWidth)

def Statement.data (p : List Statement) : Statement → List UInt8
  | .label _ | .plain _ => []
  | s@(.push _ target) => (Bytes.ofNat s.dataWidth (target.value p)).toList

def Statement.encode (p : List Statement) (s : Statement) : List UInt8 := s.operation :: s.data p

def encode (p : List Statement) : List UInt8 := p.flatMap (Statement.encode p)

@[simp] theorem Statement.length_encode (p : List Statement) (s : Statement) :
    (s.encode p).length = s.size := by
  cases s <;> simp [encode, data, size, dataWidth, Nat.add_comm]

/-! Widths and sizes. -/

variable {α β : Type}

theorem bind_eq_ok {x : Except AssemblyError α} {f : α → Except AssemblyError β} {y : β} :
    (x >>= f) = .ok y ↔ ∃ v, x = .ok v ∧ f v = .ok y := by
  cases x <;> simp [bind, Except.bind]

theorem map_eq_ok {x : Except AssemblyError α} {f : α → β} {y : β} :
    x.map f = .ok y ↔ ∃ v, x = .ok v ∧ f v = y := by
  cases x <;> simp [Except.map]

theorem mapError_eq_ok {ε : Type} {x : Except ε α} {f : ε → AssemblyError} {y : α} :
    x.mapError f = .ok y ↔ x = .ok y := by
  cases x <;> simp [Except.mapError]

/-- Whether the width of a push can be told without the places of the labels. -/
def Target.IsSized (width? : Option Nat) : Target → Prop
  | .label _ => True
  | .number v => match width? with
    | some n => 1 ≤ n ∧ n ≤ 32
    | none => 0 ≤ v ∧ v < 2 ^ (256 : Nat)

/-- Whether the size of a statement can be told without the places of the labels. -/
def Statement.IsSized : Statement → Prop
  | .label _ | .plain _ => True
  | .push width? target => target.IsSized width?

/-- The width of a push, and when it is told. -/
theorem pushWidth_eq_ok_iff {width : String} {o : Operand} {width? : Option Nat} {t : Target}
    (hw : WidthMeans width width?) (ho : o.Means t) {w : Int} :
    pushWidth width o = .ok w ↔ t.IsSized width? ∧ w = (Statement.push width? t).dataWidth := by
  cases ho with
  | label name =>
    cases hw with
    | missing h =>
      simp [pushWidth, h, Target.IsSized, labelWidth, Statement.dataWidth, eq_comm]
    | stated hne h =>
      simp [pushWidth, hne, h, Target.IsSized, Statement.dataWidth, eq_comm]
  | @literal text v hv =>
    cases hw with
    | missing h =>
      simp only [pushWidth, h, if_pos, Target.IsSized, Statement.dataWidth, bind_eq_ok]
      constructor
      · rintro ⟨i, hi, hpure⟩
        obtain ⟨hnum, hrange⟩ := literalValue_eq_ok_iff.1 hi
        obtain rfl := Except.ok.inj (hv.symm.trans hnum)
        cases hpure
        exact ⟨hrange, rfl⟩
      · rintro ⟨hrange, rfl⟩
        exact ⟨v, literalValue_eq_ok_iff.2 ⟨hv, hrange⟩, rfl⟩
    | @stated n hne h =>
      simp only [pushWidth, if_neg hne, h, Target.IsSized, Statement.dataWidth, bind_eq_ok]
      constructor
      · rintro ⟨i, hi, hn⟩
        cases hi
        split_ifs at hn with hrange
        cases hn
        exact ⟨by omega, rfl⟩
      · rintro ⟨hrange, rfl⟩
        refine ⟨n, rfl, ?_⟩
        rw [if_pos (by omega)]
        rfl

theorem size_eq_ok {i : Instruction} {s : Statement} (hs : i.Means s)
    (hsized : s.IsSized) : i.size = .ok (s.size : Int) := by
  cases hs with
  | label | plain => rfl
  | push hw ho =>
    rw [Instruction.size, (pushWidth_eq_ok_iff hw ho).2 ⟨hsized, rfl⟩]
    simp [Except.map, Statement.size]

/-! Writing a line. -/

variable {p : List Statement} {labels : Labels}

def Places (p : List Statement) (labels : Labels) : Prop :=
  ∀ name, labels.lookup name = (place? name p).map fun k => (k : Int)

def Target.IsKnown (p : List Statement) : Target → Prop
  | .label name => (place? name p).isSome
  | .number v => 0 ≤ v ∧ v < 2 ^ (256 : Nat)

theorem operandValue_eq_ok_iff (hp : Places p labels) {n : Nat} {o : Operand} {t : Target}
    (ho : o.Means t) {x : Int} :
    operandValue labels n o = .ok x ↔ t.IsKnown p ∧ x = t.value p := by
  cases ho with
  | label name =>
    rw [operandValue, hp name]
    cases h : place? name p <;> simp [Target.IsKnown, Target.value, h, eq_comm]
  | @literal text v hv =>
    rw [operandValue, literalValue_eq_ok_iff, hv]
    constructor
    · rintro ⟨h, hrange⟩
      obtain rfl := Except.ok.inj h
      exact ⟨hrange, by simp only [Target.value]; omega⟩
    · rintro ⟨hrange, rfl⟩
      have hx : (v.toNat : Int) = v := Int.toNat_of_nonneg hrange.1
      rw [Target.value, hx]
      exact ⟨rfl, hrange⟩

theorem pushByte_eq_ok_iff {w : Nat} {b : UInt8} :
    pushByte w = .ok b ↔ w ≤ 160 ∧ b = UInt8.ofNat (0x5f + w) := by
  have hnat : (0x5f + (w : Int)).toNat = 0x5f + w := by omega
  unfold pushByte
  dsimp only
  split_ifs with h
  · simp only [Except.ok.injEq, hnat]
    constructor
    · rintro rfl
      exact ⟨by omega, rfl⟩
    · exact fun h => h.2.symm
  · simp
    omega

/-- A push is possible if its width is told, its number is known, and both are small enough. -/
theorem Target.fits_iff {width? : Option Nat} {t : Target} :
    t.Fits p {n | n ≤ 160} width? ↔
      t.IsSized width? ∧ t.IsKnown p ∧ (Statement.push width? t).dataWidth ≤ 160 ∧
        t.value p < 256 ^ (Statement.push width? t).dataWidth := by
  cases t with
  | label name =>
    cases h : place? name p <;> cases width? <;>
      simp [Target.Fits, Target.IsSized, Target.IsKnown, Target.value, Statement.dataWidth, h]
  | number v =>
    simp only [Target.Fits, Target.IsSized, Target.IsKnown, Target.value]
    cases width? with
    | some n =>
      simp only [Statement.dataWidth, Option.mem_def, Option.some.injEq, forall_eq']
      constructor
      · rintro ⟨h₀, h₁, hn, hv⟩
        exact ⟨hn, ⟨h₀, h₁⟩, by omega, hv⟩
      · rintro ⟨hn, ⟨h₀, h₁⟩, -, hv⟩
        exact ⟨h₀, h₁, hn, hv⟩
    | none =>
      constructor
      · rintro ⟨h₀, h₁, -⟩
        have hword : v.toNat < 256 ^ 32 := by
          have hpow : (2 : Int) ^ (256 : Nat) = ((256 ^ 32 : Nat) : Int) := by norm_num
          omega
        have hwidth := Bytes.widthOf_le_iff.2 hword
        refine ⟨⟨h₀, h₁⟩, ⟨h₀, h₁⟩, ?_, ?_⟩
        · simp only [Statement.dataWidth]
          omega
        · exact Bytes.widthOf_le_iff.1 (le_max_right _ _)
      · rintro ⟨⟨h₀, h₁⟩, -⟩
        exact ⟨h₀, h₁, by simp⟩

/-- A line is written if and only if it is possible, and then as its statement is encoded. -/
theorem emitLine_eq_ok_iff (hp : Places p labels) {line : Line} {s : Statement}
    (hs : line.instruction.Means s) {bs : Bytes} :
    emitLine labels line = .ok bs ↔ s.Fits p {n | n ≤ 160} ∧ bs.toList = s.encode p := by
  have hlist : ∀ b : UInt8, #[b] = bs ↔ bs.toList = [b] := by
    intro b
    rw [← Array.toList_inj, eq_comm]
  obtain ⟨n, i⟩ := line
  cases hs with
  | label name =>
    simp [emitLine, Statement.Fits, Statement.encode, Statement.operation, Statement.data, hlist]
  | plain op =>
    simp [emitLine, Statement.Fits, Statement.encode, Statement.operation, Statement.data, hlist]
  | @push width o width? t hw ho =>
    rw [Statement.Fits, Target.fits_iff]
    simp only [emitLine, bind_eq_ok, pushWidth_eq_ok_iff hw ho, operandValue_eq_ok_iff hp ho]
    constructor
    · rintro ⟨w, ⟨hsized, rfl⟩, x, ⟨hknown, rfl⟩, b, hb, data, hdata, hpure⟩
      obtain ⟨hw160, rfl⟩ := pushByte_eq_ok_iff.1 hb
      rw [Int.toNat_natCast, mapError_eq_ok] at hdata
      obtain ⟨-, hlt, rfl⟩ := Bytes.ofInt_eq_ok_iff.1 hdata
      cases hpure
      exact ⟨⟨hsized, hknown, hw160, hlt⟩, by
        simp [Statement.encode, Statement.operation, Statement.data]⟩
    · rintro ⟨⟨hsized, hknown, hw160, hlt⟩, hbytes⟩
      refine ⟨_, ⟨hsized, rfl⟩, _, ⟨hknown, rfl⟩, _, pushByte_eq_ok_iff.2 ⟨hw160, rfl⟩,
        Bytes.ofNat (Statement.push width? t).dataWidth (t.value p), ?_, ?_⟩
      · rw [Int.toNat_natCast, mapError_eq_ok]
        exact Bytes.ofInt_eq_ok_iff.2 ⟨Int.natCast_nonneg (t.value p), hlt, rfl⟩
      · refine congrArg Except.ok (Array.toList_inj.1 ?_)
        rw [hbytes]
        simp [Statement.encode, Statement.operation, Statement.data]

/-! The two passes. -/

/-- What the lines ask for, with sizes that can be told. -/
def Asks (ls : List Line) (p : List Statement) : Prop :=
  List.Forall₂ (fun l s => l.instruction.Means s ∧ s.IsSized) ls p

theorem asks_iff {ls : List Line} :
    Asks ls p ↔
      List.Forall₂ (fun l s => l.instruction.Means s) ls p ∧ ∀ s ∈ p, s.IsSized := by
  constructor
  · intro h
    refine ⟨h.imp fun _ _ hl => hl.1, ?_⟩
    induction h with
    | nil => simp
    | cons hl _ ih => simpa using ⟨hl.2, ih⟩
  · rintro ⟨h, hsized⟩
    induction h with
    | nil => exact .nil
    | cons hl _ ih => exact .cons ⟨hl, hsized _ (by simp)⟩ (ih fun s hs => hsized s (by simp [hs]))

/-- The labels that a layout finds have the places of a program laid out from there. -/
theorem lookup_layOut {ls : List Line} (h : Asks ls p) {place : Nat} {labels' : Labels}
    (hok : layOut labels place ls = .ok labels') (name : String) :
    labels'.lookup name =
      (labels.lookup name).or ((place? name p).map fun k => ((place + k : Nat) : Int)) := by
  induction h generalizing labels place with
  | nil =>
    cases hok
    simp [place?]
  | @cons l s ls p hl _ ih =>
    obtain ⟨n, i⟩ := l
    obtain ⟨hmeans, hsized⟩ := hl
    have hstep : ∀ {labels : Labels} (size : Nat), size = s.size →
        layOut labels ((place : Int) + (size : Int)) ls = .ok labels' →
        labels'.lookup name = (labels.lookup name).or
          ((place? name p).map fun k => ((place + (s.size + k) : Nat) : Int)) := by
      rintro labels size rfl hrest
      rw [← Int.natCast_add] at hrest
      rw [ih hrest]
      simp only [Nat.add_assoc]
    cases hmeans with
    | label name' =>
      rw [layOut] at hok
      split_ifs at hok with hdefined
      have hrest := hstep 1 rfl hok
      rw [hrest, List.lookup_cons, place?]
      have hnone : labels.lookup name' = none := Option.not_isSome_iff_eq_none.1 hdefined
      by_cases hname : name = name'
      · subst hname
        simp [hnone]
      · have hne : (Statement.label name') ≠ .label name := by
          rintro ⟨⟩
          exact hname rfl
        have hfalse : (name == name') = false := by simpa using hname
        simp [hfalse, hne, Option.map_map, Function.comp_def]
    | plain op =>
      obtain ⟨size, hsize, hrest⟩ := bind_eq_ok.1 hok
      rw [size_eq_ok (.plain op) hsized] at hsize
      cases hsize
      rw [hstep _ rfl hrest, place?, if_neg (by simp)]
      simp [Option.map_map, Function.comp_def]
    | push hw ho =>
      obtain ⟨size, hsize, hrest⟩ := bind_eq_ok.1 hok
      rw [size_eq_ok (.push hw ho) hsized] at hsize
      cases hsize
      rw [hstep _ rfl hrest, place?, if_neg (by simp)]
      simp [Option.map_map, Function.comp_def]

/-- A layout succeeds if and only if every label is new. -/
theorem layOut_ok_iff {ls : List Line} (h : Asks ls p) (labels : Labels) (place : Nat) :
    (∃ labels', layOut labels place ls = .ok labels') ↔
      (labelNames p).Nodup ∧ ∀ name ∈ labelNames p, labels.lookup name = none := by
  induction h generalizing labels place with
  | nil => simp [layOut, labelNames]
  | @cons l s ls p hl _ ih =>
    obtain ⟨n, i⟩ := l
    obtain ⟨hmeans, hsized⟩ := hl
    cases hmeans with
    | label name =>
      have hplace : ((place : Int) + 1) = ((place + 1 : Nat) : Int) := by simp
      rw [layOut, labelNames, hplace]
      cases hdefined : labels.lookup name with
      | some found =>
        rw [Option.isSome_some, if_pos rfl]
        constructor
        · rintro ⟨labels', h⟩
          cases h
        · rintro ⟨-, hnew⟩
          rw [hnew name (by simp)] at hdefined
          cases hdefined
      | none =>
        rw [Option.isSome_none, if_neg (by simp), ih, List.nodup_cons]
        simp only [List.mem_cons, forall_eq_or_imp, hdefined, true_and, List.lookup_cons]
        grind
    | plain op =>
      have hlay : layOut labels place (⟨n, .plain op⟩ :: ls) =
          layOut labels ((place + (Statement.plain op).size : Nat) : Int) ls := by
        rw [Int.natCast_add]
        rfl
      rw [hlay, ih, labelNames]
      simp
    | @push width o width? t hw ho =>
      have hsize := size_eq_ok (.push hw ho) hsized
      have hlay : layOut labels place (⟨n, .push width o⟩ :: ls) =
          layOut labels ((place + (Statement.push width? t).size : Nat) : Int) ls := by
        rw [Int.natCast_add, layOut, hsize]
        · rfl
        · simp
      rw [hlay, ih, labelNames]
      simp

/-- Lines are written one after the other. -/
theorem emit_eq_ok_iff {ls : List Line} {code : Bytes} :
    emit labels ls = .ok code ↔
      ∃ bss, List.Forall₂ (fun l bs => emitLine labels l = .ok bs) ls bss ∧
        code.toList = bss.flatMap Array.toList := by
  have hfold : ∀ done : Bytes,
      ls.foldlM (fun done line => (emitLine labels line).map (done ++ ·)) done = .ok code ↔
        ∃ bss, List.Forall₂ (fun l bs => emitLine labels l = .ok bs) ls bss ∧
          code.toList = done.toList ++ bss.flatMap Array.toList := by
    induction ls with
    | nil =>
      intro done
      constructor
      · rintro ⟨⟩
        exact ⟨[], .nil, by simp⟩
      · rintro ⟨bss, hbss, hcode⟩
        cases hbss
        exact congrArg Except.ok (Array.toList_inj.1 (by simpa using hcode.symm))
    | cons l ls ih =>
      intro done
      rw [List.foldlM_cons, bind_eq_ok]
      constructor
      · rintro ⟨next, hnext, hrest⟩
        obtain ⟨bs, hbs, rfl⟩ := map_eq_ok.1 hnext
        obtain ⟨bss, hbss, hcode⟩ := (ih _).1 hrest
        exact ⟨bs :: bss, .cons hbs hbss, by simpa using hcode⟩
      · rintro ⟨bss, hbss, hcode⟩
        cases hbss with
        | @cons _ bs _ bss hbs hbss =>
          exact ⟨done ++ bs, map_eq_ok.2 ⟨bs, hbs, rfl⟩, (ih _).2 ⟨bss, hbss, by simpa using hcode⟩⟩
  exact (hfold #[]).trans (by simp)

theorem isDigit_of_instructionOf {n : Nat} {w : List Char} {operands : List (List Char)}
    {width : String} {o : Operand} (h : instructionOf n w operands = .ok (.push width o)) :
    width.toList.all Char.isDigit = true := by
  unfold instructionOf at h
  split at h
  next d operand hd =>
    cases h
    rw [String.toList_ofList]
    exact List.all_eq_true.2 (pushWidth?_eq_some_iff.1 hd).2
  next => cases h
  next => cases h
  next =>
    split at h
    · cases h
    · cases h

/-- The widths of pushes that were read are digits. -/
theorem isDigit_of_readLines {n : Nat} {lines : List (List Char)} {ls : List Line}
    (h : readLines n lines = .ok ls) {l : Line} (hl : l ∈ ls) {width : String} {o : Operand}
    (hpush : l.instruction = .push width o) : width.toList.all Char.isDigit = true := by
  induction lines generalizing n ls with
  | nil =>
    cases h
    cases hl
  | cons line lines ih =>
    rw [readLines] at h
    split at h
    · cases h
    · exact ih h hl
    · rename_i l' hline
      obtain ⟨rest, hrest, rfl⟩ := map_eq_ok.1 h
      rcases List.mem_cons.1 hl with rfl | hl
      · -- The width was found in the mnemonic of this line.
        unfold readLine at hline
        dsimp only at hline
        split at hline
        · cases hline
          cases hpush
        · cases hline
        · obtain ⟨i, hi, hli⟩ := map_eq_ok.1 hline
          cases hli
          obtain rfl : i = .push width o := hpush
          exact isDigit_of_instructionOf hi
      · exact ih hrest hl

/-- A line that can be written asks for something. -/
theorem means_of_emitLine {line : Line} {bs : Bytes} (h : emitLine labels line = .ok bs)
    (hwidth : ∀ width o, line.instruction = .push width o → width.toList.all Char.isDigit = true) :
    ∃ s, line.instruction.Means s ∧ s.IsSized := by
  obtain ⟨n, i⟩ := line
  cases i with
  | label name => exact ⟨_, .label name, trivial⟩
  | plain op => exact ⟨_, .plain op, trivial⟩
  | push width o =>
    obtain ⟨w, hw, h⟩ := bind_eq_ok.1 h
    obtain ⟨x, hx, -⟩ := bind_eq_ok.1 h
    have hstated : ∀ {i : Int}, width ≠ "" → number .ten width = .ok i →
        ∃ k : Nat, WidthMeans width (some k) ∧ i = k := by
      intro i hne hnum
      have hnum' := hnum
      rw [← String.ofList_toList (s := width)] at hnum'
      obtain ⟨k, -, rfl⟩ := (number_width_eq_ok_iff (hwidth _ _ rfl)).1 hnum'
      exact ⟨k, .stated hne hnum, rfl⟩
    cases o with
    | label name =>
      by_cases hempty : width = ""
      · exact ⟨_, .push (.missing hempty) (.label name), trivial⟩
      · rw [pushWidth, if_neg hempty] at hw
        obtain ⟨k, hk, -⟩ := hstated hempty hw
        exact ⟨_, .push hk (.label name), trivial⟩
    | literal text =>
      obtain ⟨hnum, hrange⟩ := literalValue_eq_ok_iff.1 hx
      by_cases hempty : width = ""
      · exact ⟨_, .push (.missing hempty) (.literal hnum), hrange⟩
      · rw [pushWidth, if_neg hempty] at hw
        obtain ⟨i, hi, hrest⟩ := bind_eq_ok.1 hw
        obtain ⟨k, hk, rfl⟩ := hstated hempty hi
        split_ifs at hrest with hk32
        exact ⟨_, .push hk (.literal hnum), by
          simp only [Statement.IsSized, Target.IsSized]
          omega⟩

theorem Statement.Fits.isSized {s : Statement} {widths : Set Nat} (h : s.Fits p widths) :
    s.IsSized := by
  cases s with
  | label | plain => trivial
  | push width? target =>
    cases target with
    | label => trivial
    | number v =>
      obtain ⟨h₀, h₁, hn⟩ := h
      cases width? with
      | none => exact ⟨h₀, h₁⟩
      | some n => exact (hn n rfl).1

/-- Lines are written if and only if what they ask for is possible. -/
theorem emit_eq_ok_iff_fits (hp : Places p labels) {ls : List Line} {q : List Statement}
    (hq : Asks ls q) {code : Bytes} :
    emit labels ls = .ok code ↔
      (∀ s ∈ q, s.Fits p {n | n ≤ 160}) ∧ code.toList = q.flatMap (Statement.encode p) := by
  rw [emit_eq_ok_iff]
  generalize code.toList = x
  induction hq generalizing x with
  | nil =>
    constructor
    · rintro ⟨bss, hbss, hx⟩
      cases hbss
      exact ⟨by simp, hx⟩
    · rintro ⟨-, hx⟩
      exact ⟨[], .nil, hx⟩
  | @cons l s ls q hl _ ih =>
    have hline : ∀ bs, emitLine labels l = .ok bs ↔
        s.Fits p {n | n ≤ 160} ∧ bs.toList = s.encode p := fun _ => emitLine_eq_ok_iff hp hl.1
    constructor
    · rintro ⟨bss, hbss, rfl⟩
      cases hbss with
      | cons hbs hbss =>
        obtain ⟨hfits, hbytes⟩ := (hline _).1 hbs
        obtain ⟨hrest, hx⟩ := (ih _).1 ⟨_, hbss, rfl⟩
        refine ⟨by simpa using ⟨hfits, hrest⟩, ?_⟩
        rw [List.flatMap_cons, List.flatMap_cons, hbytes, hx]
    · rintro ⟨hfits, rfl⟩
      obtain ⟨bss, hbss, hx⟩ := (ih _).2 ⟨fun s hs => hfits s (by simp [hs]), rfl⟩
      refine ⟨(s.encode p).toArray :: bss, .cons ((hline _).2 ⟨hfits s (by simp), rfl⟩) hbss, ?_⟩
      rw [List.flatMap_cons, List.flatMap_cons, hx]

theorem places_of_layout {ls : List Line} (h : Asks ls p) (hlabels : layout ls = .ok labels) :
    Places p labels := by
  intro name
  rw [lookup_layOut h hlabels name]
  cases place? name p <;> simp

/-- A text is assembled if and only if it asks for a program that is possible, with up to 160 bytes
for a label that is pushed, and then the bytes are those of the program. -/
theorem assemble_eq_ok_iff {source : String} {code : Bytes} :
    assemble source = .ok code ↔
      ∃ p, Spells (Text.lines source.toList) p ∧ Admissible {n | n ≤ 160} p ∧
        code.toList = encode p := by
  constructor
  · intro h
    obtain ⟨ls, hls, h⟩ := bind_eq_ok.1 h
    obtain ⟨labels, hlabels, hemit⟩ := bind_eq_ok.1 h
    obtain ⟨p, hp⟩ : ∃ p, Asks ls p := by
      obtain ⟨bss, hbss, -⟩ := emit_eq_ok_iff.1 hemit
      have hdigits : ∀ l ∈ ls, ∀ width o, l.instruction = .push width o →
          width.toList.all Char.isDigit = true := fun _ hl _ _ => isDigit_of_readLines hls hl
      clear hls hlabels hemit h
      induction hbss with
      | nil => exact ⟨[], .nil⟩
      | cons hbs _ ih =>
        obtain ⟨s, hs⟩ := means_of_emitLine hbs (hdigits _ (by simp))
        obtain ⟨p, hp⟩ := ih fun l hl => hdigits l (by simp [hl])
        exact ⟨s :: p, .cons hs hp⟩
    obtain ⟨hfits, hcode⟩ := (emit_eq_ok_iff_fits (places_of_layout hp hlabels) hp).1 hemit
    have hnodup := ((layOut_ok_iff hp [] 0).1 ⟨labels, hlabels⟩).1
    exact ⟨p, spells_iff.2 ⟨ls, hls, (asks_iff.1 hp).1⟩, ⟨hnodup, hfits⟩, hcode⟩
  · rintro ⟨p, hspells, hadm, hcode⟩
    obtain ⟨ls, hls, hmeans⟩ := spells_iff.1 hspells
    have hp : Asks ls p := asks_iff.2 ⟨hmeans, fun s hs => (hadm.fits s hs).isSized⟩
    obtain ⟨labels, hlabels⟩ := (layOut_ok_iff hp [] 0).2 ⟨hadm.labels, by simp⟩
    have hemit := (emit_eq_ok_iff_fits (places_of_layout hp hlabels) hp).2 ⟨hadm.fits, hcode⟩
    exact bind_eq_ok.2 ⟨ls, hls, bind_eq_ok.2 ⟨labels, hlabels, hemit⟩⟩

/-! The language. -/

/-- Texts that ask for a possible program. The widths that may be stated for a label are given. -/
def InLanguage (widths : Set Nat) (source : String) : Prop :=
  ∃ p, Spells (Text.lines source.toList) p ∧ Admissible widths p

theorem compile_eq_ok_iff {source hex : String} :
    compile source = .ok hex ↔ ∃ code, assemble source = .ok code ∧ hex = code.toHex := by
  unfold compile
  cases assemble source <;> simp [eq_comm]

theorem compile_ok_iff {source : String} :
    (∃ hex, compile source = .ok hex) ↔ InLanguage {n | n ≤ 160} source := by
  simp only [compile_eq_ok_iff, assemble_eq_ok_iff]
  constructor
  · rintro ⟨-, -, ⟨p, hp, hadm, -⟩, -⟩
    exact ⟨p, hp, hadm⟩
  · rintro ⟨p, hp, hadm⟩
    exact ⟨_, (encode p).toArray, ⟨p, hp, hadm, rfl⟩, rfl⟩

theorem Admissible.mono {widths widths' : Set Nat}
    (hsub : ∀ n name, .push (some n) (.label name) ∈ p → n ∈ widths → n ∈ widths')
    (h : Admissible widths p) : Admissible widths' p := by
  refine ⟨h.labels, fun s hs => ?_⟩
  have hfits := h.fits s hs
  cases s with
  | label | plain => trivial
  | push width? target =>
    cases target with
    | number v => exact hfits
    | label name =>
      refine ⟨fun n hn => ?_, hfits.2⟩
      obtain rfl := hn
      exact hsub n name hs (hfits.1 n rfl)

/-- A text is compiled if and only if it is in the language that allows a pushed label up to 160
bytes, and is refused with a report that carries it otherwise. Where every width stated for a label
is one from 1 to 32, these are the texts of the language with the same widths for labels as for
numbers. -/
theorem compile_accepts_language (source : String) :
    ((∃ hex, compile source = .ok hex) ↔ InLanguage {n | n ≤ 160} source) ∧
      (¬ InLanguage {n | n ≤ 160} source →
        ∃ e, compile source = .error e ∧ e.source = source ∧ e.cause.isSome) ∧
      ((∀ p, Spells (Text.lines source.toList) p →
          ∀ n name, .push (some n) (.label name) ∈ p → n ∈ Set.Icc 1 32) →
        ((∃ hex, compile source = .ok hex) ↔ InLanguage (Set.Icc 1 32) source)) := by
  refine ⟨compile_ok_iff, fun hnot => ?_, fun hwidths => ?_⟩
  · rw [← compile_ok_iff] at hnot
    cases h : compile source with
    | ok hex => exact absurd ⟨hex, h⟩ hnot
    | error e =>
      refine ⟨e, rfl, ?_⟩
      unfold compile at h
      cases hasm : assemble source with
      | ok code => simp [hasm] at h
      | error cause =>
        obtain rfl := by simpa [hasm] using h
        exact ⟨rfl, rfl⟩
  · rw [compile_ok_iff]
    constructor
    · rintro ⟨p, hp, hadm⟩
      exact ⟨p, hp, hadm.mono fun n name hn _ => hwidths p hp n name hn⟩
    · rintro ⟨p, hp, hadm⟩
      refine ⟨p, hp, hadm.mono fun n name _ hn => ?_⟩
      exact hn.2.trans (by decide)

/-- The width of a pushed label is not checked as that of a number is: `PUSH33` of a label is
compiled, to the byte of another operation with data after it. -/
theorem compile_push33_label :
    compile "x:\nPUSH33 @x" = .ok ("5b80" ++ String.ofList (List.replicate 66 '0')) ∧
      ¬ InLanguage (Set.Icc 1 32) "x:\nPUSH33 @x" := by
  refine ⟨by decide +kernel, ?_⟩
  rintro ⟨p, hp, hadm⟩
  have hlines : Text.lines "x:\nPUSH33 @x".toList = ["x:".toList, "PUSH33 @x".toList] := by decide
  have hreading : Spells (Text.lines "x:\nPUSH33 @x".toList)
      [.label "x", .push (some 33) (.label "x")] := by
    rw [hlines]
    have hlabel : IsLabelName ['x'] := ⟨by decide, by simp⟩
    have hwidth : Text.Decimal ['3', '3'] 33 :=
      ⟨.mk (d := 3) (by decide) (.digit (d := 3) (by decide) (.done 33)), by decide⟩
    have hpush : SaysPush "PUSH33".toList (some 33) :=
      .sized (d := ['3', '3']) (by decide) (List.all_eq_true.1 (by decide)) hwidth
    exact .cons (.label hlabel) (.cons (.push hpush (.label ['x'])) .nil)
  obtain rfl := hp.unique hreading
  exact absurd ((hadm.fits (.push (some 33) (.label "x")) (by simp)).1 33 rfl) (by simp)

end Assembly
end Gasometer
