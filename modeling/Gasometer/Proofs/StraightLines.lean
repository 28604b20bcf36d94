import Gasometer.Proofs.Disassembly
import Gasometer.Proofs.Trails

/-!
# Straight-line programs

Statements in a row that push numbers and run plain operations do to the stack what can be read off
the statements, wherever they stand in a program: they need so many items, and what lies beneath
these stays as it was. The first frame of a run that ends without a halt goes through all of them in
their order.
-/
namespace Gasometer
open Assembly

-- Powers are those of the core library, also where Mathlib offers its own.
attribute [local instance (high)] instPowNat

namespace Assembly

variable {p before after q r : List Statement} {s : Statement} {code : Code}

def span (q : List Statement) : Nat := (q.map Statement.size).sum

@[simp] theorem span_nil : span [] = 0 := rfl

@[simp] theorem span_cons (s : Statement) (q : List Statement) :
    span (s :: q) = s.size + span q := by
  simp [span]

@[simp] theorem span_append (q r : List Statement) : span (q ++ r) = span q + span r := by
  simp [span]

def walk (place : Nat) : List Statement → List (Nat × UInt8)
  | [] => []
  | s :: q => (place, s.operation) :: walk (place + s.size) q

theorem walk_append (place : Nat) (q r : List Statement) :
    walk place (q ++ r) = walk place q ++ walk (place + span q) r := by
  induction q generalizing place with
  | nil => rfl
  | cons s q ih => simp [walk, ih, Nat.add_assoc]

/-- A place on the way is one of the statements. -/
theorem mem_walk {place : Nat} {v : Nat × UInt8} (h : v ∈ walk place q) :
    place ≤ v.1 ∧ v.1 < place + span q := by
  induction q generalizing place with
  | nil => cases h
  | cons s q ih =>
    have hsize : 0 < s.size := Nat.add_pos_left Nat.one_pos _
    rw [span_cons]
    rcases List.mem_cons.1 h with rfl | h
    · dsimp only
      omega
    · have := ih h
      omega

theorem toList_code (hcode : code.bytes.toList = encode p) (hp : p = before ++ s :: after) :
    code.bytes.toList = before.flatMap (Statement.encode p) ++ s.operation :: (s.data p ++
      after.flatMap (Statement.encode p)) := by
  rw [hcode]
  conv_lhs => rw [encode, hp, List.flatMap_append, List.flatMap_cons]
  rw [← hp, Statement.encode, List.cons_append]

/-- The operation of a statement stands at its place. -/
theorem byte_at (hcode : code.bytes.toList = encode p) (hp : p = before ++ s :: after) :
    code.bytes[span before]? = some s.operation := by
  rw [← Array.getElem?_toList, toList_code hcode hp, span, ← length_encode p]
  simp

/-- The data of a statement follow its operation. -/
theorem data_at (hcode : code.bytes.toList = encode p) (hp : p = before ++ s :: after) :
    code.bytes.extract (span before + 1) (span before + 1 + s.dataWidth) = (s.data p).toArray := by
  have hsplit : code.bytes.toList = (before.flatMap (Statement.encode p) ++ [s.operation]) ++
      (s.data p ++ after.flatMap (Statement.encode p)) := by
    simpa using toList_code hcode hp
  have hstart : span before + 1 =
      (before.flatMap (Statement.encode p) ++ [s.operation]).length := by
    rw [List.length_append, length_encode]
    rfl
  rw [← Array.toList_inj, Array.toList_extract, hsplit, List.extract_eq_take_drop, hstart,
    List.drop_left, Nat.add_sub_cancel_left, ← Statement.length_data p s, List.take_left]

/-- The operation of a push that a push can have. -/
theorem operation_push {width? : Option Nat} {target : Target}
    (h : (Statement.push width? target).IsOperation) :
    ∃ n : Fin 32, n.val + 1 = (Statement.push width? target).dataWidth ∧
      (Statement.push width? target).operation = (Opcode.push n).byte := by
  obtain ⟨h₁, h₂⟩ := id h
  refine ⟨⟨(Statement.push width? target).dataWidth - 1, by omega⟩, by simp; omega, ?_⟩
  rw [Statement.operation, Opcode.byte, Opcode.code]
  congr 1
  simp
  omega

/-- The data of a push that fits spell what it puts on the stack. -/
theorem toNat_data {width? : Option Nat} {target : Target} {widths : Set Nat}
    (h : target.Fits p widths width?) :
    Bytes.toNat ((Statement.push width? target).data p).toArray = target.value p := by
  simp only [Statement.data, Array.toArray_toList]
  rw [Bytes.toNat_ofNat, Nat.mod_eq_of_lt]
  cases target with
  | label name =>
    obtain ⟨-, place, hplace, hlt⟩ := h
    cases width? <;> simpa [Target.value, Statement.dataWidth, hplace] using hlt
  | number v =>
    obtain ⟨-, -, hlt⟩ := h
    cases width? with
    | some k => exact (hlt k rfl).2
    | none => exact Bytes.widthOf_le_iff.1 (le_max_right _ _)

/-- Statements that raise the stack from `n` items to `m`, and need no more than these. -/
inductive Raises : List Statement → Nat → Nat → Prop
  | nil (n : Nat) : Raises [] n n
  | push {width? : Option Nat} {target : Target} {q : List Statement} {n m : Nat}
    (h : Raises q (n + 1) m) : Raises (.push width? target :: q) n m
  | plain {op : Opcode} {info : OpcodeInfo} {q : List Statement} {n m : Nat}
    (hinfo : op.info? = some info) (hplain : op.IsPlain) (h : Raises q (info.outputs + n) m) :
    Raises (.plain op :: q) (info.inputs + n) m

theorem Raises.append {n m k : Nat} (h : Raises q n m) (h' : Raises r m k) :
    Raises (q ++ r) n k := by
  induction h with
  | nil => exact h'
  | push _ ih => exact .push (ih h')
  | plain hinfo hplain _ ih => exact .plain hinfo hplain (ih h')

/-! Segments. -/

/-- A statement that means the same in every program: an operation, or the push of a number. -/
def Statement.IsInline : Statement → Prop
  | .label _ | .push _ (.label _) => False
  | .plain op => op.width = 0
  | .push width? (.number v) => (Target.number v).Fits [] ∅ width?

namespace Statement.IsInline

theorem fits (h : s.IsInline) (p : List Statement) (widths : Set Nat) : s.Fits p widths := by
  cases s with
  | label | plain => trivial
  | push width? target =>
    cases target with
    | label => exact h.elim
    | number v => exact h

theorem isOperation (h : s.IsInline) : s.IsOperation := by
  cases s with
  | label => trivial
  | plain op => exact h
  | push width? target =>
    cases target with
    | label => exact h.elim
    | number v => exact isOperation_of_fits [] ∅ h

end Statement.IsInline

structure IsSegment (q : List Statement) (n m : Nat) : Prop where
  inline : ∀ s ∈ q, s.IsInline
  raises : Raises q n m

theorem IsSegment.nil (n : Nat) : IsSegment [] n n := ⟨by simp, .nil n⟩

theorem IsSegment.append {n m k : Nat} (h : IsSegment q n m) (h' : IsSegment r m k) :
    IsSegment (q ++ r) n k where
  inline s hs := (List.mem_append.1 hs).elim (h.inline s) (h'.inline s)
  raises := h.raises.append h'.raises

theorem IsSegment.replicate {n : Nat} (h : IsSegment q n n) (k : Nat) :
    IsSegment (List.replicate k q).flatten n n := by
  induction k with
  | zero => exact .nil n
  | succ k ih => exact h.append ih

theorem isSegment_push {width? : Option Nat} {v : Int} (h : (Target.number v).Fits [] ∅ width?)
    (n : Nat) : IsSegment [.push width? (.number v)] n (n + 1) :=
  ⟨by simpa [Statement.IsInline] using h, .push (.nil _)⟩

theorem isSegment_plain {op : Opcode} {info : OpcodeInfo} (hinfo : op.info? = some info)
    (hplain : op.IsPlain) (hwidth : op.width = 0) (n : Nat) :
    IsSegment [.plain op] (info.inputs + n) (info.outputs + n) :=
  ⟨by simpa [Statement.IsInline] using hwidth, .plain hinfo hplain (.nil _)⟩

theorem isSegment_pop (n : Nat) : IsSegment [.plain .pop] (n + 1) n := by
  have hinfo : Opcode.pop.info? = some ⟨1, 0, Gas.base, 0⟩ := rfl
  simpa [Nat.add_comm] using isSegment_plain hinfo rfl rfl n

end Assembly

namespace ComesTo

variable {rules : CreationRules} {c : Context} {b : Activity} {last : Trail}
  {visits : List (Nat × UInt8)} {top rest items : List Int} {p before after q : List Statement}
  {n m : Nat}

/-- A push puts what it fits on the stack. -/
theorem pushes {width? : Option Nat} {target : Target} {widths : Set Nat}
    (hcode : c.code.bytes.toList = encode p) (hp : p = before ++ .push width? target :: after)
    (hop : (Statement.push width? target).IsOperation) (hfits : target.Fits p widths width?)
    (h : ComesTo rules c b last (span before) items visits) :
    ComesTo rules c b last (span (before ++ [.push width? target]))
      ((target.value p : Int) :: items)
      (visits ++ [(span before, (Statement.push width? target).operation)]) := by
  obtain ⟨k, hk, hoperation⟩ := operation_push hop
  have hbyte := byte_at hcode hp
  have hdata := data_at hcode hp
  rw [hoperation] at hbyte ⊢
  rw [← hk] at hdata
  have hpushed := h.goes hbyte fun a ha => ha.push hdata (by simp [hk])
  rw [toNat_data hfits] at hpushed
  have hspan : span (before ++ [.push width? target]) = span before + 1 + (k.val + 1) := by
    simp [Statement.size, hk, Nat.add_assoc]
  rwa [hspan]

/-- A label changes nothing. -/
theorem label {name : String} (hcode : c.code.bytes.toList = encode p)
    (hp : p = before ++ .label name :: after)
    (h : ComesTo rules c b last (span before) items visits) :
    ComesTo rules c b last (span (before ++ [.label name])) items
      (visits ++ [(span before, (Statement.label name).operation)]) := by
  have hbyte : c.code.bytes[span before]? = some Opcode.jumpdest.byte := byte_at hcode hp
  rw [← List.nil_append items] at h
  obtain ⟨top, hnil, hnext⟩ := h.plain hbyte rfl rfl rfl
  obtain rfl := List.length_eq_zero_iff.1 hnil
  rw [span_append]
  exact hnext

/-- An operation whose effect is known. -/
theorem advances {op : Opcode} {items' : List Int} (hcode : c.code.bytes.toList = encode p)
    (hp : p = before ++ .plain op :: after)
    (heffect : c.code.bytes[span before]? = some op.byte →
      ComesTo rules c b last (span before + 1) items' (visits ++ [(span before, op.byte)])) :
    ComesTo rules c b last (span (before ++ [.plain op])) items'
      (visits ++ [(span before, (Statement.plain op).operation)]) := by
  rw [span_append]
  exact heffect (byte_at hcode hp)

/-- A segment does to the stack what it says. -/
theorem segment (hcode : c.code.bytes.toList = encode p) (hp : p = before ++ (q ++ after))
    (hq : IsSegment q n m) (hlength : top.length = n)
    (h : ComesTo rules c b last (span before) (top ++ rest) visits) :
    ∃ top', top'.length = m ∧ ComesTo rules c b last (span (before ++ q)) (top' ++ rest)
      (visits ++ walk (span before) q) := by
  obtain ⟨hinline, hraises⟩ := hq
  induction hraises generalizing before top visits with
  | nil n => exact ⟨top, hlength, by simpa [walk] using h⟩
  | push _ ih =>
    rw [List.forall_mem_cons] at hinline
    have hop := Statement.IsInline.isOperation hinline.1
    have hfits := Statement.IsInline.fits hinline.1 p ∅
    have hnext := h.pushes hcode hp hop hfits
    rw [← List.cons_append] at hnext
    rw [List.cons_append, List.append_cons] at hp
    simpa [walk] using ih hp (by rw [List.length_cons, hlength]) hnext hinline.2
  | @plain op info q n m hinfo hplain _ ih =>
    rw [List.forall_mem_cons] at hinline
    -- The operands are the upper part of the items that are there.
    obtain ⟨operands, others, rfl, hoperands⟩ : ∃ operands others, top = operands ++ others ∧
        operands.length = info.inputs :=
      ⟨_, _, (List.take_append_drop info.inputs top).symm, by rw [List.length_take]; omega⟩
    rw [List.append_assoc] at h
    obtain ⟨results, hresults, hresult⟩ := h.plain (byte_at hcode hp) hinfo hplain hoperands
    have hnext := advances hcode hp fun _ => hresult
    rw [← List.append_assoc] at hnext
    rw [List.cons_append, List.append_cons] at hp
    have hheight : (results ++ others).length = info.outputs + n := by
      rw [List.length_append] at hlength ⊢
      omega
    simpa [walk] using ih hp hheight hnext hinline.2

/-- A segment that needs nothing and leaves nothing. -/
theorem keeps (hcode : c.code.bytes.toList = encode p) (hp : p = before ++ (q ++ after))
    (hq : IsSegment q 0 0) (h : ComesTo rules c b last (span before) items visits) :
    ComesTo rules c b last (span (before ++ q)) items (visits ++ walk (span before) q) := by
  rw [← List.nil_append items] at h
  obtain ⟨top, hnil, hnext⟩ := h.segment hcode hp hq rfl
  obtain rfl := List.length_eq_zero_iff.1 hnil
  exact hnext

end ComesTo
end Gasometer
