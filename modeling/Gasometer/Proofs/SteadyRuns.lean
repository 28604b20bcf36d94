import Gasometer.Proofs.FlatOperations
import Gasometer.Proofs.Loops
import Gasometer.Proofs.Tenure
import Gasometer.Step.Basic

/-!
# Runs whose price is known

A run from a sound beginning goes through statements of a fixed price, one after the other, as long
as their prices can be paid and the stack has room. So it is known beforehand how far it comes and
what it has left there.
-/
namespace Gasometer
open Assembly

variable {σ : Type} {rules : CreationRules} {k : Scale} {m : Machine} {a b : Activity}

/-! How a run ends that has come to the end of its first frame. -/

/-- A run that has left the code of its only frame ends with this frame, unless it is cut off. -/
theorem Round.Concludes.of_isLeft {r : Round σ} (h : r.Concludes rules m)
    (hcut : r.fault ≠ some .cutOff) (hreach : Reaches rules m (b.atop []))
    (hleft : b.frame.status.IsLeft) : r.fault = none ∧ r.frame = (b.finish rules).frame := by
  -- Runs do not branch, and nothing follows in which a frame is open.
  have hlast : ∀ t : Machine, Reaches rules m t → t.frames ≠ [] → Reaches rules t (b.atop []) := by
    intro t ht hne
    have hunique : Relator.RightUnique (Move rules) := fun _ _ _ => Move.unique
    rcases Relation.ReflTransGen.total_of_right_unique hunique ht hreach with hto | hfrom
    · exact hto
    · rw [(Reaches.above_zero hfrom hne).eq_of_isLeft hleft le_rfl]
  unfold Round.Concludes at h
  cases hfault : r.fault with
  | none =>
    rw [hfault] at h
    obtain ⟨c, hc, hcleft, hframe, -⟩ := h
    have hend := hlast _ hc (List.cons_ne_nil _ _)
    have hsame := (Reaches.above_zero hend (List.cons_ne_nil _ _)).eq_of_isLeft hcleft le_rfl
    obtain ⟨rfl, -⟩ := Activity.atop_inj.1 hsame
    exact ⟨rfl, hframe⟩
  | some fault =>
    rw [hfault] at h hcut
    rcases h with ⟨rfl, -⟩ | ⟨t, ht, c, c', byte, below, rfl, hexecuting, hbyte, hstep, -⟩
    · exact absurd rfl hcut
    · obtain heq | ⟨u, hmove, -⟩ := (hlast _ ht (List.cons_ne_nil _ _)).cases_head
      · obtain ⟨rfl, -⟩ := Activity.atop_inj.1 heq
        rw [hexecuting] at hleft
        exact hleft.elim
      · rw [Machine.move_iff] at hmove
        simp [Machine.moved?, Activity.atop, hexecuting, hbyte, hstep] at hmove

/-! Prices of statements. -/

namespace Assembly

def Statement.price : Statement → Int
  | .label _ => Gas.jumpdest
  | .push _ _ => Gas.veryLow
  | .plain op => Step.priceOf op

/-- A statement that costs no more than its static price and does not jump. -/
def Statement.IsFlat : Statement → Prop
  | .label _ | .push _ _ => True
  | .plain op => op.IsFlat

def price (q : List Statement) : Int := (q.map Statement.price).sum

@[simp] theorem price_nil : price [] = 0 := rfl

@[simp] theorem price_cons (s : Statement) (q : List Statement) :
    price (s :: q) = s.price + price q := by
  simp [price]

@[simp] theorem price_append (q r : List Statement) : price (q ++ r) = price q + price r := by
  simp [price]

theorem price_replicate (n : Nat) (q : List Statement) :
    price (List.replicate n q).flatten = n * price q := by
  induction n with
  | zero => simp
  | succ n ih =>
    rw [List.replicate_succ, List.flatten_cons, price_append, ih, Nat.cast_succ, Int.add_mul,
      Int.one_mul, Int.add_comm]

theorem Statement.price_nonneg (s : Statement) : 0 ≤ s.price := by
  cases s with
  | label => exact (show 0 ≤ Gas.jumpdest by decide)
  | push => exact (show 0 ≤ Gas.veryLow by decide)
  | plain op =>
    show 0 ≤ Step.priceOf op
    unfold Step.priceOf
    cases hinfo : op.info? with
    | none => exact le_rfl
    | some info => exact Opcode.gas_nonneg hinfo

theorem price_nonneg (q : List Statement) : 0 ≤ price q := by
  induction q with
  | nil => exact (show (0 : Int) ≤ 0 by decide)
  | cons s q ih =>
    have := s.price_nonneg
    rw [price_cons]
    omega

end Assembly

/-- A run comes to a state in which the first frame is alone, at this place of its code with these
items on its stack and with so much gas. -/
def Arrives (rules : CreationRules) (m : Machine) (c : Context) (place : Nat) (items : List Int)
    (gas : Int) : Prop :=
  ∃ a : Activity, a.At c place items ∧ a.frame.gas = gas ∧ Reaches rules m (a.atop [])

namespace Arrives

variable {c : Context} {place place' : Nat} {items top rest : List Int} {gas : Int} {op : Opcode}
  {info : OpcodeInfo} {p before after q : List Statement} {n n' : Nat}

/-- An operation that can be begun brings the run where it leads. -/
theorem next {P : List Int → Prop} (hs : m.Starts rules k)
    (h : Arrives rules m c place items gas) (hbyte : c.code.bytes[place]? = some op.byte)
    (hinfo : op.info? = some info) (hbegin : info.CanBegin items.length gas)
    (heffect : ∀ (k : Scale) (a : Activity), a.Sound k → a.At c (place + 1) items →
      (Exec.execute op).Yields a (fun child? a' => ∃ items', P items' ∧
        a.Led c place' items' child? a') fun _ _ => False) :
    ∃ items', P items' ∧ Arrives rules m c place' items' (gas - info.gas) := by
  obtain ⟨a, hat, rfl, hreach⟩ := h
  obtain ⟨i, hsound, -⟩ := (hs.runs hreach).sound
  have hpaid := hsound.activity.paid hinfo hbegin.gas
  have hthere : (Exec.paid info a).At c (place + 1) items :=
    ⟨hat.context, hat.status, congrArg (· + 1) hat.pc, hat.items⟩
  rw [← hat.items] at hbegin
  have hnext : a.nextByte? = some op.byte := by
    rw [Activity.nextByte?, hat.context, hat.pc, hbyte]
  obtain ⟨_, a', hstep, items', hitems, rfl, hat', hgas⟩ :=
    Exec.step_ok hinfo hbegin (heffect _ _ hpaid hthere)
  exact ⟨items', hitems, a', hat', hgas, hreach.tail (.step [] hat.status hnext hstep)⟩

/-- An operation whose effect is known. -/
theorem goes {items' : List Int} {stopped : Stop → Activity → Prop} (hs : m.Starts rules k)
    (h : Arrives rules m c place items gas) (hbyte : c.code.bytes[place]? = some op.byte)
    (hinfo : op.info? = some info) (hbegin : info.CanBegin items.length gas)
    (heffect : ∀ a : Activity, a.At c (place + 1) items →
      (Exec.execute op).Yields a (a.Led c place' items') stopped)
    (hgoes : ∀ e a, ¬ stopped e a) :
    Arrives rules m c place' items' (gas - info.gas) := by
  obtain ⟨_, rfl, hnext⟩ := h.next (P := (· = items')) hs hbyte hinfo hbegin fun _ a _ ha =>
    (heffect a ha).imp (fun _ _ hled => ⟨items', rfl, hled⟩) hgoes
  exact hnext

/-- A stop leaves the code with the gas that is left. -/
theorem stop (hs : m.Starts rules k) (h : Arrives rules m c place items gas)
    (hbyte : c.code.bytes[place]? = some Opcode.stop.byte) (hroom : items.length ≤ Exec.maxItems) :
    ∃ b : Activity, Reaches rules m (b.atop []) ∧ b.frame.context = c ∧
      b.frame.status = .returned ∧ b.frame.gas = gas := by
  obtain ⟨a, hat, rfl, hreach⟩ := h
  obtain ⟨i, hsound, -⟩ := (hs.runs hreach).sound
  have hnext : a.nextByte? = some Opcode.stop.byte := by
    rw [Activity.nextByte?, hat.context, hat.pc, hbyte]
  have hinfo : Opcode.stop.info? = some ⟨0, 0, 0, 0⟩ := rfl
  have hleave : (Exec.execute .stop).Yields (Exec.paid ⟨0, 0, 0, 0⟩ a) (fun child? a' =>
      child? = none ∧ a'.frame.context = a.frame.context ∧ a'.frame.status = .returned ∧
        a'.frame.gas = a.frame.gas) fun _ _ => False := ⟨rfl, rfl, rfl, Int.sub_zero _⟩
  rw [← hat.items] at hroom
  obtain ⟨_, a', hstep, rfl, hcontext, hreturned, hgas⟩ :=
    Exec.step_ok hinfo ⟨Nat.zero_le _, hroom, hsound.activity.frame.gas⟩ hleave
  exact ⟨a', hreach.tail (.step [] hat.status hnext hstep), hcontext.trans hat.context,
    hreturned, hgas⟩

/-- An operation of a fixed price replaces its operands by its results. -/
theorem flat (hs : m.Starts rules k) (h : Arrives rules m c place (top ++ rest) gas)
    (hbyte : c.code.bytes[place]? = some op.byte) (hinfo : op.info? = some info)
    (hflat : op.IsFlat) (hplain : op.IsPlain) (hlength : top.length = info.inputs)
    (hbegin : info.CanBegin (top ++ rest).length gas) :
    ∃ top', top'.length = info.outputs ∧
      Arrives rules m c (place + 1) (top' ++ rest) (gas - info.gas) := by
  have heffect : ∀ (k : Scale) (a : Activity), a.Sound k → a.At c (place + 1) (top ++ rest) →
      (Exec.execute op).Yields a (fun child? a' => ∃ items',
        (∃ top', top'.length = info.outputs ∧ items' = top' ++ rest) ∧
          a.Led c (place + 1) items' child? a') fun _ _ => False := by
    intro k a hsound ha
    have hsteady : a.Steady k a.frame.gas info.inputs :=
      ⟨hsound, rfl, by rw [ha.items]; exact hbegin.inputs⟩
    have hplace : k.numbers.Holds ((a.frame.pc : Int) - 1) := by
      have hlt : place < c.code.size := (Array.getElem?_eq_some_iff.1 hbyte).1
      have hcode := hsound.frame.context.code
      rw [ha.context] at hcode
      refine hcode.of_le ?_ ?_ <;> rw [ha.pc] <;> omega
    have hstacks : a.Stacks rest info.inputs a := hlength ▸ Activity.Stacks.refl a ha.items
    have hoffers := (Exec.offersExecute hinfo hplain).offers a rest a hstacks
    have hlocal := (Exec.localExecute op).kept a
    refine (((hsteady.execute hinfo hflat hplace).and hoffers).and hlocal).imp ?_
      fun _ _ hstop => hstop.1.1
    rintro _ a' ⟨⟨⟨rfl, hgas⟩, hpc, hstatus, top', hlength', hitems⟩, hkept⟩
    exact ⟨_, ⟨top', hlength', hitems⟩, rfl, ⟨hkept.context.trans ha.context,
      hstatus.trans ha.status, hpc.trans ha.pc, rfl⟩, hgas⟩
  obtain ⟨_, ⟨top', hlength', rfl⟩, hnext⟩ := h.next hs hbyte hinfo hbegin heffect
  exact ⟨top', hlength', hnext⟩

/-- A push puts what it fits on the stack. -/
theorem pushes {width? : Option Nat} {target : Target} {widths : Set Nat} (hs : m.Starts rules k)
    (hcode : c.code.bytes.toList = encode p) (hp : p = before ++ .push width? target :: after)
    (hop : (Statement.push width? target).IsOperation) (hfits : target.Fits p widths width?)
    (hroom : items.length < Exec.maxItems) (hgas : Gas.veryLow ≤ gas)
    (h : Arrives rules m c (span before) items gas) :
    Arrives rules m c (span (before ++ [.push width? target])) ((target.value p : Int) :: items)
      (gas - Gas.veryLow) := by
  obtain ⟨i, hi, hoperation⟩ := operation_push hop
  have hbyte := byte_at hcode hp
  have hdata := data_at hcode hp
  rw [hoperation] at hbyte
  rw [← hi] at hdata
  have hinfo : (Opcode.push i).info? = some ⟨0, 1, Gas.veryLow, i.val + 1⟩ := rfl
  have hpushed := h.goes hs hbyte hinfo ⟨Nat.zero_le _, hroom, hgas⟩
    (fun a ha => ha.push hdata (by simp [hi])) fun _ _ => not_false
  rw [toNat_data hfits] at hpushed
  have hspan : span (before ++ [.push width? target]) = span before + 1 + (i.val + 1) := by
    simp [Statement.size, hi, Nat.add_assoc]
  rwa [hspan]

/-- A label changes nothing. -/
theorem label {name : String} (hs : m.Starts rules k) (hcode : c.code.bytes.toList = encode p)
    (hp : p = before ++ .label name :: after) (hroom : items.length ≤ Exec.maxItems)
    (hgas : Gas.jumpdest ≤ gas) (h : Arrives rules m c (span before) items gas) :
    Arrives rules m c (span (before ++ [.label name])) items (gas - Gas.jumpdest) := by
  have hbyte : c.code.bytes[span before]? = some Opcode.jumpdest.byte := byte_at hcode hp
  have hinfo : Opcode.jumpdest.info? = some ⟨0, 0, Gas.jumpdest, 0⟩ := rfl
  rw [← List.nil_append items] at h
  obtain ⟨top, hnil, hnext⟩ := h.flat hs hbyte hinfo trivial rfl rfl ⟨Nat.zero_le _, hroom, hgas⟩
  obtain rfl := List.length_eq_zero_iff.1 hnil
  rw [span_append]
  exact hnext

/-- An operation whose effect is known, as a statement. -/
theorem advances {items' : List Int} (hs : m.Starts rules k)
    (hcode : c.code.bytes.toList = encode p) (hp : p = before ++ .plain op :: after)
    (hinfo : op.info? = some info) (hbegin : info.CanBegin items.length gas)
    (heffect : ∀ a : Activity, a.At c (span before + 1) items →
      (Exec.execute op).Yields a (a.Led c (span before + 1) items') fun _ _ => False)
    (h : Arrives rules m c (span before) items gas) :
    Arrives rules m c (span (before ++ [.plain op])) items' (gas - info.gas) := by
  rw [span_append]
  exact h.goes hs (byte_at hcode hp) hinfo hbegin heffect fun _ _ => not_false

/-- A segment of a fixed price does to the stack what it says. No statement raises the stack by more
than one item. -/
theorem segment (hs : m.Starts rules k) (hcode : c.code.bytes.toList = encode p)
    (hp : p = before ++ (q ++ after)) (hq : IsSegment q n n') (hflat : ∀ s ∈ q, s.IsFlat)
    (hlength : top.length = n) (hroom : (top ++ rest).length + q.length ≤ Exec.maxItems)
    (hgas : price q ≤ gas) (h : Arrives rules m c (span before) (top ++ rest) gas) :
    ∃ top', top'.length = n' ∧
      Arrives rules m c (span (before ++ q)) (top' ++ rest) (gas - price q) := by
  obtain ⟨hinline, hraises⟩ := hq
  induction hraises generalizing before top gas with
  | nil n => exact ⟨top, hlength, by simpa using h⟩
  | @push width? target q n n' _ ih =>
    rw [List.forall_mem_cons] at hinline hflat
    rw [price_cons] at hgas
    rw [List.length_cons] at hroom
    have hop := Statement.IsInline.isOperation hinline.1
    have hfits := Statement.IsInline.fits hinline.1 p ∅
    have hleft := price_nonneg q
    have hprice : (Statement.push width? target).price = Gas.veryLow := rfl
    have hnext := h.pushes hs hcode hp hop hfits (by omega) (by omega)
    rw [← List.cons_append] at hnext
    rw [List.cons_append, List.append_cons] at hp
    obtain ⟨top', hlength', hend⟩ := ih hp hflat.2 (by rw [List.length_cons, hlength])
      (by rw [List.cons_append, List.length_cons]; omega) (by omega) hnext hinline.2
    refine ⟨top', hlength', ?_⟩
    rw [List.append_cons, price_cons, ← Int.sub_sub]
    exact hend
  | @plain op info q n n' hinfo hplain _ ih =>
    rw [List.forall_mem_cons] at hinline hflat
    rw [price_cons] at hgas
    rw [List.length_cons] at hroom
    have hleft := price_nonneg q
    have hprice : (Statement.plain op).price = info.gas := by
      simp [Statement.price, Step.priceOf, hinfo]
    have hrise := (Opcode.IsFlat.bounds hflat.1 hinfo).2.1
    -- The operands are the upper part of the items that are there.
    obtain ⟨operands, others, rfl, hoperands⟩ : ∃ operands others, top = operands ++ others ∧
        operands.length = info.inputs :=
      ⟨_, _, (List.take_append_drop info.inputs top).symm, by rw [List.length_take]; omega⟩
    rw [List.append_assoc] at h hroom
    have hbegin : info.CanBegin (operands ++ (others ++ rest)).length gas := by
      refine ⟨?_, ?_, by omega⟩
      · rw [List.length_append]
        omega
      · omega
    obtain ⟨results, hresults, hresult⟩ := h.flat hs (byte_at hcode hp) hinfo hflat.1 hplain
      hoperands hbegin
    have hnext : Arrives rules m c (span (before ++ [.plain op])) (results ++ others ++ rest)
        (gas - info.gas) := by
      rw [span_append, List.append_assoc]
      exact hresult
    rw [List.cons_append, List.append_cons] at hp
    simp only [List.length_append] at hlength hroom
    obtain ⟨top', hlength', hend⟩ := ih hp hflat.2 (by rw [List.length_append]; omega)
      (by simp only [List.length_append]; omega) (by omega) hnext hinline.2
    refine ⟨top', hlength', ?_⟩
    rw [List.append_cons, price_cons, ← Int.sub_sub, hprice]
    exact hend

/-- A segment of a fixed price that needs nothing and leaves nothing. -/
theorem keeps (hs : m.Starts rules k) (hcode : c.code.bytes.toList = encode p)
    (hp : p = before ++ (q ++ after)) (hq : IsSegment q 0 0) (hflat : ∀ s ∈ q, s.IsFlat)
    (hroom : items.length + q.length ≤ Exec.maxItems) (hgas : price q ≤ gas)
    (h : Arrives rules m c (span before) items gas) :
    Arrives rules m c (span (before ++ q)) items (gas - price q) := by
  rw [← List.nil_append items] at h hroom
  obtain ⟨top, hnil, hnext⟩ := h.segment hs hcode hp hq hflat rfl hroom hgas
  obtain rfl := List.length_eq_zero_iff.1 hnil
  exact hnext

/-- Copies of such a segment, one after the other. -/
theorem copies (hs : m.Starts rules k) (hcode : c.code.bytes.toList = encode p)
    (hp : p = before ++ ((List.replicate n q).flatten ++ after)) (hq : IsSegment q 0 0)
    (hflat : ∀ s ∈ q, s.IsFlat) (hroom : items.length + q.length ≤ Exec.maxItems)
    (hgas : n * price q ≤ gas) (h : Arrives rules m c (span before) items gas) :
    Arrives rules m c (span (before ++ (List.replicate n q).flatten)) items
      (gas - n * price q) := by
  induction n generalizing before gas with
  | zero => simpa using h
  | succ n ih =>
    have hrest : 0 ≤ n * price q := Int.mul_nonneg (Int.natCast_nonneg n) (price_nonneg q)
    rw [List.replicate_succ, List.flatten_cons] at hp ⊢
    rw [Nat.cast_succ, Int.add_mul, Int.one_mul] at hgas ⊢
    rw [List.append_assoc] at hp
    have hnext := h.keeps hs hcode hp hq hflat hroom (by omega)
    rw [← List.append_assoc] at hp ⊢
    have hend := ih hp (by omega) hnext
    rwa [Int.sub_sub, Int.add_comm (price q)] at hend

end Arrives
end Gasometer
