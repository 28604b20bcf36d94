import Gasometer.Proofs.Openings
import Gasometer.Proofs.Safety
import Gasometer.Proofs.Tenure

/-!
# Solvency

An operation is executed only if its price can be paid, so a frame that has executed one has no
negative gas, whatever numbers it works with. A frame that has executed none may have been opened
with negative gas; it takes no more than that from its opener when it ends, and no opener is left
with less than nothing.
-/
namespace Gasometer
namespace Exec

variable {α β : Type} {a a' : Activity} {child? : Option Frame}

/-- A change that does not let the gas fall below zero. -/
class Solvent (x : Exec α) : Prop where
  solvent : ∀ a, 0 ≤ a.frame.gas → x.Yields a (fun _ b => 0 ≤ b.frame.gas) fun _ _ => True

theorem Solvent.of_ok {x : Exec α} (hx : Solvent x) {v : α} (ha : 0 ≤ a.frame.gas)
    (h : x a = .ok v a') : 0 ≤ a'.frame.gas := (hx.solvent a ha).of_ok h

/-- What costs nothing lets no gas go. -/
instance (priority := low) solventIdle (x : Exec α) [hx : Idle x] : Solvent x where
  solvent a ha := (hx.idle a).mono fun _ _ hb => hb.1.symm ▸ ha

instance solventBind (x : Exec α) (f : α → Exec β) [hx : Solvent x] [hf : ∀ v, Solvent (f v)] :
    Solvent (x >>= f) := ⟨fun a ha => (hx.solvent a ha).bind fun v b hb => (hf v).solvent b hb⟩

instance solventIte (p : Prop) [Decidable p] (x y : Exec α) [hx : Solvent x] [hy : Solvent y] :
    Solvent (if p then x else y) := by
  split_ifs
  · exact hx
  · exact hy

instance solventUpdateMemory (memory : Frame → Bytes) :
    Solvent (update fun f => { f with memory := memory f }) := ⟨fun _ h => h⟩

/-- Only what is there can be paid. -/
instance solventUseGas (amount : Int) : Solvent (useGas amount) where
  solvent a _ := by
    refine Yields.view ((Yields.haltIf fun _ => trivial).bind ?_)
    rintro _ _ ⟨hpaid, rfl⟩
    exact Int.sub_nonneg_of_le (not_lt.1 hpaid)

instance solventExpandMemory (offset size : Int) : Solvent (expandMemory offset size) := by
  unfold expandMemory; infer_instance

instance solventReadMemory (offset size : Int) : Solvent (readMemory offset size) := by
  unfold readMemory; infer_instance

instance solventWriteMemory (start stop : Int) (bytes : Bytes) :
    Solvent (writeMemory start stop bytes) := by unfold writeMemory; infer_instance

instance solventCopyToMemory (dest : Int) (source : Bytes) (offset size : Int) :
    Solvent (copyToMemory dest source offset size) := by unfold copyToMemory; infer_instance

/-! Operations within a frame. -/

-- The instances of the longer operations are put together from many parts.
set_option synthInstance.maxSize 2048

instance solventExp : Solvent exp := by unfold exp; infer_instance

instance solventKeccak256 : Solvent keccak256 := by unfold keccak256; infer_instance

instance solventAccountQuery (q : AccountQuery) : Solvent (accountQuery q) := by
  unfold accountQuery; infer_instance

instance solventCopy (source : CopySource) : Solvent (copy source) := by
  unfold copy
  cases source <;> infer_instance

instance solventExtcodecopy : Solvent extcodecopy := by unfold extcodecopy; infer_instance

instance solventMload : Solvent mload := by unfold mload; infer_instance

instance solventMstore : Solvent mstore := by unfold mstore; infer_instance

instance solventMstore8 : Solvent mstore8 := by unfold mstore8; infer_instance

instance solventSload : Solvent sload := by unfold sload; infer_instance

instance solventSstore : Solvent sstore := by unfold sstore; infer_instance

instance solventLog (topics : Nat) : Solvent (log topics) := by unfold log; infer_instance

instance solventLeaveWithMemory (status : FrameStatus) : Solvent (leaveWithMemory status) := by
  unfold leaveWithMemory; infer_instance

instance solventSelfdestruct : Solvent selfdestruct := by unfold selfdestruct; infer_instance

/-! The first parts of operations that may open a frame. -/

instance solventTakeValue (kind : CallKind) : Solvent (takeValue kind) := by
  unfold takeValue; infer_instance

instance solventTakeSalt (salted : Bool) (size : Int) : Solvent (takeSalt salted size) := by
  unfold takeSalt; infer_instance

instance solventCallTerms (kind : CallKind) : Solvent (callTerms kind) := by
  unfold callTerms; infer_instance

instance solventCreateTerms (salted : Bool) : Solvent (createTerms salted) := by
  unfold createTerms; infer_instance

instance solventOpeningTerms (op : Opcode) : Solvent (openingTerms op) := by
  unfold openingTerms
  cases op <;> infer_instance

theorem solvent_execute {op : Opcode} (hop : ¬ op.Opens) : Solvent (execute op) := by
  cases op with
  | call | create | create2 => exact absurd trivial hop
  | _ => unfold execute; infer_instance

/-- An operation is executed only if its static price can be paid. -/
theorem step_affords {op : Opcode} (h : step op.byte a = .ok child? a') :
    ∃ info, op.info? = some info ∧ 0 ≤ (paid info a).frame.gas ∧
      execute op (paid info a) = .ok child? a' := by
  obtain ⟨info, hinfo, -, hexecute⟩ := step_eq_ok h
  refine ⟨info, hinfo, Int.sub_nonneg_of_le (not_lt.1 fun hpoor => ?_), hexecute⟩
  unfold step at h
  simp only [Opcode.ofByte?_byte, hinfo] at h
  obtain ⟨_, b, hbegin, -⟩ := bind_eq_ok.1 h
  exact (begin_refuses hpoor).of_ok hbegin

end Exec

/-- The least gas that a frame hands back when it ends. One that was halted hands back none. -/
def Frame.least (f : Frame) : Int :=
  match f.status with
  | .halted _ => 0
  | _ => min 0 f.gas

namespace Frame

theorem least_nonpos (f : Frame) : f.least ≤ 0 := by
  unfold least
  split
  · exact le_rfl
  · exact min_le_left ..

theorem min_le_least (f : Frame) : min 0 f.gas ≤ f.least := by
  unfold least
  split
  · exact min_le_left ..
  · exact le_rfl

/-- A frame without negative gas takes nothing. -/
theorem least_eq_zero {f : Frame} (h : 0 ≤ f.gas) : f.least = 0 := by
  refine le_antisymm f.least_nonpos (le_trans ?_ f.min_le_least)
  exact le_min le_rfl h

theorem least_le {f g : Frame} (hgas : g.gas = f.gas) (h : ∀ reason, f.status ≠ .halted reason) :
    f.least ≤ g.least := by
  have hf : f.least = min 0 f.gas := by
    unfold least
    split
    · rename_i reason hhalted
      exact absurd hhalted (h reason)
    · rfl
  rw [hf, ← hgas]
  exact g.min_le_least

end Frame

namespace Exec

variable {a a' : Activity} {child? : Option Frame} {child : Frame} {op : Opcode}

/-- What an opener has left makes up for a frame that begins with negative gas. -/
theorem least_of_hands {t : Terms} {available left : Int} (ht : t.Hands available (some child) left)
    (havailable : 0 ≤ available) : available / 64 ≤ left + min 0 child.gas := by
  obtain ⟨hchild, hleft⟩ := ht
  have hhanded := t.handed_le available
  have hstipend := t.stipend_nonneg
  unfold handedOn at hhanded
  omega

/-- No step leaves a frame with less than nothing, also if it has to make up for the frame that it
opens. -/
theorem step_solvent {byte : UInt8} (h : step byte a = .ok child? a') :
    0 ≤ a'.frame.gas ∧ ∀ child ∈ child?, 0 ≤ a'.frame.gas + min 0 child.gas := by
  obtain ⟨op, rfl⟩ := exists_op_of_step h
  obtain ⟨info, -, hpaid, hexecute⟩ := step_affords h
  by_cases hop : op.Opens
  · obtain ⟨t, b, hterms, hhands⟩ := hands_of_execute hop hexecute
    have hb := (solventOpeningTerms op).of_ok hpaid hterms
    cases child? with
    | none => exact ⟨hb.trans hhands, by rintro child ⟨⟩⟩
    | some child =>
      have hleft := least_of_hands hhands hb
      refine ⟨by omega, ?_⟩
      rintro _ ⟨⟩
      omega
  · have := lone_execute hop
    obtain rfl := Lone.of_ok hexecute
    exact ⟨(solvent_execute hop).of_ok hpaid hexecute, by rintro child ⟨⟩⟩

end Exec

/-- Frames above `fs`, of which the lowest hands back at least `floor`, and the others leave their
openers with no less than nothing. -/
inductive Floats (floor : Int) (fs : List Frame) : List Frame → Prop
  | lowest {f : Frame} (h : floor ≤ f.least) : Floats floor fs (f :: fs)
  | higher {f opener : Frame} {rest : List Frame} (hlower : Floats floor fs (opener :: rest))
    (h : 0 ≤ opener.gas + f.least) : Floats floor fs (f :: opener :: rest)

namespace Floats

variable {floor : Int} {fs frames rest below : List Frame} {f g opener : Frame} {a : Activity}
  {rules : CreationRules} {s t : Machine}

theorem length_lt (h : Floats floor fs frames) : fs.length < frames.length := by
  induction h with
  | lowest => exact Nat.lt_succ_self _
  | higher _ _ ih => exact ih.trans (Nat.lt_succ_self _)

/-- The uppermost frame may be exchanged for one that hands back no less. -/
theorem top (h : Floats floor fs (f :: rest)) (hle : f.least ≤ g.least) :
    Floats floor fs (g :: rest) := by
  cases h with
  | lowest h => exact .lowest (h.trans hle)
  | higher hlower h => exact .higher hlower (by omega)

theorem top_of_nonneg (h : Floats floor fs (f :: rest)) (hg : 0 ≤ g.gas) :
    Floats floor fs (g :: rest) := h.top (by rw [Frame.least_eq_zero hg]; exact f.least_nonpos)

theorem opener_nonneg (h : Floats floor fs (f :: opener :: rest))
    (hlength : fs.length ≤ rest.length) :
    Floats floor fs (opener :: rest) ∧ 0 ≤ opener.gas + f.least := by
  cases h with
  | lowest => simp at hlength
  | higher hlower h => exact ⟨hlower, h⟩

end Floats

namespace Activity

/-- A frame hands back no less than was said. -/
theorem least_le_finish (rules : CreationRules) (a : Activity) (hleft : a.frame.status.IsLeft) :
    a.frame.least ≤ (a.finish rules).frame.gas := by
  unfold finish
  rcases hleft.cases with hstatus | ⟨reason, hstatus⟩ | hstatus <;> rw [hstatus]
  · have hleast : a.frame.least = min 0 a.frame.gas := by rw [Frame.least, hstatus]
    unfold accept
    dsimp only
    cases a.frame.context.kind with
    | messageCall => exact hleast.trans_le (min_le_right ..)
    | contractCreation =>
      dsimp only
      split_ifs with hsize hmark hdeposit
      · exact a.frame.least_nonpos
      · exact a.frame.least_nonpos
      · exact a.frame.least_nonpos
      · exact a.frame.least_nonpos.trans (Int.sub_nonneg_of_le (not_lt.1 hdeposit))
  · refine a.frame.least_nonpos.trans ?_
    simp only [settle, hstatus, le_refl]
  · have hleast : a.frame.least = min 0 a.frame.gas := by rw [Frame.least, hstatus]
    refine hleast.trans_le ((min_le_right ..).trans ?_)
    simp only [settle, hstatus, le_refl]

end Activity

namespace Floats
open Activity

variable {floor : Int} {fs : List Frame} {rules : CreationRules} {s t : Machine}

/-- Frames that float go on to do so when the machine moves. -/
theorem move (h : Floats floor fs s.frames) (hmove : Move rules s t)
    (ht : fs.length < t.frames.length) : Floats floor fs t.frames := by
  cases hmove with
  | @start a below hstatus =>
    refine h.top (Frame.least_le ?_ (by simp [hstatus]))
    rcases start_cases rules a with ⟨reason, -, hs⟩ | ⟨w, -, hs⟩ <;> rw [hs] <;> rfl
  | @runOff a below hstatus hbyte =>
    exact h.top (Frame.least_le (g := a.runOff.frame) rfl (by simp [hstatus]))
  | step below hstatus hbyte hstep => exact h.top_of_nonneg (Exec.step_solvent hstep).1
  | @open_ a a' byte child below hstatus hbyte hstep =>
    obtain ⟨hopener, hchild⟩ := Exec.step_solvent hstep
    have hleast := child.min_le_least
    refine .higher (h.top_of_nonneg (g := { a'.frame with status := .suspended }) hopener) ?_
    exact (hchild child rfl).trans (Int.add_le_add_left hleast _)
  | @halt a a' byte reason below hstatus hbyte hstep =>
    exact h.top (g := a'.frame.halt reason) a.frame.least_nonpos
  | @close a below hleft =>
    rw [Machine.frames_leave, Machine.length_woken] at ht
    obtain ⟨opener, rest, rfl⟩ := List.exists_cons_of_length_pos (Nat.zero_lt_of_lt ht)
    obtain ⟨hlower, hopener⟩ := opener_nonneg h (Nat.lt_succ_iff.1 ht)
    have hback := least_le_finish rules a hleft
    refine hlower.top_of_nonneg ?_
    rw [Frame.resume_gas]
    omega

theorem of_reachesAbove (h : Floats floor fs s.frames) (hreach : ReachesAbove rules fs.length s t) :
    Floats floor fs t.frames := by
  induction hreach with
  | refl => exact h
  | tail _ hmove ih => exact ih.move hmove.1 hmove.2

end Floats

/-- A frame hands back to its opener what it was opened with, if that was negative, or more. -/
theorem ReachesAbove.least_le_finish {rules : CreationRules} {a b : Activity} {child : Frame}
    {below rest : List Frame} (hlife : ReachesAbove rules (below.length + 1) (a.opening child below)
      (b.atop rest)) (hlength : rest.length = below.length + 1) (hleft : b.frame.status.IsLeft) :
    min 0 child.gas ≤ (b.finish rules).frame.gas := by
  have hopening : Floats child.least ({ a.frame with status := .suspended } :: below)
      (a.opening child below).frames := .lowest le_rfl
  have hfloats := hopening.of_reachesAbove hlife
  refine child.min_le_least.trans (le_trans ?_ (Activity.least_le_finish rules b hleft))
  generalize hframes : (b.atop rest).frames = frames at hfloats
  cases hfloats with
  | lowest h =>
    obtain ⟨rfl, -⟩ := List.cons.inj hframes
    exact h
  | higher hlower _ =>
    obtain ⟨-, rfl⟩ := List.cons.inj hframes
    have hlt := hlower.length_lt
    simp only [List.length_cons] at hlength hlt
    omega

end Gasometer
