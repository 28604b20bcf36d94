import Gasometer.Proofs.Confinement
import Gasometer.Proofs.MemoryCells
import Gasometer.Proofs.Openings

/-!
# Entries

The effects of a frame are its logs and the contracts that it has ended. Two kinds of operations
have effects. The entry of each is known before it is executed, from the operands on the stack and
from the memory, and the operation puts this entry, and nothing else, after those that are there. A
frame that has succeeded hands its entries to its opener. This needs no numbers to be sound.
-/
namespace Gasometer

namespace Frame

/-- The memory when it reaches over a range: there are zeros at its end, up to a whole word. -/
def stretched (f : Frame) (offset size : Int) : Bytes :=
  f.memory ++ Array.replicate ((Gas.wordsFor (offset + size) - f.memoryWords) * 32).toNat 0

/-- What the frame reads in a range of its memory. -/
def reads (f : Frame) (offset size : Int) : Bytes :=
  if size = 0 then #[] else (f.stretched offset size).slice offset (offset + size)

/-- In a memory of whole words these are the cells of the range. -/
theorem reads_eq_read {f : Frame} (hwords : f.memory.size = f.memoryWords * 32) {offset size : Int}
    (ho : 0 ≤ offset) (hs : 0 ≤ size) : f.reads offset size = f.memory.cell.read offset size := by
  unfold reads
  split_ifs with hz
  · subst hz
    rfl
  · have hreach := Gas.le_wordsFor (offset + size)
    have hsize : (f.stretched offset size).size =
        f.memory.size + ((Gas.wordsFor (offset + size) - f.memoryWords) * 32).toNat := by
      rw [stretched, Array.size_append, Array.size_replicate]
    rw [← Bytes.cell_append_replicate f.memory]
    exact Bytes.slice_eq_read ho hs (by omega)

/-- The log that the frame writes next, if it has so many topics: the two uppermost words are the
range of its data, and its topics follow. -/
def nextLog (f : Frame) (topics : Nat) : Log where
  address := f.context.address
  topics := (f.stack.items.drop 2).take topics
  data := f.reads (f.stack.items.getD 0 0) (f.stack.items.getD 1 0)

end Frame

/-- What an operation leaves in the effects of its frame. -/
inductive Entry
  | logged (log : Log)
  | ended (address : Address)
  deriving DecidableEq

namespace Entry

def log? : Entry → Option Log
  | logged log => some log
  | ended _ => none

/-- What an operation is to leave in the effects of a frame that is about to execute it. -/
def due? (f : Frame) : Opcode → Option Entry
  | .log topics => some (logged (f.nextLog topics))
  | .selfdestruct => some (ended f.context.address)
  | _ => none

def of? (f : Frame) (byte : UInt8) : Option Entry := (Opcode.ofByte? byte).bind (due? f)

end Entry

variable {a a' : Activity} {f g child : Frame} {child? : Option Frame} {es es' : List Entry}
  {byte : UInt8}

/-- A frame whose effects are these entries. -/
structure Frame.Keeps (f : Frame) (es : List Entry) : Prop where
  logs : f.logs = es.filterMap Entry.log?
  ended : ∀ x, x ∈ f.selfDestructs ↔ .ended x ∈ es

namespace Frame.Keeps

theorem of_effects (h : f.Keeps es) (heffects : g.effects = f.effects) : g.Keeps es := by
  obtain ⟨hlogs, hended⟩ := Prod.mk.inj heffects
  exact ⟨hlogs.trans h.logs, fun x => hended ▸ h.ended x⟩

theorem of_new (h : f.effects = ([], [])) : f.Keeps [] := by
  obtain ⟨hlogs, hended⟩ := Prod.mk.inj h
  exact ⟨hlogs, by simp [hended]⟩

theorem write (h : f.Keeps es) {log : Log}
    (heffects : g.effects = (f.logs ++ [log], f.selfDestructs)) :
    g.Keeps (es ++ [.logged log]) := by
  obtain ⟨hlogs, hended⟩ := Prod.mk.inj heffects
  refine ⟨?_, fun x => ?_⟩
  · rw [hlogs, h.logs, List.filterMap_append]
    rfl
  · rw [hended, h.ended x]
    simp

theorem end_ (h : f.Keeps es) {x : Address}
    (heffects : g.effects = (f.logs, uniteAddresses f.selfDestructs [x])) :
    g.Keeps (es ++ [.ended x]) := by
  obtain ⟨hlogs, hended⟩ := Prod.mk.inj heffects
  refine ⟨?_, fun y => ?_⟩
  · rw [hlogs, h.logs, List.filterMap_append]
    exact (List.append_nil _).symm
  · rw [hended, mem_uniteAddresses, h.ended y]
    simp

/-- The opener of a frame that has succeeded takes over its entries, after its own. -/
theorem resume (h : f.Keeps es) (hchild : child.Keeps es') (hstatus : child.status = .succeeded) :
    (f.resume child).Keeps (es ++ es') := by
  obtain ⟨hlogs, hended⟩ := Prod.mk.inj (resume_effects_of_succeeded (f := f) hstatus)
  refine ⟨?_, fun x => ?_⟩
  · rw [hlogs, h.logs, hchild.logs, List.filterMap_append]
  · rw [hended, mem_uniteAddresses, h.ended x, hchild.ended x, List.mem_append]

end Frame.Keeps

def Opcode.IsQuiet : Opcode → Prop
  | .log _ | .selfdestruct => False
  | _ => True

namespace Exec

variable {α β : Type}

def marks (a : Activity) : Context × List Log × List Address :=
  (a.frame.context, a.frame.effects)

/-- A change of neither the context nor the effects of the frame. -/
abbrev Quiet (x : Exec α) : Prop := Within (Activity.Same marks) x

instance : Inward (Activity.Same marks) where
  refl _ := rfl
  trans h h' := h'.trans h
  update _ _ _ _ _ _ _ := rfl
  leave _ _ _ _ := rfl

instance quietUpdateWorld (f : World → World) : Quiet (updateWorld f) := ⟨fun _ => rfl⟩

instance quietWarmAddress (a : Address) : Quiet (warmAddress a) := ⟨fun _ => rfl⟩

instance quietWarmSlot (key : Int) : Quiet (warmSlot key) := ⟨fun _ => rfl⟩

-- The instances of the longer operations are put together from many parts.
set_option synthInstance.maxSize 2048

instance quietSstore : Quiet sstore := by unfold sstore; infer_instance

instance quietEnter (kind : CallKind) (target : Address)
    (value inOffset inSize outOffset outSize gas : Int) :
    Quiet (enter kind target value inOffset inSize outOffset outSize gas) := by
  unfold enter; infer_instance

instance quietCall (kind : CallKind) : Quiet (call kind) := by unfold call; infer_instance

instance quietCreate (salted : Bool) : Quiet (create salted) := by
  unfold create
  dsimp only
  infer_instance

/-- Only two kinds of operations have effects. -/
theorem quiet_execute {op : Opcode} (hop : op.IsQuiet) : Quiet (execute op) := by
  cases op with
  | log | selfdestruct => exact hop.elim
  | _ => unfold execute; infer_instance

/-- A change of neither the context nor the effects, and then another one. -/
theorem Quiet.bind {x : Exec α} {f : α → Exec β} {m : Context × List Log × List Address}
    {last : β → Activity → Prop} (hx : Quiet x) (ha : marks a = m)
    (hf : ∀ v b, marks b = m → (f v).Yields b last fun _ _ => True) :
    (x >>= f).Yields a last fun _ _ => True :=
  ((hx.kept a).imp (fun _ _ h => h.trans ha) fun _ _ _ => trivial).bind hf

theorem expandMemory_stretches {offset size : Int} (h : size ≠ 0) (a : Activity) :
    (expandMemory offset size).Yields a
      (fun _ b => b.frame.memory = a.frame.stretched offset size) fun _ _ => True := by
  unfold expandMemory
  rw [if_pos h]
  refine Yields.view ?_
  dsimp only
  split_ifs with hbeyond
  · refine (useGas_spec _ a).ifDone.bind ?_
    rintro _ _ rfl
    cases hzeros : Bytes.zeros ((Gas.wordsFor (offset + size) - a.frame.memoryWords) * 32) with
    | error fault => trivial
    | ok zeros =>
      rw [attempt_ok, pure_bind]
      refine Yields.view ?_
      cases Bytes.checkSize _ with
      | error fault => trivial
      | ok => exact congrArg (a.frame.memory ++ ·) (Bytes.zeros_eq hzeros)
  · have hnone : ((Gas.wordsFor (offset + size) - a.frame.memoryWords) * 32).toNat = 0 := by
      unfold Gas.wordsFor
      omega
    show a.frame.memory = a.frame.memory ++ Array.replicate _ 0
    rw [hnone]
    exact Array.append_empty.symm

theorem readMemory_reads (offset size : Int) (a : Activity) :
    (readMemory offset size).Yields a (fun data _ => data = a.frame.reads offset size)
      fun _ _ => True := by
  unfold readMemory Frame.reads
  split_ifs with hz
  · rfl
  · refine (expandMemory_stretches hz a).bind fun _ b hb => ?_
    show b.frame.memory.slice offset (offset + size) = _
    rw [hb]

/-- An operation that writes a log puts the one that is due after the others, and does nothing else
to the effects. -/
theorem log_writes (topics : Nat) (a : Activity) :
    (log topics).Yields a (fun _ a' => a'.frame.effects =
      (a.frame.logs ++ [a.frame.nextLog topics], a.frame.selfDestructs)) fun _ _ => True := by
  refine (forbidStatic_spec _).ifDone.bind ?_
  rintro _ _ rfl
  refine (pop_spec a).ifDone.bind ?_
  rintro offset _ ⟨afterOffset, hoffset, rfl⟩
  refine (pop_spec _).ifDone.bind ?_
  rintro size _ ⟨afterSize, hsize, rfl⟩
  refine (popMany_spec topics _).bind ?_
  rintro words _ ⟨hwords, afterTopics, -, rfl⟩
  refine (useGas_spec _ _).ifDone.bind ?_
  rintro _ _ rfl
  have hquiet : Quiet (readMemory offset size) := withinReadMemory offset size
  refine (((readMemory_reads offset size _).and (hquiet.kept _)).imp (fun _ _ h => h)
    fun _ _ _ => trivial).bind ?_
  rintro data b ⟨hdata, hmarks⟩
  have hitems : a.frame.stack.items = offset :: size :: afterSize.items :=
    hoffset.trans (congrArg (offset :: ·) hsize)
  obtain ⟨hcontext, heffects⟩ := Prod.mk.inj hmarks
  obtain ⟨hlogs, hended⟩ := Prod.mk.inj heffects
  show (b.frame.logs ++ [⟨b.frame.context.address, words, data⟩], b.frame.selfDestructs) = _
  rw [hcontext, hlogs, hended, hdata, hwords, Frame.nextLog, hitems]
  rfl

theorem selfdestruct_ends (a : Activity) :
    selfdestruct.Yields a (fun _ a' => a'.frame.effects =
      (a.frame.logs, Frame.uniteAddresses a.frame.selfDestructs [a.frame.context.address]))
      fun _ _ => True := by
  refine Quiet.bind withinForbidStatic rfl fun _ b hb => ?_
  refine Quiet.bind withinPop hb fun heir b hb => ?_
  refine Quiet.bind (quietWarmAddress _) hb fun warm b hb => ?_
  refine Yields.view (Yields.viewWorld (Yields.viewWorld ?_))
  obtain ⟨hcontext, heffects⟩ := Prod.mk.inj hb
  rw [hcontext]
  refine Quiet.bind (withinUseGas _) hb fun _ b hb => ?_
  obtain ⟨-, heffects⟩ := Prod.mk.inj hb
  obtain ⟨hlogs, hended⟩ := Prod.mk.inj heffects
  show (b.frame.logs, Frame.uniteAddresses b.frame.selfDestructs [a.frame.context.address]) = _
  rw [hlogs, hended]

theorem Quiet.keeps {x : Exec α} {v : α} (hx : Quiet x) (h : x a = .ok v a')
    (ha : a.frame.Keeps es) : a'.frame.Keeps es :=
  ha.of_effects (congrArg Prod.snd ((hx.kept a).of_ok h))

theorem keeps_of_execute {op : Opcode} (h : execute op a = .ok child? a')
    (ha : a.frame.Keeps es) : a'.frame.Keeps (es ++ (Entry.due? a.frame op).toList) := by
  cases op with
  | log topics =>
    obtain ⟨_, b, hwrites, hrest⟩ := bind_eq_ok.1 h
    obtain ⟨-, rfl⟩ := EStateM.Result.ok.inj hrest
    exact ha.write ((log_writes topics.val a).of_ok hwrites)
  | selfdestruct =>
    obtain ⟨_, b, hends, hrest⟩ := bind_eq_ok.1 h
    obtain ⟨-, rfl⟩ := EStateM.Result.ok.inj hrest
    exact ha.end_ ((selfdestruct_ends a).of_ok hends)
  | _ =>
    refine (List.append_nil es).symm ▸ Quiet.keeps ?_ h ha
    exact quiet_execute trivial

/-- An operation adds the entry that was due to the effects of its frame. -/
theorem keeps_of_step (h : step byte a = .ok child? a') (ha : a.frame.Keeps es) :
    a'.frame.Keeps (es ++ (Entry.of? a.frame byte).toList) := by
  obtain ⟨op, rfl⟩ := exists_op_of_step h
  obtain ⟨info, -, -, hexecute⟩ := step_eq_ok h
  -- paying the static price touches neither the operands nor the memory
  have hdue : Entry.due? (paid info a).frame op = Entry.due? a.frame op := by cases op <;> rfl
  rw [Entry.of?, Opcode.ofByte?_byte, Option.bind_some, ← hdue]
  exact keeps_of_execute hexecute (ha.of_effects rfl)

end Exec
end Gasometer
