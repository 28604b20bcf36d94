import Gasometer.Proofs.Frames

/-!
# Outcomes of operations

What an operation does is stated by two conditions: one on the result and the state if it is done,
one on the cause and the state if it is stopped. Operations are taken apart bind by bind.

A stage is what holds between two parts of an operation: the state is sound, so much has been paid
since the beginning, and so many items stand on the stack above those that the operation leaves
alone. Each primitive leads from one stage to the next.
-/
namespace Gasometer
namespace Exec

variable {α β : Type}

/-- The outcome of a change from a state: `done` of a result, or `stopped` of a cause. -/
def Yields (x : Exec α) (a : Activity) (done : α → Activity → Prop)
    (stopped : Stop → Activity → Prop) : Prop :=
  match x a with
  | .ok v a => done v a
  | .error e a => stopped e a

variable {x : Exec α} {f : α → Exec β} {a : Activity} {mid done : α → Activity → Prop}
  {stopped : Stop → Activity → Prop} {last : β → Activity → Prop}

theorem yields_bind :
    (x >>= f).Yields a last stopped ↔
      x.Yields a (fun v a => (f v).Yields a last stopped) stopped := by
  show (match EStateM.bind x f a with | .ok v a => last v a | .error e a => stopped e a) ↔ _
  unfold Yields EStateM.bind
  cases x a <;> rfl

theorem Yields.of_ok {v : α} {a' : Activity} (hx : x.Yields a done stopped) (h : x a = .ok v a') :
    done v a' := by
  rwa [Yields, h] at hx

theorem Yields.of_error {e : Stop} {a' : Activity} (hx : x.Yields a done stopped)
    (h : x a = .error e a') : stopped e a' := by
  rwa [Yields, h] at hx

theorem Yields.imp {stopped' : Stop → Activity → Prop} (h : x.Yields a mid stopped)
    (hd : ∀ v a, mid v a → done v a) (hs : ∀ e a, stopped e a → stopped' e a) :
    x.Yields a done stopped' := by
  unfold Yields at *
  cases hx : x a with
  | ok v a => rw [hx] at h; exact hd v a h
  | error e a => rw [hx] at h; exact hs e a h

theorem Yields.and {done' : α → Activity → Prop} {stopped' : Stop → Activity → Prop}
    (h : x.Yields a done stopped) (h' : x.Yields a done' stopped') :
    x.Yields a (fun v b => done v b ∧ done' v b) fun e b => stopped e b ∧ stopped' e b := by
  unfold Yields at *
  cases hx : x a with
  | ok v a => rw [hx] at h h'; exact ⟨h, h'⟩
  | error e a => rw [hx] at h h'; exact ⟨h, h'⟩

theorem Yields.mono (h : x.Yields a mid stopped) (hd : ∀ v a, mid v a → done v a) :
    x.Yields a done stopped := h.imp hd fun _ _ hs => hs

/-- What is said of a change where it is done. -/
theorem Yields.ifDone (h : x.Yields a mid stopped) : x.Yields a mid fun _ _ => True :=
  h.imp (fun _ _ hd => hd) fun _ _ _ => trivial

theorem Yields.bind (h : x.Yields a mid stopped)
    (hf : ∀ v a, mid v a → (f v).Yields a last stopped) : (x >>= f).Yields a last stopped :=
  yields_bind.2 (h.mono hf)

theorem Yields.view {g : Frame → α} (h : (f (g a.frame)).Yields a last stopped) :
    (view g >>= f).Yields a last stopped := h

theorem Yields.viewWorld {g : World → α} (h : (f (g a.world)).Yields a last stopped) :
    (viewWorld g >>= f).Yields a last stopped := h

theorem Yields.update {g : Frame → Frame} {f : Unit → Exec β}
    (h : (f ()).Yields { a with frame := g a.frame } last stopped) :
    (update g >>= f).Yields a last stopped := h

theorem Yields.updateWorld {g : World → World} {f : Unit → Exec β}
    (h : (f ()).Yields { a with world := g a.world } last stopped) :
    (updateWorld g >>= f).Yields a last stopped := h

theorem Yields.get {f : Activity → Exec β} (h : (f a).Yields a last stopped) :
    (MonadState.get >>= f).Yields a last stopped := h

theorem Yields.haltIf {p : Prop} [Decidable p] {reason : HaltReason}
    (h : p → stopped (.halt reason) a) :
    (haltIf p reason).Yields a (fun _ a' => ¬ p ∧ a = a') stopped := by
  unfold Exec.haltIf
  split_ifs with hp
  · exact h hp
  · exact ⟨hp, rfl⟩

/-- The word that is taken is the uppermost one. -/
theorem pop_spec (a : Activity) :
    pop.Yields a (fun x b => ∃ stack : Stack, a.frame.stack.items = x :: stack.items ∧
      b = { a with frame := { a.frame with stack := stack } }) fun _ b => b = a := by
  unfold pop
  refine Yields.get ?_
  cases hpop : a.frame.stack.pop? with
  | none => exact rfl
  | some item => exact ⟨item.2, Stack.pop?_eq_some.1 hpop, rfl⟩

theorem popMany_spec (n : Nat) (a : Activity) :
    (popMany n).Yields a (fun xs b => xs = a.frame.stack.items.take n ∧ ∃ stack : Stack,
      a.frame.stack.items.drop n = stack.items ∧
        b = { a with frame := { a.frame with stack := stack } }) fun _ _ => True := by
  induction n generalizing a with
  | zero => exact ⟨rfl, a.frame.stack, rfl, rfl⟩
  | succ n ih =>
    refine (pop_spec a).ifDone.bind ?_
    rintro x _ ⟨stack, hitems, rfl⟩
    refine (ih _).bind ?_
    rintro xs _ ⟨rfl, rest, hrest, rfl⟩
    rw [hitems]
    exact ⟨rfl, rest, hrest, rfl⟩

theorem useGas_spec (amount : Int) (a : Activity) :
    (useGas amount).Yields a
      (fun _ b => b = { a with frame := { a.frame with gas := a.frame.gas - amount } })
      fun _ b => b = a := by
  unfold useGas
  refine Yields.view ((Yields.haltIf fun _ => rfl).bind ?_)
  rintro _ _ ⟨-, rfl⟩
  exact rfl

theorem forbidStatic_spec (a : Activity) :
    forbidStatic.Yields a (fun _ b => a = b) fun _ b => b = a :=
  Yields.view ((Yields.haltIf fun _ => rfl).mono fun _ _ h => h.2)

@[simp] theorem attempt_ok (v : α) : attempt (.ok v) = Pure.pure v := rfl

end Exec

/-- Whether a fault may be met in a run of this scale. In a run of words it is a shortage, which
takes more gas than any memory costs. -/
def Scale.Excuses (k : Scale) (fault : Fault) : Prop :=
  match k.numbers with
  | .natural => fault ≠ .cutOff
  | .word => fault.IsShortage ∧ Gas.shortagePrice < k.gas

def Scale.Allows (k : Scale) : Stop → Prop
  | .halt reason => reason ≠ .internalError
  | .fault fault => k.Excuses fault

theorem Scale.excuses_shortage {k : Scale} {fault : Fault} (h : fault.IsShortage)
    (hgas : Gas.shortagePrice < k.gas) : k.Excuses fault := by
  unfold Excuses
  split
  · rcases h with rfl | rfl <;> decide
  · exact ⟨h, hgas⟩

structure Broken (k : Scale) (a₀ : Activity) (e : Stop) (a : Activity) : Prop where
  sound : a.Sound k.raised
  gas : a.frame.gas ≤ a₀.frame.gas
  stake : a.frame.stake ≤ a₀.frame.stake
  cause : k.Allows e

/-- The state within an operation that began in `a₀` and has paid at least `n`, with `h` items above
those that it leaves alone. -/
structure Stage (k : Scale) (a₀ : Activity) (rest : List Int) (h : Nat) (n : Int)
    (a : Activity) : Prop where
  sound : a.Sound k
  paid : 0 ≤ n
  limit : a₀.frame.stake ≤ k.gas
  gas : a.frame.gas + n ≤ a₀.frame.gas
  stake : a.frame.stake + n ≤ a₀.frame.stake
  status : a.frame.status = a₀.frame.status
  items : ∃ top, top.length = h ∧ a.frame.stack.items = top ++ rest

namespace Stage
open Exec

variable {k : Scale} {a₀ a : Activity} {rest : List Int} {h : Nat} {n m : Int}

theorem begin (hs : a.Sound k) (hh : h ≤ a.frame.stack.size) :
    Stage k a (a.frame.stack.items.drop h) h 0 a where
  sound := hs
  paid := le_rfl
  limit := hs.frame.stake
  gas := (add_zero _).le
  stake := (add_zero _).le
  status := rfl
  items := by
    refine ⟨a.frame.stack.items.take h, ?_, (List.take_append_drop h _).symm⟩
    rw [List.length_take, ← a.frame.stack.size_eq]
    omega

/-- Less was paid than was said. -/
theorem of_le (s : Stage k a₀ rest h n a) (hm : 0 ≤ m) (hmn : m ≤ n) : Stage k a₀ rest h m a where
  sound := s.sound
  paid := hm
  limit := s.limit
  gas := by have := s.gas; omega
  stake := by have := s.stake; omega
  status := s.status
  items := s.items

theorem broken (s : Stage k a₀ rest h n a) {e : Stop} (he : k.Allows e) : Broken k a₀ e a where
  sound := s.sound.raised
  gas := by have := s.gas; have := s.paid; omega
  stake := by have := s.stake; have := s.paid; omega
  cause := he

theorem halt (s : Stage k a₀ rest h n a) {α : Type} {done : α → Activity → Prop}
    {reason : HaltReason} (hr : reason ≠ .internalError) :
    (Exec.halt reason).Yields a done (Broken k a₀) := s.broken hr

theorem haltIf (s : Stage k a₀ rest h n a) (p : Prop) [Decidable p] {reason : HaltReason}
    (hr : reason ≠ .internalError) :
    (Exec.haltIf p reason).Yields a (fun _ a' => ¬ p ∧ a = a') (Broken k a₀) :=
  Yields.haltIf fun _ => s.broken hr

theorem attempt (s : Stage k a₀ rest h n a) {α : Type} (x : Except Fault α)
    (hx : ∀ fault, x = .error fault → k.Excuses fault) :
    (Exec.attempt x).Yields a (fun v a' => x = .ok v ∧ a = a') (Broken k a₀) := by
  cases x with
  | ok v => exact ⟨rfl, rfl⟩
  | error fault => exact s.broken (hx fault rfl)

/-- A stage after the stack was replaced. -/
theorem stack (s : Stage k a₀ rest h n a) {t : Stack} {h' : Nat}
    (ht : ∀ x ∈ t.items, k.numbers.Holds x)
    (hitems : ∃ top, top.length = h' ∧ t.items = top ++ rest) :
    Stage k a₀ rest h' n { a with frame := { a.frame with stack := t } } :=
  { s with
    sound := ⟨{ s.sound.frame with stack := ht }, s.sound.world⟩
    items := hitems }

theorem pop (s : Stage k a₀ rest (h + 1) n a) :
    Exec.pop.Yields a (fun x a => k.numbers.Holds x ∧ Stage k a₀ rest h n a) (Broken k a₀) := by
  obtain ⟨top, hlen, hitems⟩ := s.items
  obtain ⟨x, top, rfl⟩ := List.exists_cons_of_length_eq_add_one hlen
  have hholds := s.sound.frame.stack
  rw [hitems, List.cons_append, List.forall_mem_cons] at hholds
  have hpop : a.frame.stack.pop? = some (x, { items := top ++ rest }) :=
    Stack.pop?_eq_some.2 hitems
  unfold Exec.pop
  refine Yields.get ?_
  rw [hpop]
  exact ⟨hholds.1, s.stack hholds.2 ⟨top, Nat.succ.inj hlen, rfl⟩⟩

theorem push (s : Stage k a₀ rest h n a) {x : Int} (hx : k.numbers.Holds x) :
    (Exec.push x).Yields a (fun _ a => Stage k a₀ rest (h + 1) n a) (Broken k a₀) := by
  obtain ⟨top, hlen, hitems⟩ := s.items
  refine s.stack (List.forall_mem_cons.2 ⟨hx, s.sound.frame.stack⟩) ⟨x :: top, ?_, ?_⟩
  · rw [List.length_cons, hlen]
  · rw [Stack.items_push, hitems, List.cons_append]

theorem popMany {count : Nat} (s : Stage k a₀ rest (h + count) n a) :
    (Exec.popMany count).Yields a (fun _ a => Stage k a₀ rest h n a) (Broken k a₀) := by
  induction count generalizing a with
  | zero => exact s
  | succ count ih =>
    refine s.pop.bind fun x a hx => ?_
    exact (ih hx.2).bind fun xs a s => s

/-- Paying keeps a sound state sound, and what was paid is known. -/
theorem useGas (s : Stage k a₀ rest h n a) {amount : Int} (hamount : 0 ≤ amount) :
    (Exec.useGas amount).Yields a
      (fun _ a' => Stage k a₀ rest h (n + amount) a' ∧
        a' = a.mapFrame fun f => { f with gas := f.gas - amount })
      (Broken k a₀) := by
  unfold Exec.useGas
  refine Yields.view ?_
  refine (s.haltIf (a.frame.gas < amount) (by decide)).bind ?_
  rintro _ _ ⟨hp, rfl⟩
  refine ⟨{ s with
    sound := ⟨s.sound.frame.spend (Int.sub_nonneg_of_le (not_lt.1 hp)) (Int.sub_le_self _ hamount),
      s.sound.world⟩
    paid := Int.add_nonneg s.paid hamount
    gas := ?_
    stake := ?_ }, rfl⟩
  · have := s.gas
    dsimp only
    omega
  · have := s.stake
    have := a.frame.stake_pay amount
    dsimp only at *
    omega

/-- A request for more memory than can be held was paid with more than any memory costs. -/
theorem excuses_expansion (s : Stage k a₀ rest h (n + m) a) (hn : 0 ≤ n) {words : Int}
    (hm : m = Gas.memoryCost words - Gas.memoryCost a.frame.memoryWords)
    (hwords : Bytes.maxSize < words * 32) {fault : Fault} (hf : fault.IsShortage) :
    k.Excuses fault := by
  refine Scale.excuses_shortage hf ?_
  have hprice := Gas.shortagePrice_lt hwords
  have hgas := s.sound.frame.gas
  have hlimit := s.limit
  have hstake :
      a.frame.gas + Gas.memoryCost a.frame.memoryWords + (n + m) ≤ a₀.frame.stake := s.stake
  omega

theorem stake_extend {f : Frame} {words : Int} {zeros : Bytes}
    (hwords : f.memory.size = f.memoryWords * 32)
    (hzeros : (zeros.size : Int) = (words - f.memoryWords) * 32) :
    Frame.stake { f with memory := f.memory ++ zeros } =
      f.stake + (Gas.memoryCost words - Gas.memoryCost f.memoryWords) := by
  have hsize : (((f.memory ++ zeros).size / 32 : Nat) : Int) = words := by
    rw [Array.size_append]
    omega
  simp only [Frame.stake, Frame.memoryWords] at *
  rw [hsize]
  omega

/-- Memory that was paid for is added. -/
theorem extend {words : Int}
    (s : Stage k a₀ rest h (n + (Gas.memoryCost words - Gas.memoryCost a.frame.memoryWords)) a)
    (hn : 0 ≤ n) {zeros : Bytes} (hzeros : (zeros.size : Int) = (words - a.frame.memoryWords) * 32)
    (hcost : Gas.memoryCost a.frame.memoryWords ≤ Gas.memoryCost words)
    (hheld : (a.frame.memory ++ zeros).Held) :
    Stage k a₀ rest h n { a with frame := { a.frame with memory := a.frame.memory ++ zeros } } := by
  have hsize := s.sound.frame.words
  have hextend := stake_extend hsize hzeros
  have hgas := s.gas
  have hstake := s.stake
  have hlimit := s.limit
  dsimp only at *
  refine { s with
    sound := ⟨{ s.sound.frame with stake := ?_, words := ?_, memory := hheld }, s.sound.world⟩
    paid := hn
    gas := ?_
    stake := ?_ }
  · dsimp only
    omega
  · simp only [Frame.memoryWords] at *
    rw [Array.size_append]
    omega
  · dsimp only
    omega
  · dsimp only
    omega

/-- The memory reaches over a range that was asked for; its price stays in the stake. -/
theorem expandMemory (s : Stage k a₀ rest h n a) (offset size : Int) :
    (Exec.expandMemory offset size).Yields a
      (fun _ a => Stage k a₀ rest h n a ∧ (size ≠ 0 → offset + size ≤ a.frame.memory.size))
      (Broken k a₀) := by
  unfold Exec.expandMemory
  by_cases hz : size = 0
  · rw [if_neg (not_not.2 hz)]
    exact ⟨s, fun h => absurd hz h⟩
  rw [if_pos hz]
  refine Yields.view ?_
  by_cases hin : offset + size ≤ a.frame.memoryWords * 32
  · rw [if_neg hin.not_gt]
    have := s.sound.frame.words
    exact ⟨s, fun _ => by omega⟩
  rw [if_pos (not_le.1 hin)]
  have hmore := Gas.lt_wordsFor (not_le.1 hin)
  have hreach := Gas.le_wordsFor (offset + size)
  generalize Gas.wordsFor (offset + size) = words at *
  have hcost := Gas.memoryCost_mono (Int.natCast_nonneg a.frame.memoryWords) hmore.le
  refine (s.useGas (Int.sub_nonneg_of_le hcost)).bind ?_
  rintro _ a' ⟨s', ha⟩
  have hwords : a.frame.memoryWords = a'.frame.memoryWords := by rw [ha]; rfl
  rw [hwords] at hmore hcost s' ⊢
  have hfull := s'.sound.frame.words
  have hroom : 0 ≤ (words - a'.frame.memoryWords) * 32 := by omega
  refine (s'.attempt _ fun fault hf => ?_).bind ?_
  · obtain ⟨hshort, hmax⟩ := Bytes.zeros_error hroom hf
    exact s'.excuses_expansion s.paid rfl (by omega) hshort
  rintro zeros _ ⟨hzeros, rfl⟩
  have hsize : (zeros.size : Int) = (words - a'.frame.memoryWords) * 32 := by
    rw [Bytes.size_zeros hzeros, Int.toNat_of_nonneg hroom]
  refine Yields.view ?_
  refine (s'.attempt _ fun fault hf => ?_).bind ?_
  · obtain ⟨hshort, hmax⟩ := Bytes.checkSize_error hf
    exact s'.excuses_expansion s.paid rfl (by omega) hshort
  rintro _ _ ⟨hcheck, rfl⟩
  have hheld : (a'.frame.memory ++ zeros).Held := by
    have := Bytes.checkSize_ok hcheck
    rwa [Bytes.Held, Array.size_append, Nat.cast_add]
  refine ⟨s'.extend s.paid hsize hcost hheld, fun _ => ?_⟩
  rw [Array.size_append]
  omega

theorem readMemory (s : Stage k a₀ rest h n a) {offset size : Int} (ho : 0 ≤ offset)
    (hs : 0 ≤ size) :
    (Exec.readMemory offset size).Yields a
      (fun data a => data.Held ∧ (data.size : Int) ≤ size ∧ Stage k a₀ rest h n a)
      (Broken k a₀) := by
  unfold Exec.readMemory
  split_ifs
  · exact ⟨Bytes.held_empty, hs, s⟩
  · refine (s.expandMemory offset size).bind ?_
    rintro _ a ⟨s, -⟩
    exact ⟨s.sound.frame.memory.slice _ _, Bytes.size_slice_le_range _ ho hs, s⟩

/-- Replacing a range inside the memory. -/
theorem writeMemory (s : Stage k a₀ rest h n a) {start stop : Int} {bytes : Bytes}
    (h₀ : 0 ≤ start) (h₁ : start ≤ stop) (h₂ : stop ≤ a.frame.memory.size)
    (hbytes : (bytes.size : Int) = stop - start) :
    (Exec.writeMemory start stop bytes).Yields a (fun _ a => Stage k a₀ rest h n a)
      (Broken k a₀) := by
  have hsize := Bytes.size_splice h₀ h₁ h₂ hbytes
  have hwords : Frame.memoryWords
      { a.frame with memory := a.frame.memory.splice start stop bytes } = a.frame.memoryWords := by
    rw [Frame.memoryWords, hsize, Frame.memoryWords]
  have hstake : Frame.stake { a.frame with memory := a.frame.memory.splice start stop bytes } =
      a.frame.stake := by
    rw [Frame.stake, hwords, Frame.stake]
  exact { s with
    sound := ⟨{ s.sound.frame with
      stake := hstake.trans_le s.sound.frame.stake
      words := by rw [hsize, hwords, s.sound.frame.words]
      memory := by rw [Bytes.Held, hsize]; exact s.sound.frame.memory }, s.sound.world⟩
    stake := by
      have := s.stake
      dsimp only at *
      omega }

theorem copyToMemory (s : Stage k a₀ rest h n a) (dest : Int) (source : Bytes) {offset size : Int}
    (hd : 0 ≤ dest) (ho : 0 ≤ offset) (hs : 0 ≤ size) :
    (Exec.copyToMemory dest source offset size).Yields a (fun _ a => Stage k a₀ rest h n a)
      (Broken k a₀) := by
  unfold Exec.copyToMemory
  have hprice : 0 ≤ Gas.copyWord * Gas.wordsFor size :=
    Int.mul_nonneg (by decide) (Gas.wordsFor_nonneg hs)
  refine (s.useGas hprice).bind ?_
  rintro _ a ⟨s', -⟩
  replace s := s'.of_le s.paid (Int.le_add_of_nonneg_right hprice)
  by_cases hz : size = 0
  · rw [if_neg (not_not.2 hz)]
    exact s
  rw [if_pos hz]
  refine (s.expandMemory dest size).bind ?_
  rintro _ a ⟨s, hreach⟩
  have hmemory : (a.frame.memory.size : Int) ≤ Bytes.maxSize := s.sound.frame.memory
  have hend := hreach hz
  obtain ⟨bytes, hb, hsize⟩ := Bytes.padded_ok source ho hs (by omega)
  rw [hb, attempt_ok]
  exact s.writeMemory hd (by omega) hend (by omega)

/-- A change of the access list alone. -/
theorem of_access (s : Stage k a₀ rest h n a) (access : AccessList) :
    Stage k a₀ rest h n { a with access := access } :=
  { s with sound := ⟨s.sound.frame, s.sound.world⟩ }

/-- Warming an account has a price, and changes nothing but the access list. -/
theorem accessCost (s : Stage k a₀ rest h n a) (address : Address) :
    (Exec.accessCost address).Yields a
      (fun cost a' => Gas.warmAccess ≤ cost ∧ Stage k a₀ rest h n a' ∧ a'.frame = a.frame)
      (Broken k a₀) := by
  refine ⟨?_, s.of_access _, rfl⟩
  split_ifs <;> decide

theorem warmAddress (s : Stage k a₀ rest h n a) (address : Address) :
    (Exec.warmAddress address).Yields a (fun _ a => Stage k a₀ rest h n a) (Broken k a₀) :=
  s.of_access _

theorem warmSlot (s : Stage k a₀ rest h n a) (key : Int) :
    (Exec.warmSlot key).Yields a (fun _ a => Stage k a₀ rest h n a) (Broken k a₀) :=
  s.of_access _

theorem forbidStatic (s : Stage k a₀ rest h n a) :
    Exec.forbidStatic.Yields a (fun _ a' => a = a') (Broken k a₀) := by
  unfold Exec.forbidStatic
  exact Yields.view ((s.haltIf _ (by decide)).mono fun _ _ h => h.2)

/-- A change of the program counter alone. -/
theorem of_pc (s : Stage k a₀ rest h n a) (pc : Nat) :
    Stage k a₀ rest h n { a with frame := { a.frame with pc := pc } } :=
  { s with sound := ⟨{ s.sound.frame with }, s.sound.world⟩ }

/-- A change of the world alone. -/
theorem of_world (s : Stage k a₀ rest h n a) {w : World} (hw : w.Sound k) :
    Stage k a₀ rest h n { a with world := w } :=
  { s with sound := ⟨s.sound.frame, hw⟩ }

end Stage
end Gasometer
