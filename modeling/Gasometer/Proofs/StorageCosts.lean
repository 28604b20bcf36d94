import Gasometer.Proofs.Towers
import Gasometer.Proofs.Warmth

/-!
# What storage writes cost

The price of a storage write depends on three values of the slot: what it is to hold, what it holds
now, as the layer of the frame shows it, and what it held when the transaction began. Frames write
to the layers above the given world, and only the end of the launch commits into it. So that world
shows the first value at every moment of a launch, to frames of every depth, whatever others have
written, committed or taken back before.
-/
namespace Gasometer

theorem World.account_modify (w : World) (a : Address) (f : Account → Account) :
    (w.modify a f).account a = f (w.account a) := by
  unfold account modify
  rw [get?_write, if_pos rfl]
  rfl

/-- A storage write that is done: its operands, its price, and what is stored and warm after it. -/
structure Activity.Writes (a : Activity) (key value : Int) (b : Activity) : Prop where
  operands : [key, value] <+: a.frame.stack.items
  price : a.frame.gas - b.frame.gas =
    Exec.sstoreCost (decide (a.access.Warm (.slot a.frame.context.address key)))
      (Exec.initialValue a.world a.frame.context key)
      ((a.world.account a.frame.context.address).load key) value
  world : b.world = a.world.modify a.frame.context.address (·.store key value)
  access : b.access = a.access.touch (some (.slot a.frame.context.address key))

namespace Exec

variable {a a' : Activity} {child? : Option Frame}

/-- A slot that does not hold its first value is dirty, and dirty slots are cheap. -/
theorem sstoreCost_eq (warm : Bool) (initial current value : Int) :
    sstoreCost warm initial current value =
      (if warm then 0 else 2100) +
        if current = value ∨ current ≠ initial then 100
        else if initial = 0 then 20000 else 2900 := by
  have hset : Gas.sstoreReset = 2900 := rfl
  have hcold : Gas.coldSload = 2100 := rfl
  have hwarm : Gas.warmAccess = 100 := rfl
  have hfirst : Gas.sstoreSet = 20000 := rfl
  unfold sstoreCost
  rw [hset, hcold, hwarm, hfirst]
  by_cases hsame : current = value
  · simp [hsame]
  · by_cases hclean : initial = current
    · simp [hsame, hclean]
    · simp [hsame, hclean, Ne.symm hclean]

/-- Over the world in which the transaction began, what a slot held first is what that world
shows. -/
theorem initialValue_eq {w world : World} {c : Context} (hworld : world.layers <:+ w.below)
    (hlayers : c.originLayers = world.layers.length) (key : Int) :
    initialValue w c key = (world.account c.address).load key := by
  obtain ⟨upper, hupper⟩ := hworld
  rw [initialValue, hlayers, ← hupper, List.length_append, Nat.add_sub_cancel, List.drop_left]
  rfl

theorem sstore_writes (a : Activity) :
    sstore.Yields a (fun _ b => ∃ key value, a.Writes key value b) fun _ _ => True := by
  refine (forbidStatic_spec a).ifDone.bind ?_
  rintro _ _ rfl
  refine Yields.view ((Yields.haltIf fun _ => trivial).bind ?_)
  rintro _ _ ⟨-, rfl⟩
  refine (pop_spec a).ifDone.bind ?_
  rintro key _ ⟨stack, hkey, rfl⟩
  refine (pop_spec _).ifDone.bind ?_
  rintro value _ ⟨rest, hvalue, rfl⟩
  refine Yields.view (Yields.viewWorld (Yields.viewWorld (Yields.warmSlot ?_)))
  refine (useGas_spec _ _).ifDone.bind ?_
  rintro _ _ rfl
  refine ⟨key, value, ?_, ?_, rfl, rfl⟩
  · exact ⟨rest.items, by rw [hkey, show stack.items = value :: rest.items from hvalue]; rfl⟩
  · rw [← AccessList.warmSlot_fst]
    exact sub_sub_cancel ..

/-- The static price of a storage write is nothing: all of its price depends on the slot. -/
theorem writes_of_step (h : step Opcode.sstore.byte a = .ok child? a') :
    child? = none ∧ ∃ key value, a.Writes key value a' := by
  obtain ⟨info, hinfo, -, hexecute⟩ := step_eq_ok h
  have hfree : info.gas = 0 := by
    cases hinfo
    rfl
  have hlone : Lone (execute .sstore) := lone_execute not_false
  refine ⟨hlone.of_ok hexecute, ?_⟩
  have hwrites : (execute .sstore).Yields (paid info a)
      (fun _ b => ∃ key value, (paid info a).Writes key value b) fun _ _ => True :=
    (sstore_writes (paid info a)).bind fun _ _ hb => hb
  obtain ⟨key, value, hoperands, hprice, hworld, haccess⟩ := hwrites.of_ok hexecute
  refine ⟨key, value, hoperands, ?_, hworld, haccess⟩
  rw [← sub_zero a.frame.gas, ← hfree]
  exact hprice

end Exec

namespace Meter

/-- In every state of a launch, whatever a frame of any depth reads as the first value of a slot is
what the given world holds. -/
theorem initialValue_of_reaches {m : Meter} {code : Bytes} {world : World} {gasLimit : Int}
    {a : Activity} {below : List Frame}
    (hreach : Reaches {} (m.opening code world gasLimit) (a.atop below)) (key : Int) :
    Exec.initialValue a.world a.frame.context key =
      (world.account a.frame.context.address).load key := by
  obtain ⟨hlayers, hworld⟩ := context_of_reaches
    (q := fun c => c.originLayers = world.layers.length) rfl
    (fun h hdeed => hdeed.originLayers.trans h) hreach
  exact Exec.initialValue_eq hworld hlayers key

/-- A storage write that is done in a launch, in a frame of any depth, costs 2100 if the slot was
cold, and besides 100 if the frame sees the new value there already or does not see the value that
the given world holds; otherwise it costs 20000 if that value is zero, and 2900 if not. This does
not depend on what other frames have written, committed or taken back before. After it the frame
sees the new value, and the slot is warm. -/
theorem launch_sstore_costs (m : Meter) (code : Bytes) (world : World) (gasLimit : Int) :
    ∀ a below child? a', Reaches {} (m.opening code world gasLimit) (Activity.atop a below) →
      a.frame.status = .executing → a.nextByte? = some Opcode.sstore.byte →
      Exec.step Opcode.sstore.byte a = .ok child? a' →
      ∃ key value, [key, value] <+: a.frame.stack.items ∧
        let address := a.frame.context.address
        let current := (a.world.account address).load key
        let original := (world.account address).load key
        a.frame.gas - a'.frame.gas =
          (if (address, key) ∈ a.access.slots then 0 else 2100) +
            (if current = value ∨ current ≠ original then 100
              else if original = 0 then 20000 else 2900) ∧
        (a'.world.account address).load key = value ∧ (address, key) ∈ a'.access.slots := by
  intro a below child? a' hreach _ _ hstep
  obtain ⟨-, key, value, hoperands, hprice, hworld, haccess⟩ := Exec.writes_of_step hstep
  have hcold : decide (a.access.Warm (.slot a.frame.context.address key)) =
      decide ((a.frame.context.address, key) ∈ a.access.slots) := decide_eq_decide.2 Iff.rfl
  refine ⟨key, value, hoperands, ?_, ?_, ?_⟩
  · rw [hprice, Exec.sstoreCost_eq, initialValue_of_reaches hreach, hcold]
    simp only [decide_eq_true_eq]
  · rw [hworld, World.account_modify, Account.load_store, if_pos rfl]
  · have hwarm : a'.access.Warm (.slot a.frame.context.address key) := by
      rw [haccess, AccessList.warm_touch]
      exact .inr rfl
    exact hwarm

/-- Calls itself, changes the preset slot in the call, and changes it once more after it. -/
def writingTwice : Bytes :=
  #[0x33, 0x32, 0x14, 0x60, 0x0c, 0x57, 0x60, 0x01, 0x60, 0x54, 0x55, 0x00, 0x5b, 0x3d, 0x3d, 0x3d,
    0x3d, 0x3d, 0x30, 0x5a, 0xf1, 0x50, 0x60, 0x02, 0x60, 0x54, 0x55]

def writesAgain (a : Activity) (below : List Frame) : Bool :=
  decide (below = []) && a.frame.status == .executing && a.nextByte? == some Opcode.sstore.byte &&
    decide (a.frame.context.address = Fixture.receiver ∧
      a.frame.stack.items = [Fixture.presetSlot, 2] ∧
      a.access.Warm (.slot Fixture.receiver Fixture.presetSlot) ∧
      (a.world.account Fixture.receiver).load Fixture.presetSlot = 1) &&
    match Exec.step Opcode.sstore.byte a with
    | .ok .. => true
    | .error .. => false

theorem launch_sstore_costs_writingTwice :
    ∃ a child? a', (Reaches {}
        (({} : Meter).opening writingTwice (Fixture.world writingTwice) 1000) (Activity.atop a []) ∧
      a.frame.status = .executing ∧ a.nextByte? = some Opcode.sstore.byte ∧
      Exec.step Opcode.sstore.byte a = .ok child? a') ∧
      a.frame.gas - a'.frame.gas = 100 ∧
      (a'.world.account Fixture.receiver).load Fixture.presetSlot = 2 := by
  have hrun : ((({} : Meter).opening writingTwice (Fixture.world writingTwice) 1000).movedAbove? {}
      0 29).any (Machine.sees writesAgain) = true := by decide +kernel
  obtain ⟨a, below, hreach, hwrites⟩ := Machine.exists_of_sees hrun
  simp only [writesAgain, Bool.and_eq_true, decide_eq_true_eq, beq_iff_eq] at hwrites
  obtain ⟨⟨⟨⟨rfl, hstatus⟩, hbyte⟩, haddress, hitems, hslot, hcurrent⟩, hok⟩ := hwrites
  cases hstep : Exec.step Opcode.sstore.byte a with
  | error e a' =>
    rw [hstep] at hok
    cases hok
  | ok child? a' =>
    obtain ⟨key, value, hoperands, hprice, hstored, -⟩ := launch_sstore_costs {} writingTwice
      (Fixture.world writingTwice) 1000 a [] child? a' hreach.reaches hstatus hbyte hstep
    obtain ⟨rfl, rfl⟩ : Fixture.presetSlot = key ∧ 2 = value := by
      obtain ⟨rest, hrest⟩ := hoperands
      rw [hitems] at hrest
      obtain ⟨hkey, hrest⟩ := List.cons.inj hrest
      exact ⟨hkey.symm, (List.cons.inj hrest).1.symm⟩
    have hwarm : (Fixture.receiver, Fixture.presetSlot) ∈ a.access.slots := hslot
    have horiginal : ((Fixture.world writingTwice).account Fixture.receiver).load
        Fixture.presetSlot = Fixture.presetValue := by decide +kernel
    rw [haddress] at hprice hstored
    -- the call has made the slot warm, and has changed it from what the root holds
    rw [if_pos hwarm, hcurrent, horiginal, if_pos (.inr (by decide))] at hprice
    exact ⟨a, child?, a', ⟨hreach.reaches, hstatus, hbyte, hstep⟩, hprice, hstored⟩

end Meter
end Gasometer
