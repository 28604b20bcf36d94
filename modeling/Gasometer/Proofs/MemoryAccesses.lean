import Gasometer.Proofs.Entries
import Gasometer.Proofs.Warmth

/-!
# What operations do to the memory

An operation asks for regions of the memory, reads some of them and writes to others. What it costs
is its static price, what its operands and the state add to that, and what the memory costs more
than before. `Opcode.Effect` puts this down for every operation, in terms of the state before it.

The operands must not be negative: a range with a negative end counts from the end of the memory.
-/
namespace Gasometer

namespace AccessList

def accountPrice (l : AccessList) (a : Address) : Int :=
  if l.Warm (.account a) then Gas.warmAccess else Gas.coldAccount

def slotPrice (l : AccessList) (a : Address) (key : Int) : Int :=
  if l.Warm (.slot a key) then Gas.warmAccess else Gas.coldSload

end AccessList

namespace Activity

def item (a : Activity) (n : Nat) : Int := a.frame.stack.items.getD n 0

def source (a : Activity) : CopySource → Bytes
  | .calldata => a.frame.context.input
  | .code => a.frame.context.code.bytes
  | .returndata => a.frame.returnData

def callValue (a : Activity) (kind : CallKind) : Int :=
  if Exec.takesValue kind then a.item 2 else 0

/-- A state with whole words of memory and no negative word on the stack. -/
structure Orderly (a : Activity) : Prop where
  words : a.frame.memory.size = a.frame.memoryWords * 32
  stack : ∀ x ∈ a.frame.stack.items, 0 ≤ x

theorem Sound.orderly {k : Scale} {a : Activity} (h : a.Sound k) : a.Orderly :=
  ⟨h.frame.words, fun x hx => (h.frame.stack x hx).nonneg⟩

theorem Orderly.item_nonneg {a : Activity} (h : a.Orderly) (n : Nat) : 0 ≤ a.item n := by
  unfold item
  rw [List.getD_eq_getElem?_getD]
  cases hn : a.frame.stack.items[n]? with
  | none => exact le_rfl
  | some x => exact h.stack x (List.mem_of_getElem? hn)

end Activity

namespace Opcode

def callRegions (kind : CallKind) : Nat := if Exec.takesValue kind then 3 else 2

def regions (op : Opcode) (a : Activity) : List Region :=
  match op with
  | .keccak256 | .log _ | .ret | .revert => [⟨a.item 0, a.item 1⟩]
  | .mload | .mstore => [⟨a.item 0, 32⟩]
  | .mstore8 => [⟨a.item 0, 1⟩]
  | .copy _ => [⟨a.item 0, a.item 2⟩]
  | .extcodecopy => [⟨a.item 1, a.item 3⟩]
  | .create | .create2 => [⟨a.item 1, a.item 2⟩]
  | .call kind =>
    let n := callRegions kind
    [⟨a.item n, a.item (n + 1)⟩, ⟨a.item (n + 2), a.item (n + 3)⟩]
  | _ => []

/-- What an operation writes to the memory. Copies take what lies past the end of their source as
zero. -/
def writes (op : Opcode) (a : Activity) : List Write :=
  match op with
  | .mstore => [⟨a.item 0, Bytes.ofNat 32 (a.item 1).toNat⟩]
  | .mstore8 => [⟨a.item 0, #[UInt8.ofNat (a.item 1 % 256).toNat]⟩]
  | .copy source => [⟨a.item 0, Cells.read (a.source source).cell (a.item 1) (a.item 2)⟩]
  | .extcodecopy =>
    let account := a.world.account (Address.ofInt (a.item 0))
    [⟨a.item 1, Cells.read account.code.cell (a.item 2) (a.item 3)⟩]
  | _ => []

/-- What an operation makes of the bytes that it reads, in a memory with these cells. -/
def Delivers (op : Opcode) (c : Cells) (a : Activity) (child? : Option Frame) (a' : Activity) :
    Prop :=
  match op with
  | .mload =>
    a'.frame.stack.items = ((c.read (a.item 0) 32).toNat : Int) :: a.frame.stack.items.drop 1
  | .keccak256 =>
    a'.frame.stack.items =
      ((Keccak.hash (c.read (a.item 0) (a.item 1))).toNat : Int) :: a.frame.stack.items.drop 2
  | .log topics => a'.frame.logs = a.frame.logs ++ [⟨a.frame.context.address,
      (a.frame.stack.items.drop 2).take topics, c.read (a.item 0) (a.item 1)⟩]
  | .ret | .revert => a'.frame.output = c.read (a.item 0) (a.item 1)
  | .create | .create2 => ∀ child ∈ child?,
      child.context.code = Code.ofBytes (c.read (a.item 1) (a.item 2))
  | .call kind => ∀ child ∈ child?,
      child.context.input = c.read (a.item (callRegions kind)) (a.item (callRegions kind + 1))
  | _ => True

/-- What an operation costs besides its static price and the price of the memory. A call with value
gets its stipend back. -/
def surcharge (op : Opcode) (a : Activity) : Int :=
  let address := a.frame.context.address
  match op with
  | .exp => Gas.expByte * Word.byteLength (a.item 1)
  | .keccak256 => Gas.keccak256Word * Gas.wordsFor (a.item 1)
  | .accountQuery _ => a.access.accountPrice (Address.ofInt (a.item 0))
  | .copy _ => Gas.copyWord * Gas.wordsFor (a.item 2)
  | .extcodecopy =>
    a.access.accountPrice (Address.ofInt (a.item 0)) + Gas.copyWord * Gas.wordsFor (a.item 3)
  | .sload => a.access.slotPrice address (a.item 0)
  | .sstore =>
    Exec.sstoreCost (a.access.Warm (.slot address (a.item 0)))
      (Exec.initialValue a.world a.frame.context (a.item 0))
      ((a.world.account address).load (a.item 0)) (a.item 1)
  | .log topics => Gas.logTopic * topics.val + Gas.logByte * a.item 1
  | .create2 => Gas.keccak256Word * Gas.wordsFor (a.item 2)
  | .call kind =>
    let target := Address.ofInt (a.item 1)
    let value := a.callValue kind
    Exec.callCost kind (a.access.accountPrice target) value (a.world.isDead target) -
      if value = 0 then 0 else Gas.callStipend
  | .selfdestruct =>
    let heir := Address.ofInt (a.item 0)
    (if a.access.Warm (.account heir) then 0 else Gas.coldAccount) +
      if (a.world.account address).balance ≠ 0 ∧ a.world.isDead heir then Gas.newAccount else 0
  | _ => 0

end Opcode

/-- The state after an operation that began in `a₀`, has paid so much besides the price of the
memory, and has written this. -/
structure Activity.Tally (a₀ : Activity) (words paid : Int) (ws : List Write) (a : Activity) :
    Prop where
  size : (a.frame.memory.size : Int) = 32 * words
  cells : a.frame.memory.cell = a₀.frame.memory.cell.overlay ws
  gas : a.frame.gas + paid + Gas.memoryCost words =
    a₀.frame.gas + Gas.memoryCost a₀.frame.memoryWords

def Frame.given (child? : Option Frame) : Int := child?.elim 0 Frame.gas

/-- What an operation does whose static price was paid. -/
structure Opcode.Effect (op : Opcode) (a : Activity) (child? : Option Frame) (a' : Activity) :
    Prop where
  tally : a.Tally (max a.frame.memoryWords (Region.wordsOf (op.regions a)))
    (op.surcharge a + Frame.given child?) (op.writes a) a'
  delivers : op.Delivers a.frame.memory.cell a child? a'

namespace Exec

theorem place_of_bytePlace {size : Nat} {offset place : Int} (h₀ : 0 ≤ offset)
    (h : bytePlace size offset = .ok place) : offset = place := by
  unfold bytePlace at h
  simp only [h₀.not_gt, if_false] at h
  split_ifs at h
  exact Except.ok.inj h

end Exec

/-! Operations on their way. -/

/-- The state within an operation that began in `a₀`, has taken so many words from the stack, has
paid so much besides the price of the memory, and has written nothing yet. -/
structure Underway (a₀ : Activity) (l : AccessList) (n : Nat) (words paid : Int) (a : Activity) :
    Prop extends Activity.Tally a₀ words paid [] a where
  frame : a.frame =
    { a₀.frame with gas := a.frame.gas, stack := a.frame.stack, memory := a.frame.memory }
  world : a.world = a₀.world
  access : a.access = l
  items : a.frame.stack.items = a₀.frame.stack.items.drop n

namespace Underway
open Exec

variable {a₀ a : Activity} {l : AccessList} {n : Nat} {words paid : Int}

/-- The beginning of an operation. -/
theorem begin (h : a.Orderly) : Underway a a.access 0 a.frame.memoryWords 0 a where
  size := by have := h.words; omega
  cells := rfl
  gas := by omega
  frame := rfl
  world := rfl
  access := rfl
  items := rfl

theorem memoryWords (s : Underway a₀ l n words paid a) : (a.frame.memoryWords : Int) = words := by
  have := s.size
  unfold Frame.memoryWords
  omega

theorem words_nonneg (s : Underway a₀ l n words paid a) : 0 ≤ words := by
  have := s.size
  omega

theorem context (s : Underway a₀ l n words paid a) : a.frame.context = a₀.frame.context := by
  rw [s.frame]

theorem pop (s : Underway a₀ l n words paid a) :
    Exec.pop.Yields a (fun x a => x = a₀.item n ∧ Underway a₀ l (n + 1) words paid a)
      fun _ _ => True := by
  refine (pop_spec a).ifDone.mono ?_
  rintro x _ ⟨stack, hitems, rfl⟩
  have hdrop : a₀.frame.stack.items.drop n = x :: stack.items := s.items.symm.trans hitems
  refine ⟨?_, { s with frame := ?_, items := ?_ }⟩
  · have hget : a₀.frame.stack.items[n]? = some x := by
      rw [← List.head?_drop, hdrop]
      rfl
    rw [Activity.item, List.getD_eq_getElem?_getD, hget]
    rfl
  · rw [s.frame]
  · rw [← List.tail_drop, hdrop]
    rfl

theorem popMany (s : Underway a₀ l n words paid a) (count : Nat) :
    (Exec.popMany count).Yields a (fun _ a => Underway a₀ l (n + count) words paid a)
      fun _ _ => True := by
  induction count generalizing n a with
  | zero => exact s
  | succ count ih =>
    refine s.pop.bind ?_
    rintro x a ⟨-, s⟩
    refine (ih s).bind fun xs a s => ?_
    rwa [Nat.add_assoc, Nat.add_comm 1] at s

theorem useGas (s : Underway a₀ l n words paid a) (amount : Int) :
    (Exec.useGas amount).Yields a (fun _ a => Underway a₀ l n words (paid + amount) a)
      fun _ _ => True := by
  refine (useGas_spec amount a).ifDone.mono ?_
  rintro _ _ rfl
  have hgas := s.gas
  exact { s with
    frame := by rw [s.frame]
    gas := by dsimp only; omega }

theorem haltIf (s : Underway a₀ l n words paid a) (p : Prop) [Decidable p] (reason : HaltReason) :
    (Exec.haltIf p reason).Yields a (fun _ a => Underway a₀ l n words paid a) fun _ _ => True := by
  refine (Yields.haltIf fun _ => trivial).mono ?_
  rintro _ _ ⟨-, rfl⟩
  exact s

theorem forbidStatic (s : Underway a₀ l n words paid a) :
    Exec.forbidStatic.Yields a (fun _ a => Underway a₀ l n words paid a) fun _ _ => True :=
  Yields.view (s.haltIf _ _)

/-- The memory reaches over a region; its price is paid apart from all else. -/
theorem expandMemory (s : Underway a₀ l n words paid a) (offset size : Int) :
    (Exec.expandMemory offset size).Yields a
      (fun _ a => Underway a₀ l n (max words (Region.words ⟨offset, size⟩)) paid a)
      fun _ _ => True := by
  have hnonneg := s.words_nonneg
  unfold Exec.expandMemory Region.words
  by_cases hz : size = 0
  · rw [if_neg (not_not.2 hz), if_pos hz, max_eq_left hnonneg]
    exact s
  rw [if_pos hz, if_neg hz]
  refine Yields.view ?_
  dsimp only
  rw [s.memoryWords]
  by_cases hin : offset + size ≤ words * 32
  · rw [if_neg hin.not_gt, max_eq_left (by unfold Gas.wordsFor; omega)]
    exact s
  rw [if_pos (not_le.1 hin)]
  have hmore := Gas.lt_wordsFor (not_le.1 hin)
  rw [max_eq_right hmore.le]
  generalize Gas.wordsFor (offset + size) = more at *
  refine (useGas_spec _ a).ifDone.bind ?_
  rintro _ _ rfl
  cases hzeros : Bytes.zeros ((more - words) * 32) with
  | error fault => trivial
  | ok zeros =>
    rw [attempt_ok, pure_bind]
    refine Yields.view ?_
    cases Bytes.checkSize _ with
    | error fault => trivial
    | ok =>
      have hsize := Bytes.size_zeros hzeros
      have hbefore := s.size
      have hgas := s.gas
      refine { s with size := ?_, cells := ?_, gas := ?_, frame := ?_ }
      · show ((a.frame.memory ++ zeros).size : Int) = 32 * more
        rw [Array.size_append]
        omega
      · exact (Bytes.cell_append_zeros hzeros).trans s.cells
      · dsimp only
        omega
      · rw [s.frame]

/-- A memory of enough words reaches over a region. -/
theorem reaches (s : Underway a₀ l n words paid a) {offset size : Int}
    (hwords : Region.words ⟨offset, size⟩ ≤ words) (h : size ≠ 0) :
    offset + size ≤ a.frame.memory.size := by
  have hreach := Gas.le_wordsFor (offset + size)
  have hsize := s.size
  rw [Region.words, if_neg h] at hwords
  dsimp only at hwords
  omega

/-- What is read are the cells that the memory had at the beginning. -/
theorem readMemory (s : Underway a₀ l n words paid a) {offset size : Int} (ho : 0 ≤ offset)
    (hs : 0 ≤ size) :
    (Exec.readMemory offset size).Yields a
      (fun data a => data = a₀.frame.memory.cell.read offset size ∧
        Underway a₀ l n (max words (Region.words ⟨offset, size⟩)) paid a) fun _ _ => True := by
  unfold Exec.readMemory
  split_ifs with hz
  · subst hz
    rw [Region.words, if_pos rfl, max_eq_left s.words_nonneg]
    exact ⟨rfl, s⟩
  · refine (s.expandMemory offset size).bind fun _ a s => ⟨?_, s⟩
    rw [← show a.frame.memory.cell = a₀.frame.memory.cell from s.cells]
    exact Bytes.slice_eq_read ho hs (s.reaches (le_max_right ..) hz)

/-- Bytes that are put into the place of as many others. -/
theorem write (s : Underway a₀ l n words paid a) {start stop : Int} {bytes : Bytes} (h₀ : 0 ≤ start)
    (hstop : stop = start + bytes.size) (hend : stop ≤ a.frame.memory.size) :
    (Exec.writeMemory start stop bytes).Yields a
      (fun _ a => Activity.Tally a₀ words paid [⟨start, bytes⟩] a) fun _ _ => True := by
  have hsize := Bytes.size_splice h₀ (by omega) hend (by omega : (bytes.size : Int) = stop - start)
  have hcells := Bytes.cell_splice h₀ hstop hend
  refine ⟨?_, ?_, s.gas⟩
  · show ((a.frame.memory.splice start stop bytes).size : Int) = 32 * words
    rw [hsize, s.size]
  · show (a.frame.memory.splice start stop bytes).cell = _
    rw [hcells, show a.frame.memory.cell = a₀.frame.memory.cell from s.cells]
    rfl

theorem copyToMemory (s : Underway a₀ l n words paid a) {dest offset size : Int} (source : Bytes)
    (hd : 0 ≤ dest) (ho : 0 ≤ offset) (hs : 0 ≤ size) :
    (Exec.copyToMemory dest source offset size).Yields a
      (fun _ a => Activity.Tally a₀ (max words (Region.words ⟨dest, size⟩))
        (paid + Gas.copyWord * Gas.wordsFor size) [⟨dest, Cells.read source.cell offset size⟩] a)
      fun _ _ => True := by
  unfold Exec.copyToMemory
  refine (s.useGas _).bind fun _ a s => ?_
  by_cases hz : size = 0
  · subst hz
    rw [if_neg (not_not.2 rfl), Region.words, if_pos rfl, max_eq_left s.words_nonneg]
    exact { s.toTally with cells := s.cells.trans (Cells.put_empty _ (Cells.size_read ..)).symm }
  rw [if_pos hz]
  refine (s.expandMemory dest size).bind fun _ a s => ?_
  have hend := s.reaches (le_max_right ..) hz
  cases hbytes : source.padded offset size with
  | error fault => trivial
  | ok bytes =>
    obtain rfl := Bytes.padded_eq_read ho hs hbytes
    rw [attempt_ok, pure_bind]
    exact s.write hd (by rw [Cells.size_read]; omega) hend

theorem accessCost (s : Underway a₀ l n words paid a) (address : Address) :
    (Exec.accessCost address).Yields a
      (fun cost a => cost = l.accountPrice address ∧
        Underway a₀ (l.warmAddress address).2 n words paid a) fun _ _ => True := by
  refine ⟨?_, { s with access := ?_ }⟩
  · show (if (a.access.warmAddress address).1 then _ else _) = _
    rw [s.access, AccessList.warmAddress_fst, AccessList.accountPrice]
    simp only [decide_eq_true_eq]
  · show (a.access.warmAddress address).2 = _
    rw [s.access]

theorem warmSlot (s : Underway a₀ l n words paid a) (key : Int) :
    (Exec.warmSlot key).Yields a
      (fun warm a => warm = decide (l.Warm (.slot a₀.frame.context.address key)) ∧
        Underway a₀ (l.warmSlot a₀.frame.context.address key).2 n words paid a)
      fun _ _ => True := by
  have hstate : a.access.warmSlot a.frame.context.address key =
      l.warmSlot a₀.frame.context.address key := by rw [s.access, s.context]
  refine ⟨?_, { s with access := ?_ }⟩
  · rw [← AccessList.warmSlot_fst, ← hstate]
    rfl
  · rw [← hstate]
    rfl

theorem warmAddress (s : Underway a₀ l n words paid a) (address : Address) :
    (Exec.warmAddress address).Yields a
      (fun warm a => warm = decide (l.Warm (.account address)) ∧
        Underway a₀ (l.warmAddress address).2 n words paid a) fun _ _ => True := by
  have hstate : a.access.warmAddress address = l.warmAddress address := by rw [s.access]
  refine ⟨?_, { s with access := ?_ }⟩
  · rw [← AccessList.warmAddress_fst, ← hstate]
    rfl
  · rw [← hstate]
    rfl

end Underway

namespace Opcode.Effect
open Exec

variable {a a' b : Activity} {op : Opcode} {child : Frame} {words paid : Int} {ws : List Write}

/-- An operation that opens no frame has done all that it does. -/
theorem of_tally (h : a.Tally words paid ws a')
    (hwords : words = max (a.frame.memoryWords : Int) (Region.wordsOf (op.regions a)))
    (hpaid : paid = op.surcharge a) (hws : ws = op.writes a)
    (hdelivers : op.Delivers a.frame.memory.cell a none a') : op.Effect a none a' := by
  subst hwords hpaid hws
  exact ⟨{ h with gas := by rw [← h.gas]; exact congrArg (_ + · + _) (Int.add_zero _) }, hdelivers⟩

/-- An operation has opened a frame, and has given gas to it. -/
theorem of_opened (h : a.Tally words paid ws a')
    (hwords : words = max (a.frame.memoryWords : Int) (Region.wordsOf (op.regions a)))
    (hpaid : paid = op.surcharge a + child.gas) (hws : ws = op.writes a)
    (hdelivers : op.Delivers a.frame.memory.cell a (some child) a') :
    op.Effect a (some child) a' := by
  subst hwords hpaid hws
  exact ⟨h, hdelivers⟩

/-- The words of a memory that reaches over one more region. -/
theorem words_single (f : Frame) (r : Region) :
    max (f.memoryWords : Int) r.words = max (f.memoryWords : Int) (Region.wordsOf [r]) := by
  rw [Region.wordsOf_cons, Region.wordsOf_nil]
  omega

theorem words_pair (f : Frame) (r r' : Region) :
    max (max (f.memoryWords : Int) r.words) r'.words =
      max (f.memoryWords : Int) (Region.wordsOf [r, r']) := by
  rw [Region.wordsOf_cons, Region.wordsOf_cons, Region.wordsOf_nil]
  omega

theorem words_none (f : Frame) :
    (f.memoryWords : Int) = max (f.memoryWords : Int) (Region.wordsOf []) :=
  (max_eq_left (Int.natCast_nonneg _)).symm

end Opcode.Effect

namespace Activity.Orderly
open Exec Opcode.Effect

variable {a b : Activity} {op : Opcode} {words : Int}

/-! Every operation. -/

/-- A change that has nothing to do with the memory, in the place of an operation of that kind. -/
theorem of_idle {x : Exec (Option Frame)} (h : a.Orderly) (hx : Idle x) (hlone : Lone x)
    (hregions : op.regions a = []) (hwrites : op.writes a = []) (hsurcharge : op.surcharge a = 0)
    (hdelivers : ∀ a', op.Delivers a.frame.memory.cell a none a') :
    x.Yields a (op.Effect a) fun _ _ => True := by
  refine ((hx.idle a).and (hlone.lone a)).imp ?_ fun _ _ _ => trivial
  rintro child? a' ⟨⟨hgas, hmemory⟩, rfl⟩
  have hwords := h.words
  have htally : a.Tally a.frame.memoryWords 0 [] a' :=
    ⟨by rw [hmemory]; omega, by rw [hmemory]; rfl, by omega⟩
  refine of_tally htally ?_ hsurcharge.symm hwrites.symm (hdelivers a')
  rw [hregions]
  exact words_none _

theorem exp (h : a.Orderly) :
    Exec.exp.Yields a (fun _ a' => Opcode.Effect .exp a none a') fun _ _ => True := by
  refine (Underway.begin h).pop.bind ?_
  rintro base b ⟨-, s⟩
  refine s.pop.bind ?_
  rintro exponent b ⟨rfl, s⟩
  refine (s.useGas _).bind fun _ b s => ?_
  cases Word.exp base (a.item 1) with
  | error fault => trivial
  | ok r => exact of_tally { s.toTally with } (words_none _) (Int.zero_add _) rfl trivial

theorem keccak256 (h : a.Orderly) :
    Exec.keccak256.Yields a (fun _ a' => Opcode.Effect .keccak256 a none a') fun _ _ => True := by
  refine (Underway.begin h).pop.bind ?_
  rintro offset b ⟨rfl, s⟩
  refine s.pop.bind ?_
  rintro size b ⟨rfl, s⟩
  refine (s.useGas _).bind fun _ b s => ?_
  refine (s.readMemory (h.item_nonneg 0) (h.item_nonneg 1)).bind ?_
  rintro data b ⟨rfl, s⟩
  refine of_tally { s.toTally with } (words_single _ _) (Int.zero_add _) rfl ?_
  show _ :: b.frame.stack.items = _
  rw [s.items]

theorem accountQuery (h : a.Orderly) (q : AccountQuery) :
    (Exec.accountQuery q).Yields a (fun _ a' => Opcode.Effect (.accountQuery q) a none a')
      fun _ _ => True := by
  refine (Underway.begin h).pop.bind ?_
  rintro x b ⟨rfl, s⟩
  refine (s.accessCost _).bind ?_
  rintro cost b ⟨rfl, s⟩
  refine (s.useGas _).bind fun _ b s => ?_
  exact of_tally { s.toTally with } (words_none _) (Int.zero_add _) rfl trivial

theorem copy (h : a.Orderly) (source : CopySource) :
    (Exec.copy source).Yields a (fun _ a' => Opcode.Effect (.copy source) a none a')
      fun _ _ => True := by
  refine (Underway.begin h).pop.bind ?_
  rintro dest b ⟨rfl, s⟩
  refine s.pop.bind ?_
  rintro offset b ⟨rfl, s⟩
  refine s.pop.bind ?_
  rintro size b ⟨rfl, s⟩
  have hcopied {b : Activity} (s : Underway a a.access 3 a.frame.memoryWords 0 b) :
      (Exec.copyToMemory (a.item 0) (a.source source) (a.item 1) (a.item 2)).Yields b
        (fun _ a' => Opcode.Effect (.copy source) a none a') fun _ _ => True := by
    refine (s.copyToMemory _ (h.item_nonneg 0) (h.item_nonneg 1) (h.item_nonneg 2)).mono ?_
    exact fun _ a' ht => of_tally ht (words_single _ _) (Int.zero_add _) rfl trivial
  cases source with
  | calldata =>
    refine Yields.view ?_
    rw [s.context]
    exact hcopied s
  | code =>
    refine Yields.view ?_
    rw [s.context]
    exact hcopied s
  | returndata =>
    refine Yields.view ?_
    have hdata : b.frame.returnData = a.frame.returnData := by rw [s.frame]
    rw [hdata]
    exact (s.haltIf _ _).bind fun _ b s => hcopied s

theorem extcodecopy (h : a.Orderly) :
    Exec.extcodecopy.Yields a (fun _ a' => Opcode.Effect .extcodecopy a none a')
      fun _ _ => True := by
  refine (Underway.begin h).pop.bind ?_
  rintro x b ⟨rfl, s⟩
  refine s.pop.bind ?_
  rintro dest b ⟨rfl, s⟩
  refine s.pop.bind ?_
  rintro offset b ⟨rfl, s⟩
  refine s.pop.bind ?_
  rintro size b ⟨rfl, s⟩
  refine (s.accessCost _).bind ?_
  rintro cost b ⟨rfl, s⟩
  refine (s.useGas _).bind fun _ b s => Yields.viewWorld ?_
  rw [s.world]
  refine (s.copyToMemory _ (h.item_nonneg 1) (h.item_nonneg 2) (h.item_nonneg 3)).mono ?_
  refine fun _ a' ht => of_tally ht (words_single _ _) ?_ rfl trivial
  rw [Int.zero_add]
  rfl

theorem mload (h : a.Orderly) :
    Exec.mload.Yields a (fun _ a' => Opcode.Effect .mload a none a') fun _ _ => True := by
  refine (Underway.begin h).pop.bind ?_
  rintro offset b ⟨rfl, s⟩
  refine (s.readMemory (h.item_nonneg 0) (by decide)).bind ?_
  rintro data b ⟨rfl, s⟩
  refine of_tally { s.toTally with } (words_single _ _) rfl rfl ?_
  show _ :: b.frame.stack.items = _
  rw [s.items]

theorem mstore (h : a.Orderly) :
    Exec.mstore.Yields a (fun _ a' => Opcode.Effect .mstore a none a') fun _ _ => True := by
  refine (Underway.begin h).pop.bind ?_
  rintro offset b ⟨rfl, s⟩
  refine s.pop.bind ?_
  rintro value b ⟨rfl, s⟩
  refine (s.expandMemory _ 32).bind fun _ b s => ?_
  have hend := s.reaches (le_max_right ..) (by decide)
  cases hbytes : Bytes.ofInt 32 (a.item 1) with
  | error fault => trivial
  | ok bytes =>
    obtain rfl := Bytes.eq_of_ofInt hbytes
    rw [attempt_ok, pure_bind]
    refine (s.write (h.item_nonneg 0) (by rw [Bytes.size_ofNat]; rfl) hend).mono ?_
    exact fun _ a' ht => of_tally ht (words_single _ _) rfl rfl trivial

theorem mstore8 (h : a.Orderly) :
    Exec.mstore8.Yields a (fun _ a' => Opcode.Effect .mstore8 a none a') fun _ _ => True := by
  have hoffset := h.item_nonneg 0
  refine (Underway.begin h).pop.bind ?_
  rintro offset b ⟨rfl, s⟩
  refine s.pop.bind ?_
  rintro value b ⟨rfl, s⟩
  refine (s.expandMemory _ 1).bind fun _ b s => Yields.view ?_
  have hend := s.reaches (le_max_right ..) (by decide)
  cases hplace : bytePlace b.frame.memory.size (a.item 0) with
  | error fault => trivial
  | ok place =>
    obtain rfl := place_of_bytePlace hoffset hplace
    rw [attempt_ok, pure_bind]
    have hsize :
        a.item 0 + 1 = a.item 0 + (#[UInt8.ofNat (a.item 1 % 256).toNat] : Bytes).size := rfl
    refine (s.write hoffset hsize hend).mono ?_
    exact fun _ a' ht => of_tally ht (words_single _ _) rfl rfl trivial

theorem sload (h : a.Orderly) :
    Exec.sload.Yields a (fun _ a' => Opcode.Effect .sload a none a') fun _ _ => True := by
  refine (Underway.begin h).pop.bind ?_
  rintro key b ⟨rfl, s⟩
  refine (s.warmSlot _).bind ?_
  rintro warm b ⟨rfl, s⟩
  refine (s.useGas _).bind fun _ b s => ?_
  refine of_tally { s.toTally with } (words_none _) ?_ rfl trivial
  rw [Int.zero_add]
  simp only [decide_eq_true_eq]
  rfl

theorem sstore (h : a.Orderly) :
    Exec.sstore.Yields a (fun _ a' => Opcode.Effect .sstore a none a') fun _ _ => True := by
  refine (Underway.begin h).forbidStatic.bind fun _ b s => Yields.view ?_
  refine (s.haltIf _ _).bind fun _ b s => ?_
  refine s.pop.bind ?_
  rintro key b ⟨rfl, s⟩
  refine s.pop.bind ?_
  rintro value b ⟨rfl, s⟩
  refine Yields.view (Yields.viewWorld (Yields.viewWorld ?_))
  rw [s.context, s.world]
  refine (s.warmSlot _).bind ?_
  rintro warm b ⟨rfl, s⟩
  refine (s.useGas _).bind fun _ b s => ?_
  exact of_tally { s.toTally with } (words_none _) (Int.zero_add _) rfl trivial

theorem nextLog_eq (h : a.Orderly) (topics : Nat) :
    a.frame.nextLog topics = ⟨a.frame.context.address, (a.frame.stack.items.drop 2).take topics,
      a.frame.memory.cell.read (a.item 0) (a.item 1)⟩ := by
  have hdata := Frame.reads_eq_read h.words (h.item_nonneg 0) (h.item_nonneg 1)
  exact congrArg (Log.mk _ _) hdata

theorem log (h : a.Orderly) (topics : Fin 5) :
    (Exec.log topics.val).Yields a (fun _ a' => Opcode.Effect (.log topics) a none a')
      fun _ _ => True := by
  have htally : (Exec.log topics.val).Yields a
      (fun _ a' => a.Tally (max a.frame.memoryWords (Region.words ⟨a.item 0, a.item 1⟩))
        (0 + Opcode.surcharge (.log topics) a) [] a') fun _ _ => True := by
    refine (Underway.begin h).forbidStatic.bind fun _ b s => ?_
    refine s.pop.bind ?_
    rintro offset b ⟨rfl, s⟩
    refine s.pop.bind ?_
    rintro size b ⟨rfl, s⟩
    refine (s.popMany topics.val).bind fun words b s => ?_
    refine (s.useGas _).bind fun _ b s => ?_
    refine (s.readMemory (h.item_nonneg 0) (h.item_nonneg 1)).bind ?_
    rintro data b ⟨-, s⟩
    exact { s.toTally with }
  refine (htally.and (log_writes topics.val a)).imp ?_ fun _ _ _ => trivial
  rintro _ a' ⟨ht, hwrites⟩
  have hlogs := congrArg Prod.fst hwrites
  rw [h.nextLog_eq] at hlogs
  exact of_tally ht (words_single _ _) (Int.zero_add _) rfl hlogs

theorem leaveWithMemory (h : a.Orderly) {op : Opcode} (hop : op = .ret ∨ op = .revert)
    (status : FrameStatus) :
    (Exec.leaveWithMemory status).Yields a (fun _ a' => op.Effect a none a') fun _ _ => True := by
  refine (Underway.begin h).pop.bind ?_
  rintro offset b ⟨rfl, s⟩
  refine s.pop.bind ?_
  rintro size b ⟨rfl, s⟩
  refine (s.readMemory (h.item_nonneg 0) (h.item_nonneg 1)).bind ?_
  rintro data b ⟨rfl, s⟩
  rcases hop with rfl | rfl
  · exact of_tally { s.toTally with } (words_single _ _) rfl rfl rfl
  · exact of_tally { s.toTally with } (words_single _ _) rfl rfl rfl

theorem selfdestruct (h : a.Orderly) :
    Exec.selfdestruct.Yields a (fun _ a' => Opcode.Effect .selfdestruct a none a')
      fun _ _ => True := by
  refine (Underway.begin h).forbidStatic.bind fun _ b s => ?_
  refine s.pop.bind ?_
  rintro x b ⟨rfl, s⟩
  refine (s.warmAddress _).bind ?_
  rintro warm b ⟨rfl, s⟩
  refine Yields.view (Yields.viewWorld (Yields.viewWorld ?_))
  rw [s.context, s.world]
  refine (s.useGas _).bind fun _ b s => ?_
  refine of_tally { s.toTally with } (words_none _) ?_ rfl trivial
  rw [Int.zero_add]
  simp only [decide_eq_true_eq]
  rfl

/-- Once the salt is taken and paid, both creations are the same. -/
theorem takeSalt {salted : Bool} (hop : op = if salted then .create2 else .create)
    (s : Underway a a.access 3 a.frame.memoryWords 0 b) :
    (Exec.takeSalt salted (a.item 2)).Yields b
      (fun _ b => ∃ n, Underway a a.access n a.frame.memoryWords (op.surcharge a) b)
      fun _ _ => True := by
  unfold Exec.takeSalt
  cases salted with
  | false => exact ⟨3, by rw [hop]; exact s⟩
  | true =>
    refine s.pop.bind ?_
    rintro salt b ⟨-, s⟩
    refine (s.useGas _).bind fun _ b s => ⟨4, ?_⟩
    rw [Int.zero_add] at s
    rw [hop]
    exact s

theorem create (h : a.Orderly) {op : Opcode} {salted : Bool}
    (hop : op = if salted then .create2 else .create) :
    (Exec.create salted).Yields a (op.Effect a) fun _ _ => True := by
  refine (Underway.begin h).forbidStatic.bind fun _ b s => ?_
  refine s.pop.bind ?_
  rintro value b ⟨rfl, s⟩
  refine s.pop.bind ?_
  rintro offset b ⟨rfl, s⟩
  refine s.pop.bind ?_
  rintro size b ⟨rfl, s⟩
  refine (takeSalt hop s).bind ?_
  rintro salt b ⟨n, s⟩
  refine (s.readMemory (h.item_nonneg 1) (h.item_nonneg 2)).bind ?_
  rintro code b ⟨rfl, s⟩
  have hregions : op.regions a = [⟨a.item 1, a.item 2⟩] := by rw [hop]; cases salted <;> rfl
  have hwords := words_single a.frame ⟨a.item 1, a.item 2⟩
  rw [← hregions] at hwords
  have hwrites : [] = op.writes a := by rw [hop]; cases salted <;> rfl
  refine Yields.update (Yields.view (Yields.viewWorld ?_))
  split_ifs
  · refine of_tally { s.toTally with } hwords rfl hwrites ?_
    rw [hop]
    cases salted <;> rintro child ⟨⟩
  · refine Yields.view ?_
    generalize handedOn _ = handed
    refine (useGas_spec handed _).ifDone.bind ?_
    rintro _ _ rfl
    refine Yields.updateWorld ?_
    cases placeOf _ _ salt _ with
    | error fault => trivial
    | ok place =>
      rw [attempt_ok, pure_bind]
      cases place.toInt with
      | error fault => trivial
      | ok number =>
        rw [attempt_ok, pure_bind]
        have hgas := s.gas
        refine of_opened { s.toTally with gas := ?_ } hwords rfl hwrites ?_
        · show b.frame.gas - handed + (op.surcharge a + handed) + _ = _
          omega
        · rw [hop]
          cases salted <;> rintro _ ⟨⟩ <;> rfl

/-- Opening the called frame, with gas that was set aside for it. If it is not opened, the gas is
given back. -/
theorem enter {l : AccessList} {n : Nat} {kind : CallKind} (target : Address)
    {inOffset inSize outOffset outSize gas : Int}
    (s : Underway a l n words (Opcode.surcharge (.call kind) a + gas) b)
    (hwords :
      words = max (a.frame.memoryWords : Int) (Region.wordsOf (Opcode.regions (.call kind) a)))
    (hinput : (if inSize = 0 then #[] else b.frame.memory.slice inOffset (inOffset + inSize)) =
      Cells.read a.frame.memory.cell (a.item (Opcode.callRegions kind))
        (a.item (Opcode.callRegions kind + 1))) :
    (Exec.enter kind target (a.callValue kind) inOffset inSize outOffset outSize gas).Yields b
      (Opcode.Effect (.call kind) a) fun _ _ => True := by
  have hgas := s.gas
  refine Yields.update (Yields.view (Yields.viewWorld ?_))
  split
  · have hback : a.Tally words (Opcode.surcharge (.call kind) a) []
        { b with frame := { b.frame with gas := b.frame.gas + gas } } :=
      { s.toTally with gas := by dsimp only; omega }
    refine Yields.update (of_tally { hback with } hwords rfl rfl ?_)
    rintro child ⟨⟩
  · refine Yields.view (Yields.viewWorld (of_opened { s.toTally with } hwords rfl rfl ?_))
    rintro _ ⟨⟩
    exact hinput

theorem takeValue (kind : CallKind) (s : Underway a a.access 2 a.frame.memoryWords 0 b) :
    (Exec.takeValue kind).Yields b (fun value b => value = a.callValue kind ∧
      Underway a a.access (Opcode.callRegions kind) a.frame.memoryWords 0 b) fun _ _ => True := by
  unfold Exec.takeValue callValue Opcode.callRegions
  split_ifs
  · exact s.pop
  · exact ⟨rfl, s⟩

theorem call (h : a.Orderly) (kind : CallKind) :
    (Exec.call kind).Yields a (Opcode.Effect (.call kind) a) fun _ _ => True := by
  refine (Underway.begin h).pop.bind ?_
  rintro requested b ⟨-, s⟩
  refine s.pop.bind ?_
  rintro x b ⟨rfl, s⟩
  refine (takeValue kind s).bind ?_
  rintro value b ⟨rfl, s⟩
  refine s.pop.bind ?_
  rintro inOffset b ⟨rfl, s⟩
  refine s.pop.bind ?_
  rintro inSize b ⟨rfl, s⟩
  refine s.pop.bind ?_
  rintro outOffset b ⟨rfl, s⟩
  refine s.pop.bind ?_
  rintro outSize b ⟨rfl, s⟩
  refine Yields.view ((s.haltIf _ _).bind fun _ b s => ?_)
  refine (s.expandMemory _ _).bind fun _ b s => ?_
  refine (s.expandMemory _ _).bind fun _ b s => ?_
  refine (s.accessCost _).bind ?_
  rintro access b ⟨rfl, s⟩
  refine Yields.viewWorld ?_
  rw [s.world]
  refine (s.useGas _).bind fun _ b s => Yields.view ?_
  generalize min requested _ = handed
  refine (s.useGas handed).bind fun _ b s => ?_
  -- What is handed on stays with the opener or goes to the frame; only the stipend is on top.
  have hpaid : Opcode.surcharge (.call kind) a + grant handed (a.callValue kind) =
      0 + callCost kind (a.access.accountPrice (Address.ofInt (a.item 1))) (a.callValue kind)
        (a.world.isDead (Address.ofInt (a.item 1))) + handed := by
    show callCost .. - _ + grant .. = _
    unfold grant
    split_ifs <;> omega
  rw [← hpaid] at s
  refine enter _ s ?_ ?_
  · exact words_pair ..
  · split_ifs with hsize
    · rw [hsize]
      rfl
    · rw [← show b.frame.memory.cell = a.frame.memory.cell from s.cells]
      have hreach := s.reaches (le_max_of_le_left (le_max_right ..)) hsize
      exact Bytes.slice_eq_read (h.item_nonneg _) (h.item_nonneg _) hreach

/-- What an operation does whose static price was paid. -/
theorem execute (h : a.Orderly) (op : Opcode) :
    (Exec.execute op).Yields a (op.Effect a) fun _ _ => True := by
  cases op with
  | call kind => exact h.call kind
  | create => exact h.create rfl
  | create2 => exact h.create rfl
  | exp => exact h.exp.bind fun _ _ he => he
  | keccak256 => exact h.keccak256.bind fun _ _ he => he
  | accountQuery q => exact (h.accountQuery q).bind fun _ _ he => he
  | copy source => exact (h.copy source).bind fun _ _ he => he
  | extcodecopy => exact h.extcodecopy.bind fun _ _ he => he
  | mload => exact h.mload.bind fun _ _ he => he
  | mstore => exact h.mstore.bind fun _ _ he => he
  | mstore8 => exact h.mstore8.bind fun _ _ he => he
  | sload => exact h.sload.bind fun _ _ he => he
  | sstore => exact h.sstore.bind fun _ _ he => he
  | log topics => exact (h.log topics).bind fun _ _ he => he
  | ret => exact (h.leaveWithMemory (.inl rfl) _).bind fun _ _ he => he
  | revert => exact (h.leaveWithMemory (.inr rfl) _).bind fun _ _ he => he
  | selfdestruct => exact h.selfdestruct.bind fun _ _ he => he
  | _ =>
    exact h.of_idle (by unfold Exec.execute; infer_instance) (lone_execute not_false) rfl rfl rfl
      fun _ => trivial

end Activity.Orderly

def Opcode.price (op : Opcode) : Int := op.info?.elim 0 OpcodeInfo.gas

/-- What an operation does, with its static price. -/
theorem Exec.effect_of_step {a a' : Activity} {op : Opcode} {child? : Option Frame}
    (h : a.Orderly) (hstep : Exec.step op.byte a = .ok child? a') :
    a.Tally (max a.frame.memoryWords (Region.wordsOf (op.regions a)))
        (op.price + op.surcharge a + Frame.given child?) (op.writes a) a' ∧
      op.Delivers a.frame.memory.cell a child? a' := by
  obtain ⟨info, hinfo, -, hexecute⟩ := Exec.step_eq_ok hstep
  have hpaid : (Exec.paid info a).Orderly := ⟨h.words, h.stack⟩
  obtain ⟨htally, hdelivers⟩ := (hpaid.execute op).of_ok hexecute
  have hprice : op.price = info.gas := by rw [Opcode.price, hinfo]; rfl
  have hgas : a'.frame.gas + (op.surcharge a + Frame.given child?) +
      Gas.memoryCost (max a.frame.memoryWords (Region.wordsOf (op.regions a))) =
    a.frame.gas - info.gas + Gas.memoryCost a.frame.memoryWords := htally.gas
  exact ⟨{ size := htally.size, cells := htally.cells, gas := by omega }, hdelivers⟩

end Gasometer
