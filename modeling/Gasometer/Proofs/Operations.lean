import Gasometer.Proofs.Outcome

/-!
# What operations do

Each operation leads from a stage in which its operands stand on the stack to one in which its
results stand there. Operations without a static price cost a warm access at least.
-/
namespace Gasometer

/-- Every query has an answer, and changes nothing. -/
theorem Activity.Sound.query {k : Scale} {a : Activity} (h : a.Sound k)
    (hpc : k.numbers.Holds ((a.frame.pc : Int) - 1)) (q : Query) :
    ∃ x, Exec.query q a = .ok x a ∧ k.numbers.Holds x := by
  have hf := h.frame
  have hc := hf.context
  have haddress : ∀ {address : Address}, address.IsHex →
      ∃ x, Exec.attempt address.toInt a = .ok x a ∧ k.numbers.Holds x := by
    intro address ha
    obtain ⟨v, hv, hholds⟩ := Numbers.holds_address (n := k.numbers) ha
    exact ⟨v, by rw [hv]; rfl, hholds⟩
  cases q with
  | address => exact haddress hc.address.isHex
  | origin => exact haddress hc.originator.isHex
  | caller => exact haddress hc.sender.isHex
  | coinbase => exact haddress hc.block.coinbase
  | callvalue => exact ⟨_, rfl, hc.apparentValue⟩
  | calldatasize => exact ⟨_, rfl, hc.input.holds⟩
  | codesize => exact ⟨_, rfl, hc.code⟩
  | gasprice => exact ⟨_, rfl, hc.gasPrice⟩
  | returndatasize => exact ⟨_, rfl, hf.returnData.holds⟩
  | timestamp => exact ⟨_, rfl, hc.block.timestamp⟩
  | number => exact ⟨_, rfl, hc.block.number⟩
  | difficulty => exact ⟨_, rfl, hc.block.difficulty⟩
  | gaslimit => exact ⟨_, rfl, hc.block.gasLimit⟩
  | chainid => exact ⟨_, rfl, hc.block.chainId⟩
  | basefee => exact ⟨_, rfl, hc.block.baseFee⟩
  | selfbalance => exact ⟨_, rfl, h.world.holds_balance _⟩
  | pc => exact ⟨_, rfl, hpc⟩
  | gas => exact ⟨_, rfl, hf.holds_gas⟩
  | msize =>
    have hsize : k.numbers.Holds (a.frame.memory.size : Int) := hf.memory.holds
    rw [hf.words] at hsize
    exact ⟨_, rfl, by exact_mod_cast hsize⟩

structure Left (k : Scale) (a₀ a : Activity) : Prop where
  sound : a.Sound k
  gas : a.frame.gas ≤ a₀.frame.gas
  stake : a.frame.stake ≤ a₀.frame.stake
  status : a.frame.status = .returned ∨ a.frame.status = .reverted

namespace Stage
open Exec

variable {k : Scale} {a₀ a : Activity} {rest : List Int} {h topics : Nat} {n : Int}

/-- The number that a digest spells. -/
theorem holds_hash (bs : Bytes) : k.numbers.Holds (Keccak.hash bs).toNat :=
  .of_lt (Int.natCast_nonneg _) (Bytes.toNat_lt_of_size_le (Keccak.size_hash bs).le)

theorem useGas_ge (s : Stage k a₀ rest h n a) {amount least : Int} (hl : 0 ≤ least)
    (hamount : least ≤ amount) :
    (Exec.useGas amount).Yields a (fun _ a => Stage k a₀ rest h (n + least) a)
      (Broken k a₀) := by
  refine (s.useGas (hl.trans hamount)).mono ?_
  rintro _ a ⟨s', -⟩
  exact s'.of_le (Int.add_nonneg s.paid hl) (Int.add_le_add_left hamount n)

/-- Paying for something, with no account of the amount. -/
theorem useGas_nonneg (s : Stage k a₀ rest h n a) {amount : Int} (hamount : 0 ≤ amount) :
    (Exec.useGas amount).Yields a (fun _ a => Stage k a₀ rest h n a) (Broken k a₀) := by
  have := s.useGas_ge le_rfl hamount
  rwa [Int.add_zero] at this

theorem exp (s : Stage k a₀ rest 2 n a) :
    Exec.exp.Yields a (fun _ a => Stage k a₀ rest 1 n a) (Broken k a₀) := by
  refine s.pop.bind ?_
  rintro base a ⟨hb, s⟩
  refine s.pop.bind ?_
  rintro exponent a ⟨he, s⟩
  have hprice : 0 ≤ Gas.expByte * (Word.byteLength exponent : Int) :=
    Int.mul_nonneg (by decide) (Int.natCast_nonneg _)
  refine (s.useGas_nonneg hprice).bind fun _ a s => ?_
  obtain ⟨r, hr, hholds⟩ := Numbers.exp_ok base he
  rw [hr, attempt_ok, pure_bind]
  exact s.push hholds

theorem keccak256 (s : Stage k a₀ rest 2 n a) :
    Exec.keccak256.Yields a (fun _ a => Stage k a₀ rest 1 n a) (Broken k a₀) := by
  refine s.pop.bind ?_
  rintro offset a ⟨ho, s⟩
  refine s.pop.bind ?_
  rintro size a ⟨hs, s⟩
  have hprice : 0 ≤ Gas.keccak256Word * Gas.wordsFor size :=
    Int.mul_nonneg (by decide) (Gas.wordsFor_nonneg hs.nonneg)
  refine (s.useGas_nonneg hprice).bind fun _ a s => ?_
  refine (s.readMemory ho.nonneg hs.nonneg).bind ?_
  rintro data a ⟨-, -, s⟩
  exact s.push (holds_hash data)

theorem query (s : Stage k a₀ rest h n a) (hpc : k.numbers.Holds ((a.frame.pc : Int) - 1))
    (q : Query) :
    (Exec.query q).Yields a (fun x a => k.numbers.Holds x ∧ Stage k a₀ rest h n a)
      (Broken k a₀) := by
  obtain ⟨x, hx, hholds⟩ := s.sound.query hpc q
  unfold Yields
  rw [hx]
  exact ⟨hholds, s⟩

theorem holds_accountValue (q : AccountQuery) {account : Account} (h : account.Sound k)
    (hb : k.numbers.Holds account.balance) : k.numbers.Holds (accountValue q account) := by
  cases q with
  | balance => exact hb
  | extcodesize => exact h.code
  | extcodehash =>
    simp only [accountValue]
    split_ifs
    · exact Numbers.holds_zero
    · exact holds_hash account.code

theorem accountQuery (s : Stage k a₀ rest 1 n a) (q : AccountQuery) :
    (Exec.accountQuery q).Yields a (fun _ a => Stage k a₀ rest 1 (n + Gas.warmAccess) a)
      (Broken k a₀) := by
  refine s.pop.bind ?_
  rintro x a ⟨-, s⟩
  refine (s.accessCost (Address.ofInt x)).bind ?_
  rintro cost a ⟨hcost, s, -⟩
  refine (s.useGas_ge (by decide) hcost).bind fun _ a s => ?_
  refine Yields.viewWorld ?_
  exact s.push (holds_accountValue q (s.sound.world.account _) (s.sound.world.holds_balance _))

theorem calldataload (s : Stage k a₀ rest 1 n a) :
    Exec.calldataload.Yields a (fun _ a => Stage k a₀ rest 1 n a) (Broken k a₀) := by
  refine s.pop.bind ?_
  rintro offset a ⟨ho, s⟩
  refine Yields.view ?_
  obtain ⟨bytes, hb, hsize⟩ :=
    Bytes.padded_ok a.frame.context.input ho.nonneg (show (0 : Int) ≤ 32 by decide) (by decide)
  rw [hb, attempt_ok, pure_bind]
  exact s.push (.of_lt (Int.natCast_nonneg _) (Bytes.toNat_lt_of_size_le (by rw [hsize]; decide)))

theorem copy (s : Stage k a₀ rest 3 n a) (source : CopySource) :
    (Exec.copy source).Yields a (fun _ a => Stage k a₀ rest 0 n a) (Broken k a₀) := by
  refine s.pop.bind ?_
  rintro dest a ⟨hd, s⟩
  refine s.pop.bind ?_
  rintro offset a ⟨ho, s⟩
  refine s.pop.bind ?_
  rintro size a ⟨hs, s⟩
  cases source with
  | calldata => exact Yields.view (s.copyToMemory dest _ hd.nonneg ho.nonneg hs.nonneg)
  | code => exact Yields.view (s.copyToMemory dest _ hd.nonneg ho.nonneg hs.nonneg)
  | returndata =>
    refine Yields.view ?_
    refine (s.haltIf _ (by decide)).bind ?_
    rintro _ _ ⟨-, rfl⟩
    exact s.copyToMemory dest _ hd.nonneg ho.nonneg hs.nonneg

theorem extcodecopy (s : Stage k a₀ rest 4 n a) :
    Exec.extcodecopy.Yields a (fun _ a => Stage k a₀ rest 0 (n + Gas.warmAccess) a)
      (Broken k a₀) := by
  refine s.pop.bind ?_
  rintro x a ⟨-, s⟩
  refine s.pop.bind ?_
  rintro dest a ⟨hd, s⟩
  refine s.pop.bind ?_
  rintro offset a ⟨ho, s⟩
  refine s.pop.bind ?_
  rintro size a ⟨hs, s⟩
  refine (s.accessCost (Address.ofInt x)).bind ?_
  rintro cost a ⟨hcost, s, -⟩
  refine (s.useGas_ge (by decide) hcost).bind fun _ a s => ?_
  exact Yields.viewWorld (s.copyToMemory dest _ hd.nonneg ho.nonneg hs.nonneg)

theorem blockhash (s : Stage k a₀ rest 1 n a) :
    Exec.blockhash.Yields a (fun _ a => Stage k a₀ rest 1 n a) (Broken k a₀) := by
  refine s.pop.bind ?_
  rintro number a ⟨-, s⟩
  exact Yields.view (s.push (s.sound.frame.context.block.hashOf number))

theorem mload (s : Stage k a₀ rest 1 n a) :
    Exec.mload.Yields a (fun _ a => Stage k a₀ rest 1 n a) (Broken k a₀) := by
  refine s.pop.bind ?_
  rintro offset a ⟨ho, s⟩
  refine (s.readMemory ho.nonneg (show (0 : Int) ≤ 32 by decide)).bind ?_
  rintro data a ⟨-, hsize, s⟩
  exact s.push (.of_lt (Int.natCast_nonneg _) (Bytes.toNat_lt_of_size_le (by omega)))

/-- A word that does not fit 32 bytes is met only where numbers are not bounded. -/
theorem excuses_ofInt {x : Int} (hx : k.numbers.Holds x) {fault : Fault}
    (h : Bytes.ofInt 32 x = .error fault) : k.Excuses fault := by
  unfold Scale.Excuses
  cases hk : k.numbers with
  | natural =>
    rintro rfl
    exact Bytes.ofInt_ne_cutOff 32 x h
  | word =>
    rw [hk] at hx
    obtain ⟨r, hr, -⟩ := Bytes.ofInt_ok hx.1 hx.2
    rw [hr] at h
    cases h

theorem mstore (s : Stage k a₀ rest 2 n a) :
    Exec.mstore.Yields a (fun _ a => Stage k a₀ rest 0 n a) (Broken k a₀) := by
  refine s.pop.bind ?_
  rintro offset a ⟨ho, s⟩
  refine s.pop.bind ?_
  rintro value a ⟨hv, s⟩
  refine (s.expandMemory offset 32).bind ?_
  rintro _ a ⟨s, hreach⟩
  refine (s.attempt _ fun fault hf => excuses_ofInt hv hf).bind ?_
  rintro bytes _ ⟨hb, rfl⟩
  have hsize := Bytes.size_ofInt hb
  exact s.writeMemory ho.nonneg (by omega) (hreach (by decide)) (by omega)

theorem bytePlace_ok {size : Nat} {offset : Int} (h₀ : 0 ≤ offset) (h₁ : offset + 1 ≤ size)
    (hs : (size : Int) ≤ Bytes.maxSize) : bytePlace size offset = .ok offset := by
  unfold Bytes.maxSize at hs
  unfold bytePlace
  simp only [h₀.not_gt, if_false]
  rw [if_neg (by omega), if_pos (by omega)]

theorem mstore8 (s : Stage k a₀ rest 2 n a) :
    Exec.mstore8.Yields a (fun _ a => Stage k a₀ rest 0 n a) (Broken k a₀) := by
  refine s.pop.bind ?_
  rintro offset a ⟨ho, s⟩
  refine s.pop.bind ?_
  rintro value a ⟨-, s⟩
  refine (s.expandMemory offset 1).bind ?_
  rintro _ a ⟨s, hreach⟩
  refine Yields.view ?_
  have hend := hreach (by decide)
  rw [bytePlace_ok ho.nonneg hend s.sound.frame.memory, attempt_ok, pure_bind]
  exact s.writeMemory ho.nonneg (by omega) hend (by simp)

theorem sload (s : Stage k a₀ rest 1 n a) :
    Exec.sload.Yields a (fun _ a => Stage k a₀ rest 1 (n + Gas.warmAccess) a) (Broken k a₀) := by
  refine s.pop.bind ?_
  rintro key a ⟨-, s⟩
  refine (s.warmSlot key).bind ?_
  rintro warm a s
  have hprice : Gas.warmAccess ≤ if warm then Gas.warmAccess else Gas.coldSload := by
    split_ifs <;> decide
  refine (s.useGas_ge (by decide) hprice).bind fun _ a s => ?_
  refine Yields.view (Yields.viewWorld ?_)
  exact s.push ((s.sound.world.account _).storage key)

theorem le_sstoreCost (warm : Bool) (initial current value : Int) :
    Gas.warmAccess ≤ sstoreCost warm initial current value := by
  unfold sstoreCost
  split_ifs <;> decide

theorem sstore (s : Stage k a₀ rest 2 n a) :
    Exec.sstore.Yields a (fun _ a => Stage k a₀ rest 0 (n + Gas.warmAccess) a)
      (Broken k a₀) := by
  refine s.forbidStatic.bind ?_
  rintro _ _ rfl
  refine Yields.view ?_
  refine (s.haltIf _ (by decide)).bind ?_
  rintro _ _ ⟨-, rfl⟩
  refine s.pop.bind ?_
  rintro key a ⟨-, s⟩
  refine s.pop.bind ?_
  rintro value a ⟨hv, s⟩
  refine Yields.view (Yields.viewWorld (Yields.viewWorld ?_))
  refine (s.warmSlot key).bind ?_
  rintro warm a s
  refine (s.useGas_ge (by decide) (le_sstoreCost ..)).bind fun _ a s => ?_
  exact s.of_world (s.sound.world.modify _ ((s.sound.world.account _).store key hv) le_rfl)

theorem jumpTo (s : Stage k a₀ rest h n a) (place : Int) :
    (Exec.jumpTo place).Yields a (fun _ a => Stage k a₀ rest h n a) (Broken k a₀) := by
  refine Yields.view ?_
  refine (s.haltIf _ (by decide)).bind ?_
  rintro _ _ ⟨-, rfl⟩
  exact s.of_pc _

theorem jump (s : Stage k a₀ rest 1 n a) :
    Exec.jump.Yields a (fun _ a => Stage k a₀ rest 0 n a) (Broken k a₀) := by
  refine s.pop.bind ?_
  rintro place a ⟨-, s⟩
  exact s.jumpTo place

theorem jumpi (s : Stage k a₀ rest 2 n a) :
    Exec.jumpi.Yields a (fun _ a => Stage k a₀ rest 0 n a) (Broken k a₀) := by
  refine s.pop.bind ?_
  rintro place a ⟨-, s⟩
  refine s.pop.bind ?_
  rintro condition a ⟨-, s⟩
  split_ifs
  · exact s.jumpTo place
  · exact s

/-- The data of a push, filled up with zeros on the right, is a word. -/
theorem pushed_lt {data : Bytes} {width : Nat} (hw : width ≤ 32) (hd : data.size ≤ width) :
    ((data.toNat * 256 ^ (width - data.size) : Nat) : Int) < Word.ceiling := by
  have hlt : data.toNat * 256 ^ (width - data.size) < 256 ^ 32 := by
    calc data.toNat * 256 ^ (width - data.size)
        < 256 ^ data.size * 256 ^ (width - data.size) :=
          Nat.mul_lt_mul_of_pos_right (Bytes.toNat_lt data) (Nat.pow_pos (by decide))
      _ = 256 ^ width := by rw [← Nat.pow_add]; congr 1; omega
      _ ≤ 256 ^ 32 := Nat.pow_le_pow_right (by decide) hw
  unfold Word.ceiling
  exact_mod_cast hlt

theorem pushData (s : Stage k a₀ rest h n a) {width : Nat} (hw : width ≤ 32) :
    (Exec.pushData width).Yields a (fun _ a => Stage k a₀ rest (h + 1) n a) (Broken k a₀) := by
  have hd : (a.frame.context.code.bytes.extract a.frame.pc (a.frame.pc + width)).size ≤ width := by
    rw [Array.size_extract]
    omega
  have hholds : k.numbers.Holds _ := .of_lt (Int.natCast_nonneg _) (pushed_lt hw hd)
  exact (s.of_pc (a.frame.pc + width)).push hholds

theorem dup (s : Stage k a₀ rest h n a) {i : Nat} (hi : i < h) :
    (Exec.dup i).Yields a (fun _ a => Stage k a₀ rest (h + 1) n a) (Broken k a₀) := by
  obtain ⟨top, rfl, hitems⟩ := s.items
  have hlt : i < a.frame.stack.items.length := by
    rw [hitems, List.length_append]
    omega
  have hget : a.frame.stack.get? i = some a.frame.stack.items[i] := List.getElem?_eq_getElem hlt
  refine Yields.view ?_
  rw [hget]
  exact s.push (s.sound.frame.stack _ (List.getElem_mem hlt))

theorem swap (s : Stage k a₀ rest h n a) {i : Nat} (hi : i < h) :
    (Exec.swap i).Yields a (fun _ a => Stage k a₀ rest h n a) (Broken k a₀) := by
  obtain ⟨top, rfl, hitems⟩ := s.items
  have hlt : i < a.frame.stack.items.length := by
    rw [hitems, List.length_append]
    omega
  have hholds := s.sound.frame.stack
  obtain ⟨t, x, hx, y, hy, ht, htop⟩ := Stack.exchange?_of_lt hlt
  refine Yields.view ?_
  rw [ht]
  refine s.stack (fun z hz => ?_) ⟨(top.set 0 y).set i x, by simp, ?_⟩
  · rw [htop] at hz
    rcases List.mem_or_eq_of_mem_set hz with hz | rfl
    · rcases List.mem_or_eq_of_mem_set hz with hz | rfl
      · exact hholds z hz
      · exact hholds z hy
    · exact hholds z hx
  · rw [htop, hitems, List.set_append_left _ _ (Nat.zero_lt_of_lt hi),
      List.set_append_left _ _ (by rwa [List.length_set])]

theorem log (s : Stage k a₀ rest (topics + 2) n a) :
    (Exec.log topics).Yields a (fun _ a => Stage k a₀ rest 0 n a) (Broken k a₀) := by
  refine s.forbidStatic.bind ?_
  rintro _ _ rfl
  refine s.pop.bind ?_
  rintro offset a ⟨ho, s⟩
  refine s.pop.bind ?_
  rintro size a ⟨hs, s⟩
  refine Yields.bind (Stage.popMany (by rwa [Nat.zero_add])) ?_
  rintro words a s
  have hprice : 0 ≤ Gas.logTopic * (topics : Int) + Gas.logByte * size :=
    Int.add_nonneg (Int.mul_nonneg (by decide) (Int.natCast_nonneg _))
      (Int.mul_nonneg (by decide) hs.nonneg)
  refine (s.useGas_nonneg hprice).bind fun _ a s => ?_
  refine (s.readMemory ho.nonneg hs.nonneg).bind ?_
  rintro data a ⟨-, -, s⟩
  exact { s with sound := ⟨{ s.sound.frame with }, s.sound.world⟩ }

/-- A change of the list of ended contracts alone. -/
theorem of_ends (s : Stage k a₀ rest h n a) (ends : List Address) :
    Stage k a₀ rest h n { a with frame := { a.frame with selfDestructs := ends } } :=
  { s with sound := ⟨{ s.sound.frame with }, s.sound.world⟩ }

theorem leave (s : Stage k a₀ rest h n a) {output : Bytes} (ho : output.Held)
    {status : FrameStatus} (hstatus : status = .returned ∨ status = .reverted) :
    (Exec.leave status output).Yields a (fun _ a => Left k a₀ a) (Broken k a₀) where
  sound := ⟨{ s.sound.frame with output := ho }, s.sound.world⟩
  gas := (Int.le_add_of_nonneg_right s.paid).trans s.gas
  stake := (Int.le_add_of_nonneg_right s.paid).trans s.stake
  status := hstatus

theorem leaveWithMemory (s : Stage k a₀ rest 2 n a) {status : FrameStatus}
    (hstatus : status = .returned ∨ status = .reverted) :
    (Exec.leaveWithMemory status).Yields a (fun _ a => Left k a₀ a) (Broken k a₀) := by
  refine s.pop.bind ?_
  rintro offset a ⟨ho, s⟩
  refine s.pop.bind ?_
  rintro size a ⟨hs, s⟩
  refine (s.readMemory ho.nonneg hs.nonneg).bind ?_
  rintro data a ⟨hd, -, s⟩
  exact s.leave hd hstatus

theorem selfdestruct (s : Stage k a₀ rest 1 n a) :
    Exec.selfdestruct.Yields a (fun _ a => Left k a₀ a) (Broken k a₀) := by
  refine s.forbidStatic.bind ?_
  rintro _ _ rfl
  refine s.pop.bind ?_
  rintro x a ⟨-, s⟩
  refine (s.warmAddress (Address.ofInt x)).bind ?_
  rintro warm a s
  refine Yields.view (Yields.viewWorld (Yields.viewWorld ?_))
  have hprice : 0 ≤ (if warm then 0 else Gas.coldAccount) +
      if (a.world.account a.frame.context.address).balance ≠ 0 ∧
        a.world.isDead (Address.ofInt x) then Gas.newAccount else 0 := by
    split_ifs <;> decide
  refine (s.useGas hprice).bind ?_
  rintro _ a' ⟨s', ha⟩
  have hworld : a'.world = a.world := by rw [ha]; rfl
  refine Yields.updateWorld (Yields.updateWorld ?_)
  have hw := s.sound.world.bequeath (Address.ofInt x) a.frame.context.address
  rw [← hworld] at hw ⊢
  exact ((s'.of_le s.paid (Int.le_add_of_nonneg_right hprice)).of_world hw).of_ends _ |>.leave
    Bytes.held_empty (.inl rfl)

end Stage
end Gasometer
