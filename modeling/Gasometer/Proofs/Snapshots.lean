import Gasometer.Proofs.Conservation

/-!
# Snapshots

A pile of layers stands for a pile of complete maps from addresses to accounts, one for each layer:
what is seen from that layer. Opening a layer copies the uppermost map, committing replaces the map
beneath by it, and reverting makes it a copy of the map beneath again. Every history of operations
does the same to the layers and to the maps, and gives the same answers.
-/
namespace Gasometer
open World (through)

/-- What can be done at the top of a pile of layers. An account that was asked for in order to
change it is followed by what was written to it, as a function of the account. -/
inductive WorldOp where
  | get (a : Address)
  | isDead (a : Address)
  /-- Writes to the visible account, if there is one. -/
  | change (a : Address) (f : Account → Account)
  /-- Writes to the visible account, or to a new one. -/
  | provide (a : Address) (f : Account → Account)
  | delete (a : Address)
  | open_
  | commit
  | close
  | revert

inductive WorldAnswer where
  | account (found : Option Account)
  | dead (is : Bool)
  | done

/-- A pile of complete maps, the uppermost apart; the last one beneath it is that of the root. -/
@[ext]
structure Snapshots where
  top : View
  below : List View

namespace Snapshots

def maps (s : Snapshots) : List View := s.top :: s.below

def update (s : Snapshots) (a : Address) (entry : Option Account) : Snapshots :=
  { s with top := Function.update s.top a entry }

def perform (s : Snapshots) : WorldOp → Snapshots
  | .get _ | .isDead _ => s
  | .change a f => s.update a ((s.top a).map f)
  | .provide a f => s.update a (some (f ((s.top a).getD {})))
  | .delete a => s.update a none
  | .open_ => ⟨s.top, s.maps⟩
  | .commit => ⟨s.top, s.below.modifyHead fun _ => s.top⟩
  | .close => match s.below with
    | [] => s
    | v :: vs => ⟨v, vs⟩
  | .revert => ⟨s.below.headD fun _ => none, s.below⟩

def answer (s : Snapshots) : WorldOp → WorldAnswer
  | .get a | .change a _ => .account (s.top a)
  | .isDead a => .dead ((s.top a).all Account.isEmpty)
  | .provide a _ => .account (some ((s.top a).getD {}))
  | .delete _ | .open_ | .commit | .close | .revert => .done

def run (s : Snapshots) (ops : List WorldOp) : Snapshots := ops.foldl perform s

def answers (s : Snapshots) : List WorldOp → List WorldAnswer
  | [] => []
  | op :: ops => s.answer op :: (s.perform op).answers ops

end Snapshots

namespace World

def perform (w : World) : WorldOp → World
  | .get _ | .isDead _ => w
  | .change a f => match (w.own a).get? a with
    | none => w.own a
    | some _ => (w.own a).modify a f
  | .provide a f => (w.touch a).modify a f
  | .delete a => w.delete a
  | .open_ => w.open_
  | .commit => w.commit
  | .close => w.close
  | .revert => w.revert

/-- What an operation answers; an account to be written to is given as the uppermost layer holds
it. -/
def answer (w : World) : WorldOp → WorldAnswer
  | .get a => .account (w.get? a)
  | .isDead a => .dead (w.isDead a)
  | .change a _ => .account ((w.own a).get? a)
  | .provide a _ => .account ((w.touch a).get? a)
  | .delete _ | .open_ | .commit | .close | .revert => .done

def run (w : World) (ops : List WorldOp) : World := ops.foldl perform w

def answers (w : World) : List WorldOp → List WorldAnswer
  | [] => []
  | op :: ops => w.answer op :: (w.perform op).answers ops

def views : List Layer → List View
  | [] => []
  | l :: ls => through (l :: ls) :: views ls

/-- The maps that the layers stand for. -/
def snapshots (w : World) : Snapshots := ⟨w.get?, views w.below⟩

variable {w w' : World}

@[simp] theorem snapshots_top (w : World) : w.snapshots.top = w.get? := rfl
@[simp] theorem snapshots_below (w : World) : w.snapshots.below = views w.below := rfl

/-- Writing to the uppermost layer changes the uppermost map only. -/
theorem snapshots_write (w : World) (a : Address) (entry : Option Account) :
    (w.write a entry).snapshots = w.snapshots.update a entry := by
  have hview : (w.write a entry).get? = Function.update w.get? a entry := by
    funext b
    rw [get?_write, Function.update_apply]
    simp only [eq_comm]
  exact Snapshots.ext hview rfl

theorem snapshots_modify (w : World) (a : Address) (f : Account → Account) :
    (w.modify a f).snapshots = w.snapshots.update a (some (f (w.account a))) :=
  snapshots_write w a _

/-- Bringing an account into the uppermost layer changes nothing that is seen. -/
@[simp] theorem snapshots_own (w : World) (a : Address) : (w.own a).snapshots = w.snapshots := by
  cases h : w.get? a with
  | none => simp only [own, h]
  | some account =>
    simp only [own, h, snapshots_write]
    refine Snapshots.ext ?_ rfl
    rw [← h]
    exact Function.update_eq_self a w.get?

@[simp] theorem get?_own (w : World) (a : Address) : (w.own a).get? = w.get? :=
  congrArg Snapshots.top (snapshots_own w a)

theorem snapshots_change (w : World) (a : Address) (f : Account → Account) :
    (w.perform (.change a f)).snapshots = w.snapshots.perform (.change a f) := by
  cases h : w.get? a with
  | none =>
    have hself : w.snapshots.update a none = w.snapshots :=
      Snapshots.ext (h ▸ Function.update_eq_self a w.get?) rfl
    simp [perform, Snapshots.perform, h, hself]
  | some account =>
    have haccount : (w.own a).account a = account := by simp [World.account, h]
    simp [perform, Snapshots.perform, h, snapshots_modify, haccount]

theorem snapshots_provide (w : World) (a : Address) (f : Account → Account) :
    (w.perform (.provide a f)).snapshots = w.snapshots.perform (.provide a f) := by
  have haccount : (w.touch a).account a = w.account a := by
    simp [touch, modify, World.account, get?_write]
  rw [perform, snapshots_modify, haccount, touch, snapshots_modify]
  exact Snapshots.ext (Function.update_idem ..) rfl

theorem snapshots_open (w : World) : w.open_.snapshots = w.snapshots.perform .open_ :=
  Snapshots.ext (funext fun a => get?_open_ w a) rfl

/-- A committed layer is seen from the layer beneath it as it was seen from the top. -/
theorem snapshots_commit (w : World) : w.commit.snapshots = w.snapshots.perform .commit := by
  obtain ⟨top, below⟩ := w
  cases below with
  | nil => rfl
  | cons l ls =>
    have hbeneath : through (l.merge top :: ls) = through (top :: l :: ls) := through_merge l top ls
    refine Snapshots.ext ?_ ?_
    · exact (through_empty _).trans hbeneath
    · exact congrArg (· :: views ls) hbeneath

theorem snapshots_close (w : World) : w.close.snapshots = w.snapshots.perform .close := by
  obtain ⟨top, below⟩ := w
  cases below with
  | nil => rfl
  | cons l ls => rfl

theorem snapshots_revert (w : World) : w.revert.snapshots = w.snapshots.perform .revert := by
  refine Snapshots.ext ?_ rfl
  obtain ⟨top, below⟩ := w
  rw [snapshots_top, get?_revert]
  cases below with
  | nil => rfl
  | cons l ls => rfl

/-- One operation does the same to the layers and to the maps. -/
theorem snapshots_perform (w : World) (op : WorldOp) :
    (w.perform op).snapshots = w.snapshots.perform op := by
  cases op with
  | get | isDead => rfl
  | change a f => exact snapshots_change w a f
  | provide a f => exact snapshots_provide w a f
  | delete a => exact snapshots_write w a none
  | open_ => exact snapshots_open w
  | commit => exact snapshots_commit w
  | close => exact snapshots_close w
  | revert => exact snapshots_revert w

/-- An operation gets the same answer from the layers and from the maps. -/
theorem answer_eq (w : World) (op : WorldOp) : w.answer op = w.snapshots.answer op := by
  cases op with
  | get | delete | open_ | commit | close | revert => rfl
  | isDead a => cases h : w.get? a <;> simp [answer, Snapshots.answer, isDead, h]
  | change a f => simp [answer, Snapshots.answer]
  | provide a f => simp [answer, Snapshots.answer, touch, modify, World.account, get?_write]

theorem snapshots_run (w : World) (ops : List WorldOp) :
    (w.run ops).snapshots = w.snapshots.run ops := by
  induction ops generalizing w with
  | nil => rfl
  | cons op ops ih => exact (ih (w.perform op)).trans (by rw [snapshots_perform]; rfl)

theorem answers_eq (w : World) (ops : List WorldOp) : w.answers ops = w.snapshots.answers ops := by
  induction ops generalizing w with
  | nil => rfl
  | cons op ops ih => rw [answers, Snapshots.answers, answer_eq, ih, snapshots_perform]

theorem mem_addresses_of_get? {a : Address} {account : Account} (h : w.get? a = some account) :
    a ∈ w.addresses := by
  by_contra hmem
  rw [addresses, List.mem_eraseDups] at hmem
  rw [World.get?, see_of_not_mem hmem] at h
  cases h

/-- The accounts are what is seen, each at its own address. -/
theorem mem_accounts {a : Address} {account : Account} :
    (a, account) ∈ w.accounts ↔ w.get? a = some account := by
  constructor
  · intro h
    obtain ⟨b, -, hb⟩ := List.mem_filterMap.1 h
    obtain ⟨found, hfound, heq⟩ := Option.map_eq_some_iff.1 hb
    cases heq
    exact hfound
  · intro h
    exact List.mem_filterMap.2 ⟨a, mem_addresses_of_get? h, by simp [h]⟩

theorem nodup_accounts (w : World) : (w.accounts.map Prod.fst).Nodup := by
  have hfst : w.accounts.map Prod.fst = w.addresses.filter fun a => (w.get? a).isSome := by
    simp only [accounts, List.map_filterMap, ← List.filterMap_eq_filter]
    refine List.filterMap_congr fun a _ => ?_
    cases h : w.get? a <;> simp [h, Option.guard]
  rw [hfst]
  exact (nodup_eraseDups _).filter _

/-- Layers refine snapshots: after any operations, what is seen from every layer is what the maps
hold, every operation was given the same answer, and the listing of addresses and of accounts is
that of the uppermost map, with nothing twice. -/
theorem layers_refine_snapshots (w : World) (ops : List WorldOp) :
    (w.run ops).snapshots = w.snapshots.run ops ∧
      w.answers ops = w.snapshots.answers ops ∧
      (w.run ops).addresses.Nodup ∧
      ((w.run ops).accounts.map Prod.fst).Nodup ∧
      ∀ a account, (a, account) ∈ (w.run ops).accounts ↔
        (w.snapshots.run ops).top a = some account := by
  refine ⟨snapshots_run w ops, answers_eq w ops, nodup_eraseDups _, nodup_accounts _, ?_⟩
  intro a account
  rw [← snapshots_run, snapshots_top]
  exact mem_accounts

end World
end Gasometer
