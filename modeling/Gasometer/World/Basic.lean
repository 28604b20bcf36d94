import Gasometer.Address
import Gasometer.World.Account

/-!
# Worlds

A world is a pile of layers over a root. A layer holds the accounts that were written while it was
on top, and marks of accounts that were removed there; what it does not hold is seen through it.
Every frame writes to a layer of its own, which is committed into the layer beneath if the frame
succeeds and reverted if it fails.
-/
namespace Gasometer

/-- The accounts written in one layer; `none` marks a removed account. -/
abbrev Layer := Table Address (Option Account)

/-- A pile of layers, the uppermost apart; the last one beneath it is the root. -/
structure World where
  top : Layer := Table.empty
  below : List Layer := []
  deriving Inhabited

namespace World

def layers (w : World) : List Layer := w.top :: w.below

/-- The account that is seen through these layers. -/
def see (a : Address) : List Layer → Option Account
  | [] => none
  | l :: ls => match l.get? a with
    | some entry => entry
    | none => see a ls

def get? (w : World) (a : Address) : Option Account := see a w.layers

def account (w : World) (a : Address) : Account := (w.get? a).getD {}

def isDead (w : World) (a : Address) : Bool :=
  match w.get? a with
  | none => true
  | some account => account.isEmpty

/-- Writes an account, or the mark of its removal, into the uppermost layer. -/
def write (w : World) (a : Address) (entry : Option Account) : World :=
  { w with top := w.top.insert a entry }

def modify (w : World) (a : Address) (f : Account → Account) : World :=
  w.write a (some (f (w.account a)))

def touch (w : World) (a : Address) : World := w.modify a id

def own (w : World) (a : Address) : World :=
  match w.get? a with
  | none => w
  | some account => w.write a (some account)

def delete (w : World) (a : Address) : World := w.write a none

def open_ (w : World) : World := ⟨Table.empty, w.layers⟩

/-- Moves what the uppermost layer holds into the layer beneath it. -/
def commit (w : World) : World :=
  match w.below with
  | [] => w
  | l :: ls => ⟨Table.empty, l.merge w.top :: ls⟩

def revert (w : World) : World := { w with top := Table.empty }

/-- Takes the uppermost layer away, unless it is the root. -/
def close (w : World) : World :=
  match w.below with
  | [] => w
  | l :: ls => ⟨l, ls⟩

/-- The world that the lowest layers make up. -/
def lowest (n : Nat) (w : World) : World :=
  match w.layers.drop (w.layers.length - n) with
  | [] => {}
  | l :: ls => ⟨l, ls⟩

def root? (w : World) : Option Layer := w.below.getLast?

/-- The world that consists of the root alone. -/
def bottom (w : World) : World := ⟨w.root?.getD w.top, []⟩

def addresses (w : World) : List Address := (w.layers.flatMap Table.keys).eraseDups

def accounts (w : World) : List (Address × Account) :=
  w.addresses.filterMap fun a => (w.get? a).map fun account => (a, account)

def describe (w : World) : String :=
  s!"SimpleWorld({w.top.size} local accounts, parent=" ++
    (if w.below.isEmpty then "False" else "True") ++ ")"

theorem get?_write (w : World) (a b : Address) (entry : Option Account) :
    (w.write a entry).get? b = if a = b then entry else w.get? b := by
  by_cases h : a = b <;> simp [write, get?, layers, see, Table.get?_insert, h]

@[simp] theorem get?_open_ (w : World) (a : Address) : w.open_.get? a = w.get? a := by
  simp [open_, get?, layers, see]

@[simp] theorem close_open_ (w : World) : w.open_.close = w := by
  cases w; rfl

end World
end Gasometer
