import Gasometer.Address

/-!
# The access list

The accounts and storage slots that a transaction has touched. The first touch is cold and makes
its target warm.
-/
namespace Gasometer

structure AccessList where
  addresses : List Address := []
  slots : List (Address × Int) := []
  deriving DecidableEq, Inhabited

namespace AccessList

def warmAddress (l : AccessList) (a : Address) : Bool × AccessList :=
  if a ∈ l.addresses then (true, l) else (false, { l with addresses := a :: l.addresses })

def warmSlot (l : AccessList) (a : Address) (key : Int) : Bool × AccessList :=
  if (a, key) ∈ l.slots then (true, l) else (false, { l with slots := (a, key) :: l.slots })

def ofLists (addresses : List Address) (slots : List (Address × Int)) : AccessList :=
  ⟨addresses.eraseDups, slots.eraseDups⟩

end AccessList
end Gasometer
