import Gasometer.Keccak
import Gasometer.Table

/-!
# Accounts

An account has a balance, a nonce, code, and a storage of words. Slots that hold zero are not kept.
-/
namespace Gasometer

structure Account where
  balance : Int := 0
  nonce : Int := 0
  code : Bytes := #[]
  storage : Table Int Int := Table.empty
  deriving Inhabited

namespace Account

/-- An account is empty if it has no code, no nonce and no balance; its storage does not count. -/
def isEmpty (a : Account) : Bool := a.nonce == 0 && a.balance == 0 && a.code.isEmpty

def load (a : Account) (key : Int) : Int := (a.storage.get? key).getD 0

def store (a : Account) (key value : Int) : Account :=
  { a with storage := if value = 0 then a.storage.erase key else a.storage.insert key value }

def codeHash (a : Account) : Bytes := Keccak.hash a.code

def same (a b : Account) : Bool :=
  a.balance == b.balance && a.nonce == b.nonce && a.code == b.code && a.storage.same b.storage

theorem load_store (a : Account) (key key' value : Int) :
    (a.store key value).load key' = if key = key' then value else a.load key' := by
  by_cases hv : value = 0 <;> by_cases hk : key = key' <;>
    simp [store, load, hv, hk, Table.get?_erase, Table.get?_insert]

end Account
end Gasometer
