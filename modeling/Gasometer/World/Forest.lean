import Gasometer.World.Basic

/-!
# Forests of layers

Several layers may be opened over one and the same layer. A forest holds layers in a list, each
with the place of the layer beneath it; the world of a layer is the pile from it down to its root.
-/
namespace Gasometer

/-- Layers in the order in which they were opened, each over an earlier one or over none. -/
structure Forest where
  nodes : Array (Option Nat × Layer) := #[(none, Table.empty)]
  deriving Inhabited

namespace Forest

/-- The places from `place` down to the root, at most `fuel` of them. -/
def path (f : Forest) : Nat → Nat → List Nat
  | 0, _ => []
  | fuel + 1, place =>
    place :: match (f.nodes.getD place default).1 with
      | some parent => path f fuel parent
      | none => []

def world (f : Forest) (place : Nat) : World :=
  match (f.path f.nodes.size place).map fun k => (f.nodes.getD k default).2 with
  | [] => {}
  | l :: ls => ⟨l, ls⟩

def restore (f : Forest) (place : Nat) (w : World) : Forest :=
  let places := f.path f.nodes.size place
  ⟨(places.zip w.layers).foldl
    (fun nodes e => nodes.modify e.1 fun node => (node.1, e.2)) f.nodes⟩

def sprout (f : Forest) (place : Nat) : Forest :=
  { f with nodes := f.nodes.push (some place, Table.empty) }

def drop (f : Forest) : Forest := { f with nodes := f.nodes.pop }

/-- The place with the given index; an index below zero counts from the end. -/
def index? (f : Forest) (i : Int) : Except Fault Nat :=
  let k := if i < 0 then i + f.nodes.size else i
  if 0 ≤ k ∧ k < f.nodes.size then .ok k.toNat else .error .listIndex

end Forest
end Gasometer
