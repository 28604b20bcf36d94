/-!
# The operand stack

A stack of words with its height. The arity of an operation is checked before it runs, so the
cases for missing items are met by no well-formed run.
-/
namespace Gasometer

/-- A stack of words, the uppermost first. -/
structure Stack where
  items : List Int := []
  size : Nat := items.length
  size_eq : size = items.length := by rfl

namespace Stack

def empty : Stack := {}

instance : Inhabited Stack := ⟨empty⟩

def push (s : Stack) (x : Int) : Stack := ⟨x :: s.items, s.size + 1, by simp [s.size_eq]⟩

def pop? (s : Stack) : Option (Int × Stack) :=
  match h : s.items with
  | [] => none
  | x :: r => some (x, ⟨r, s.size - 1, by simp [s.size_eq, h]⟩)

def get? (s : Stack) (n : Nat) : Option Int := s.items[n]?

def exchange? (s : Stack) (n : Nat) : Option Stack := do
  let x ← s.items[0]?
  let y ← s.items[n]?
  return ⟨(s.items.set 0 y).set n x, s.size, by simp [s.size_eq]⟩

@[simp] theorem items_push (s : Stack) (x : Int) : (s.push x).items = x :: s.items := rfl

@[simp] theorem pop?_push (s : Stack) (x : Int) : (s.push x).pop? = some (x, s) := by
  cases s; simp [push, pop?]

theorem pop?_eq_some {s t : Stack} {x : Int} :
    s.pop? = some (x, t) ↔ s.items = x :: t.items := by
  obtain ⟨items, size, hs⟩ := s
  obtain ⟨items', size', ht⟩ := t
  cases items with
  | nil => simp [pop?]
  | cons y r =>
    simp only [pop?, Option.some.injEq, Prod.mk.injEq, Stack.mk.injEq, List.cons.injEq]
    subst hs ht
    constructor
    · rintro ⟨rfl, rfl, -⟩; exact ⟨rfl, rfl⟩
    · rintro ⟨rfl, rfl⟩; simp

theorem exchange?_of_lt {s : Stack} {n : Nat} (h : n < s.items.length) :
    ∃ t, ∃ x ∈ s.items, ∃ y ∈ s.items,
      s.exchange? n = some t ∧ t.items = (s.items.set 0 y).set n x := by
  have h₀ : 0 < s.items.length := Nat.zero_lt_of_lt h
  refine ⟨⟨(s.items.set 0 s.items[n]).set n s.items[0], s.size, by simp [s.size_eq]⟩,
    s.items[0], List.getElem_mem h₀, s.items[n], List.getElem_mem h, ?_, rfl⟩
  unfold exchange?
  rw [List.getElem?_eq_getElem h₀, List.getElem?_eq_getElem h]
  rfl

end Stack
end Gasometer
