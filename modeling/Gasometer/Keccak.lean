import Gasometer.Bytes

/-!
# Keccak-256

The sponge over the permutation of 25 lanes of 64 bits, with a rate of 136 bytes and the padding
that begins with `0x01`.
-/
namespace Gasometer.Keccak

/-- The 25 lanes; lane `(x, y)` stands at `x + 5 * y`. -/
abbrev State := Array UInt64

def roundConstants : List UInt64 :=
  [ 0x0000000000000001, 0x0000000000008082, 0x800000000000808a, 0x8000000080008000,
    0x000000000000808b, 0x0000000080000001, 0x8000000080008081, 0x8000000000008009,
    0x000000000000008a, 0x0000000000000088, 0x0000000080008009, 0x000000008000000a,
    0x000000008000808b, 0x800000000000008b, 0x8000000000008089, 0x8000000000008003,
    0x8000000000008002, 0x8000000000000080, 0x000000000000800a, 0x800000008000000a,
    0x8000000080008081, 0x8000000000008080, 0x0000000080000001, 0x8000000080008008 ]

/-- The lane that moves to each place, with the bits it turns by on the way. -/
def moves : Array (Nat × UInt64) :=
  #[ (0, 0), (6, 44), (12, 43), (18, 21), (24, 14),
     (3, 28), (9, 20), (10, 3), (16, 45), (22, 61),
     (1, 1), (7, 6), (13, 25), (19, 8), (20, 18),
     (4, 27), (5, 36), (11, 10), (17, 15), (23, 56),
     (2, 62), (8, 55), (14, 39), (15, 41), (21, 2) ]

def rotate (a n : UInt64) : UInt64 :=
  if n == 0 then a else (a <<< n) ||| (a >>> (64 - n))

def lane (s : State) (i : Nat) : UInt64 := s.getD i 0

def theta (s : State) : State :=
  let c : Array UInt64 := Array.ofFn fun (⟨x, _⟩ : Fin 5) =>
    lane s x ^^^ lane s (x + 5) ^^^ lane s (x + 10) ^^^ lane s (x + 15) ^^^ lane s (x + 20)
  let d : Array UInt64 := Array.ofFn fun (⟨x, _⟩ : Fin 5) =>
    lane c ((x + 4) % 5) ^^^ rotate (lane c ((x + 1) % 5)) 1
  Array.ofFn fun (⟨i, _⟩ : Fin 25) => lane s i ^^^ lane d (i % 5)

def rhoPi (s : State) : State :=
  moves.map fun m => rotate (lane s m.1) m.2

def chiIota (constant : UInt64) (s : State) : State :=
  Array.ofFn fun (⟨i, _⟩ : Fin 25) =>
    let y := i / 5 * 5
    let mixed := lane s i ^^^
      (~~~ lane s (y + (i + 1) % 5) &&& lane s (y + (i + 2) % 5))
    if i == 0 then mixed ^^^ constant else mixed

def permute (s : State) : State :=
  roundConstants.foldl (fun s constant => chiIota constant (rhoPi (theta s))) s

/-- The bytes absorbed in one turn. -/
def rate : Nat := 136

def laneAt (bs : Bytes) (offset : Nat) : UInt64 :=
  (List.range 8).foldr (fun k a => (a <<< 8) ||| (bs.getD (offset + k) 0).toUInt64) 0

def absorb (bs : Bytes) (s : State) (offset : Nat) : State :=
  permute (Array.ofFn fun (⟨i, _⟩ : Fin 25) =>
    if i < 17 then lane s i ^^^ laneAt bs (offset + 8 * i) else lane s i)

def pad (bs : Bytes) : Bytes :=
  let gap := rate - bs.size % rate
  if gap = 1 then bs.push 0x81
  else (bs.push 0x01 ++ Array.replicate (gap - 2) 0).push 0x80

def hash (bs : Bytes) : Bytes :=
  let message := pad bs
  let final := (List.range (message.size / rate)).foldl
    (fun s k => absorb message s (k * rate)) (Array.replicate 25 0)
  Array.ofFn fun (⟨i, _⟩ : Fin 32) => (lane final (i / 8) >>> (8 * (i % 8)).toUInt64).toUInt8

@[simp] theorem size_hash (bs : Bytes) : (hash bs).size = 32 := by simp [hash]

end Gasometer.Keccak
