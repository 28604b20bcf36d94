import Gasometer.Machine.Step

/-!
# The life of a frame

Before its code runs a frame moves its value, and a creation claims its address. After its code
was left its effects are kept or taken back: a failed frame leaves the world as it was, and one
that was stopped loses its gas.
-/
namespace Gasometer

structure CreationRules where
  initialNonce : Int := 1
  maxCodeSize : Int := 24576
  rejectMarked : Bool := true
  deriving DecidableEq, Repr, Inhabited

namespace Activity

/-- Moves the value of a frame from its sender to its account; `none` if the sender lacks it. -/
def transfer? (c : Context) (w : World) : Option World :=
  if c.value = 0 ∨ c.sender = c.address then some (w.touch c.address)
  else match w.get? c.sender with
    | none => none
    | some sender =>
      if sender.balance < c.value then none
      else
        let paid := w.write c.sender (some { sender with balance := sender.balance - c.value })
        some (paid.modify c.address fun a => { a with balance := a.balance + c.value })

def begin_ (a : Activity) (w : World) : Activity :=
  { a with frame := { a.frame with status := .executing }, world := w }

/-- Whether an account stands in the way of a new contract. -/
def isTaken : Option Account → Bool
  | none => false
  | some account => account.nonce > 0 || ! account.code.isEmpty

def start (rules : CreationRules) (a : Activity) : Activity :=
  let c := a.frame.context
  match c.kind with
  | .messageCall =>
    match transfer? c a.world with
    | none => a.mapFrame (·.halt .illegalStateChange)
    | some w => a.begin_ w
  | .contractCreation =>
    if isTaken (a.world.get? c.address) then a.mapFrame (·.halt .contractAddressCollision)
    else match transfer? c a.world with
      | none => a.mapFrame (·.halt .illegalStateChange)
      | some w => a.begin_ (w.modify c.address fun account =>
          { account with nonce := rules.initialNonce, storage := Table.empty })

/-- Whether code is refused because of its first byte. -/
def isMarked (code : Bytes) : Bool := code[0]? == some 0xef

/-- Brings a frame whose code was left to success; a creation deposits its output as code, and
pays for it. -/
def accept (rules : CreationRules) (a : Activity) : Activity :=
  let f := a.frame
  match f.context.kind with
  | .messageCall => a.mapFrame fun f => { f with status := .succeeded }
  | .contractCreation =>
    let code := f.output
    if code.size > rules.maxCodeSize then a.mapFrame (·.halt .codeTooLarge)
    else if rules.rejectMarked && isMarked code then a.mapFrame (·.halt .invalidCode)
    else
      let deposit := Gas.codeByte * code.size
      if f.gas < deposit then a.mapFrame (·.halt .insufficientGas)
      else
        { a with
          frame := { f with gas := f.gas - deposit, status := .succeeded }
          world := a.world.modify f.context.address fun account => { account with code := code } }

/-- Keeps or takes back the effects of a frame. At depth zero the contracts that have ended are
removed. -/
def settle (a : Activity) : Activity :=
  let f := a.frame
  match f.status with
  | .halted reason =>
    { a with
      frame := { f with gas := 0, output := #[], status := .failed (.halt reason) }
      world := a.world.revert }
  | .reverted =>
    { a with frame := { f with status := .failed .revert }, world := a.world.revert }
  | .succeeded =>
    let w := if f.context.depth = 0 then f.selfDestructs.foldl World.delete a.world else a.world
    { a with world := w.commit }
  | _ => a

/-- Brings a frame whose code was left to its end. -/
def finish (rules : CreationRules) (a : Activity) : Activity :=
  match a.frame.status with
  | .returned => settle (accept rules a)
  | _ => settle a

end Activity
end Gasometer
