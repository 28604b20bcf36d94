import Gasometer.LoopProgram.Shape

/-!
# Sources of loop programs

A step becomes a program in assembly or in Yul that runs it in a loop. In assembly the counter lies
at the bottom of the stack and counts down to zero; in Yul it is a variable that counts up. A step
that ends the frame runs once. The same step and limits always give the same source.
-/
namespace Gasometer

structure GeneratedCode where
  source : String
  totalLoops : Int
  dialect : Dialect := .asm
  one_le : 1 ≤ totalLoops := by decide

def GeneratedCode.create (source : String) (totalLoops : Int) (dialect : Dialect) :
    Except SettingError GeneratedCode :=
  if h : 1 ≤ totalLoops then .ok ⟨source, totalLoops, dialect, h⟩
  else .error (.totalLoops totalLoops)

namespace LoopProgram

/-- A generated source with the shape of its loop, unless the step runs once. -/
structure Draft where
  code : GeneratedCode
  shape? : Option Shape := none

def joinLines (lines : List String) : String := "\n".intercalate lines ++ "\n"

def remark (s : Step) : String := "cartevm benchmark: " ++ s.name ++ " (" ++ s.category ++ ")"

def countDown : List String :=
  ["PUSH 1", "SWAP1", "SUB", "DUP1", "PUSH @loop", "JUMPI", "POP", "STOP"]

def counterLine (outer : Int) : String :=
  "PUSH4 0x" ++ String.ofList (Text.hexDigits 8 outer.toNat)

def copies (n : Int) (lines : List String) : List String :=
  (List.replicate n.toNat lines).flatten

def looped (lines : List String) (dialect : Dialect) (shape : Shape) : Draft :=
  { code := ⟨joinLines lines, shape.total, dialect, shape.one_le_total⟩, shape? := some shape }

def assembly (limits : Limits) (s : Step) : Except Problem Draft := do
  let header := ("; " ++ remark s) :: s.preamble
  if ← s.isTerminal then
    return { code := { source := joinLines (header ++ (← bodyLines s)), totalLoops := 1 } }
  else
    let shape ← loopShape limits s
    let body ← bodyLines s
    let lines :=
      header ++ [counterLine shape.outer, "loop:"] ++ copies shape.unroll body ++ countDown
    return looped lines .asm shape

def yulLoopHead (outer : Int) : String :=
  "    for \x7b let i := 0 \x7d lt(i, 0x" ++ Text.hex outer ++ ") \x7b i := add(i, 1) \x7d \x7b"

def yul (limits : Limits) (s : Step) : Except Problem Draft := do
  let preamble ← if s.preamble.isEmpty then pure []
    else pure ["    " ++ (← verbatim s.preamble)]
  let header := ["// " ++ remark s, "\x7b"] ++ preamble
  if ← s.isTerminal then
    let source := joinLines (header ++ ["    " ++ (← yulStatement s), "\x7d"])
    return { code := { source := source, totalLoops := 1, dialect := .yul } }
  else
    let shape ← loopShape limits s
    let statement ← yulStatement s
    let lines := header ++ [yulLoopHead shape.outer] ++
      copies shape.unroll ["        " ++ statement] ++ ["    \x7d", "\x7d"]
    return looped lines .yul shape

def draft (limits : Limits) (s : Step) : Except Problem Draft :=
  match limits.dialect with
  | .asm => assembly limits s
  | .yul => yul limits s

def shapeRecord (dialect : Dialect) (s : Step) (shape : Shape) : LogRecord :=
  let head := match dialect with
    | .asm => "Generated "
    | .yul => "Generated Yul "
  ⟨.debug, .generator, head ++ s.name ++ ": outer=" ++ Text.decimal shape.outer ++
    " unroll=" ++ Text.decimal shape.unroll⟩

def generate {m : Type → Type} [Monad m] (host : Host m) (limits : Limits) (s : Step) :
    m (Except Problem GeneratedCode) := do
  match draft limits s with
  | .error e => return .error e
  | .ok d =>
    if let some shape := d.shape? then host.log (shapeRecord limits.dialect s shape)
    return .ok d.code

end LoopProgram
end Gasometer
