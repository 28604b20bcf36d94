import Gasometer.Host.Basic
import Gasometer.Host.Terminal
import Gasometer.Table

/-!
# A host on tape

This host has a clock that advances by the same time at every reading, external programs whose
answers are fixed beforehand, and a tape that keeps all log records and all calls. Its terminal
stands in an empty folder and keeps what is printed and written.
-/
namespace Gasometer

structure Tape where
  tick : Int := 1000
  answer : ToolCall → ToolResult := fun _ => .missing ""
  records : Array LogRecord := #[]
  calls : Array ToolCall := #[]
  printed : Array String := #[]
  files : Table String String := .empty
  deriving Inhabited

/-- The host that plays on the tape. A timed action lasts from one reading of the clock to the
next. -/
def Host.onTape : Host (StateM Tape) where
  timed act := do
    let result ← act ()
    return (result, (← get).tick)
  log record := modify fun t => { t with records := t.records.push record }
  call c := modifyGet fun t => (t.answer c, { t with calls := t.calls.push c })

/-- Where a path leads, seen from an empty folder. -/
inductive Destination
  /-- To a file in the folder. -/
  | file (name : String)
  /-- To a folder. -/
  | folder
  /-- To a file that would have to be a folder. -/
  | asFolder
  /-- Through a folder that does not exist. -/
  | nowhere
  /-- To a file outside the folder. -/
  | elsewhere
  /-- To a name with too many bytes. -/
  | tooLong
  deriving DecidableEq, Repr, Inhabited

def rootFolders : List String :=
  ["bin", "boot", "dev", "etc", "home", "lib", "lib64", "media", "mnt", "opt", "proc", "root",
    "run", "sbin", "srv", "sys", "tmp", "usr", "var"]

def isRootFolder (names : List String) : Bool :=
  match names with
  | [name] => rootFolders.contains name
  | _ => false

/-- Where a path leads. A path has less than 4096 bytes, and a name in it at most 255. Of the
outside, the folders above and at the root are known, the folder `/tmp`, and the null device. -/
def Destination.ofPath (path : String) : Destination :=
  let parts := path.splitOn "/"
  let isOutside := parts.head? == some "" || parts.contains ".."
  let names := (parts.filter fun p => p != "" && p != ".").dropWhile (· == "..")
  if path = "" then .nowhere
  else if 4096 ≤ path.utf8ByteSize then .tooLong
  else if parts.head? = some "" ∧ isRootFolder names then .folder
  else
    let names := match parts.head?, names with
      | some "", "tmp" :: name :: rest => name :: rest
      | some "", ["dev", "null"] => ["null"]
      | _, names => names
    match names with
    | [] => .folder
    | name :: rest =>
      if 255 < name.utf8ByteSize then .tooLong
      else if rest ≠ [] then .nowhere
      else if parts.getLast? = some name then if isOutside then .elsewhere else .file name
      else if parts.getLast? = some "" then .asFolder
      else .nowhere

def Terminal.onTape : Terminal (StateM Tape) where
  width := 1000
  print text := modify fun t => { t with printed := t.printed.push text }
  isFolder path := pure (Destination.ofPath path == .folder)
  write path text :=
    match Destination.ofPath path with
    | .file name => do
      modify fun t => { t with files := t.files.insert name text }
      return .ok ()
    | .elsewhere => return .ok ()
    | .folder | .asFolder => return .error (.folder path)
    | .nowhere => return .error (.missing path)
    | .tooLong => return .error (.tooLong path)

end Gasometer
