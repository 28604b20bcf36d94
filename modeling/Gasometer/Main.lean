import Gasometer.Cli.Program

/-!
# The program

The command line on a real machine: the clock of the machine, its standard output, and its files.
No external compiler is called. The log goes to the standard error output.
-/
namespace Gasometer

/-- The host of the machine. With `verbose` the log is complete, else it has no details. -/
def Host.ofMachine (verbose : Bool) : Host IO where
  timed act := do
    let start ← IO.monoNanosNow
    let result ← act ()
    let stop ← IO.monoNanosNow
    return (result, (stop : Int) - start)
  log r := do
    if verbose || r.level != .debug then
      IO.eprintln (r.level.name ++ " " ++ r.logger.name ++ ": " ++ r.message)
  call c := return .missing (FileError.message (.missing (c.words.headD "")))

def Terminal.ofMachine : Terminal IO where
  width := 80
  print text := IO.println text
  isFolder path := return path != "" && (path.endsWith "/" || path == "." || path == "..")
  write path text := do
    try
      IO.FS.writeFile path text
      return .ok ()
    catch _ => return .error (.missing path)

def environmentOfMachine : IO Profile.Environment := do
  let values ← Profile.settings.mapM fun (name, _) => do return (name, ← IO.getEnv name)
  return fun name => (values.lookup name).join

def runOnMachine (words : List String) : IO UInt32 := do
  let verbose := words.contains "-v" || words.contains "--verbose"
  let outside := ⟨Host.ofMachine verbose, Terminal.ofMachine, ← environmentOfMachine⟩
  match ← Cli.session outside words with
  | .code n => return n.toUInt32
  | .problem p => IO.eprintln p.message
  | .file e => IO.eprintln e.message
  return 1

end Gasometer

def main (words : List String) : IO UInt32 := Gasometer.runOnMachine words
