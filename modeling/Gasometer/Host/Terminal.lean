import Gasometer.Text.Quoted

/-!
# The terminal

What the command line needs from outside: a place to print to, and files. A `Terminal m` offers
these in a monad `m`.
-/
namespace Gasometer

inductive FileError
  /-- Its folder does not exist. -/
  | missing (path : String)
  /-- It is a folder itself. -/
  | folder (path : String)
  /-- Its path, or a name in it, is too long. -/
  | tooLong (path : String)
  deriving DecidableEq, Repr, Inhabited

def FileError.message : FileError → String
  | missing path => "[Errno 2] No such file or directory: " ++ Text.quote path
  | folder path => "[Errno 21] Is a directory: " ++ Text.quote path
  | tooLong path => "[Errno 36] File name too long: " ++ Text.quote path

/-- What the command line needs from outside. -/
structure Terminal (m : Type → Type) where
  /-- How many cells a line has. -/
  width : Nat
  /-- Prints a text and ends the line. -/
  print : String → m Unit
  /-- Whether a path leads to a folder. -/
  isFolder : String → m Bool
  /-- Writes a text to a file. -/
  write : String → String → m (Except FileError Unit)

end Gasometer
