import ReactiveTree.CommandLine.Response
import Std.Time.DateTime.Timestamp

/-!
# The program

The commands over the real file system: output goes to the standard output, failures and the lines
of snippets to the standard error.

Key definitions: `main`.
-/
namespace ReactiveTree.CommandLine

/-- The text of a failed system call. -/
def causeText : IO.Error → String
  | .noFileOrDirectory .. => withCode "No such file or directory" 2
  | .permissionDenied _ code details => withCode details code
  | .inappropriateType _ code details => withCode details code
  | .resourceExhausted _ code details => withCode details code
  | e => toString e
where
  /-- A text with the number of the failure. -/
  withCode (details : String) (code : UInt32) : String :=
    details ++ " (os error " ++ toString code ++ ")"

/-- What a system call gives, or the text of its failure. -/
def attempt {α : Type} (action : IO α) : IO (Except String α) := do
  match ← action.toBaseIO with
  | .ok a => return .ok a
  | .error e => return .error (causeText e)

/-- There is something at a file name, be it readable or not. -/
def isThere (file : String) : IO Bool := do
  match ← (IO.FS.Handle.mk file .read).toBaseIO with
  | .error (.noFileOrDirectory ..) => return false
  | _ => return true

/-- The present time. -/
def presentTime : IO Timestamp := do
  let t ← Std.Time.Timestamp.now
  let nanos := t.toNanosecondsSinceUnixEpoch.val
  let second := nanos / 1000000000
  return { day := second / 86400, second := (second % 86400).toNat
           nano := (nanos % 1000000000).toNat }

def fileHost : Host IO where
  read file := attempt (IO.FS.readFile file)
  write file text := attempt (IO.FS.writeFile file text)
  contains := isThere
  time := presentTime

end ReactiveTree.CommandLine

open ReactiveTree.CommandLine in
def main (words : List String) : IO UInt32 := do
  let r ← respond fileHost words
  for note in r.log do
    IO.eprintln note.shown
  IO.print r.output
  match r.failure with
  | [] => pure ()
  | outer :: causes =>
    IO.eprintln ("Error: " ++ outer)
    for cause in causes do
      IO.eprintln ("Caused by: " ++ cause)
  return r.code.toUInt32
