import ContentFilter.CommandLine.Run

/-!
# The program

Runs the commands on the machine itself.  There is no network here, so lists can only be refreshed
from what is stored.
-/

namespace ContentFilter

/-- A failure of the system, as commands report it. -/
def FileError.ofSystem : IO.Error → FileError
  | .noFileOrDirectory .. => .notFound
  | .inappropriateType .. => .isDirectory
  | failure => .other failure.toString

/-- The result of an action on files. -/
def attemptFile {α : Type} (action : IO α) : IO (Except FileError α) := do
  match ← action.toBaseIO with
  | .ok value => pure (.ok value)
  | .error failure => pure (.error (.ofSystem failure))

instance : Host IO where
  read path := attemptFile (IO.FS.readFile path)
  write path text := attemptFile (IO.FS.writeFile path text)
  rename source target := attemptFile (IO.FS.rename source target)
  get address := pure (.error (.unreachable address))
  now := IO.monoMsNow
  print line := IO.println line

end ContentFilter

open ContentFilter in
/-- The program.  Errors of a command go to the error output. -/
def main (arguments : List String) : IO UInt32 := do
  let exit ← CommandLine.runArguments arguments
  match exit with
  | .failed cause => IO.eprintln ("Error: " ++ cause.message)
  | .misused .helpRequested => IO.println "usage: compile | cosmetics | check | fetch, with options"
  | .misused _ => IO.eprintln "error: the arguments are not understood"
  | .success => pure ()
  pure (UInt32.ofNat exit.code)
