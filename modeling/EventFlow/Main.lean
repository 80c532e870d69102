import EventFlow.CommandLine.Program
import EventFlow.Log.Timestamp
import Std.Time.DateTime.Timestamp

/-
  The main program at a terminal.

  The environment, the file of assignments and the file of
  definitions are read first; then all that the program puts
  out is written in order.

  Key definitions include:
    * `Terminal.readFiles`
    * `Terminal.put`
    * `Terminal.run`
    * `main`
-/

------------------------------------------------------------
-- Reading
------------------------------------------------------------

namespace EventFlow

namespace Terminal

/- The bytes of a file, if it can be read. -/
def readBytes? (path : Path) :
    IO (Option (List UInt8)) := do
  try
    let bytes ← IO.FS.readBinFile path.text
    return some bytes.toList
  catch _ =>
    return none

/- Files with the one at a path, if it can be read. -/
def withFile
    (path : Path)
    (files : Files) : IO Files := do
  match ← readBytes? path with
  | some bytes => return files.place path bytes
  | none => return files

/- The variables of the environment that settings know. -/
def readEnvironment : IO (List (String × String)) := do
  let names :=
    Settings.variableNames ++
      Settings.variableNames.map Text.lowerName
  let mut env := []
  for name in names do
    match ← IO.getEnv name with
    | some value => env := env ++ [(name, value)]
    | none => pure ()
  return env

variable [Surroundings]

/- The files that a command line needs. -/
def readFiles
    (words : List String)
    (env : List (String × String)) : IO Files := do
  let files ← withFile Settings.filePath []
  match CommandLine.neededPath? words env files with
  | some path => withFile path files
  | none => return files

end Terminal

end EventFlow

------------------------------------------------------------
-- Writing
------------------------------------------------------------

namespace EventFlow

namespace Terminal

/- The present time, written. -/
def now : IO String := do
  let time ← Std.Time.Timestamp.now
  let nanos := time.toNanosecondsSinceUnixEpoch.val
  let moment : Timestamp.Moment :=
    { seconds := nanos / 1000000000
      micros := (nanos % 1000000000 / 1000).toNat }
  return (moment.text.toOption).getD ""

/- Write what a program puts out. -/
def put : CommandLine.Output → IO Unit
| .line text => IO.println text
| .complaint text => IO.eprintln text
| .record r => do
    let time ← now
    IO.println (r.render time)

/- End as a program has ended. -/
def finish : CommandLine.Ending → IO UInt32
| .exit code => return UInt32.ofNat code
| .quit code => return UInt32.ofNat code
| .failed failure => do
    IO.eprintln failure.message
    return 1

end Terminal

end EventFlow

------------------------------------------------------------
-- The Program
------------------------------------------------------------

namespace EventFlow

namespace Terminal

/- Run the main program within surroundings. -/
def run
    [Surroundings]
    (words : List String) : IO UInt32 := do
  let env ← readEnvironment
  let files ← readFiles words env
  let outcome := CommandLine.run words env files
  for output in outcome.output do
    put output
  finish outcome.ending

end Terminal

end EventFlow

open scoped EventFlow.Bare in
/- Run the main program on the words of a command line. -/
def main (words : List String) : IO UInt32 :=
  EventFlow.Terminal.run words
