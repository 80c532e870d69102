import EventFlow.CommandLine.Help
import EventFlow.Engine.Creation
import EventFlow.Log.Verbosity
import EventFlow.Version

/-
  What programs put out, and how they end.

  A program writes lines, complaints and log records, in one
  order.  A console is an engine together with what was put
  out so far: the records that are kept of the engine's
  notices come before the next line.

  Key definitions include:
    * `CommandLine.Output`
    * `CommandLine.Ending`
    * `CommandLine.Outcome`
    * `CommandLine.Console`
    * `CommandLine.Console.say`
    * `CommandLine.Console.finish`
-/

------------------------------------------------------------
-- Outcomes
------------------------------------------------------------

namespace EventFlow

namespace CommandLine

/-
  What a program puts out: a text on its output, a text on
  its error output, or a log record.
-/
inductive Output where
| line (text : String)
| complaint (text : String)
| record (r : Log.Record)

namespace Output

/- A text on the output. -/
def line? : Output → Option String
| .line text => some text
| _ => none

/- A text on the error output. -/
def complaint? : Output → Option String
| .complaint text => some text
| _ => none

/- A log record. -/
def record? : Output → Option Log.Record
| .record r => some r
| _ => none

end Output

/-
  How a program ends: with an exit code, with the exit code
  of a command line that was not carried out, or with a
  failure that nobody handled.
-/
inductive Ending where
| exit (code : Nat)
| quit (code : Nat)
| failed (failure : Failure)

/- What a program has put out, and how it has ended. -/
structure Outcome where
  ending : Ending
  output : List Output := []

end CommandLine

end EventFlow

------------------------------------------------------------
-- Command Lines That Are Not Carried Out
------------------------------------------------------------

namespace EventFlow

namespace CommandLine

/-
  The outcome of a command line that is not carried out.
  What is wrong with it comes behind the usage.
-/
def Stop.outcome
    (title : String) : Stop → Outcome
| .help g =>
    { ending := .quit 0, output := [.line g.help] }
| .version =>
    { ending := .quit 0
      output := [.line (title ++ " " ++ EventFlow.version)] }
| .refused g fault =>
    { ending := .quit 2
      output := [
        .complaint g.usage,
        .complaint
          (g.program ++ ": error: " ++ fault.message)
      ] }
| .failed failure => { ending := .failed failure }

end CommandLine

end EventFlow

------------------------------------------------------------
-- Consoles
------------------------------------------------------------

namespace EventFlow

namespace CommandLine

/- An engine, and what was put out so far. -/
structure Console where
  engine : Engine
  verbosity : Verbosity := {}
  output : List Output := []

namespace Console

/- Put out the records of the engine's notices. -/
def settle (c : Console) : Console :=
  { c with
    engine := c.engine.silenced
    output :=
      c.output ++
        (c.verbosity.records c.engine.notices).map .record }

/- An act of the engine as an act of the console. -/
def onEngine
    {α : Type}
    (a : Act Engine α) : Act Console α :=
  Act.on engine
    (fun e c => { c with engine := e }.settle) a

/- Put out something. -/
def put (output : Output) : Act Console Unit :=
  Act.change fun c =>
    { c with output := c.output ++ [output] }

/- Write a text on the output. -/
def say (text : String) : Act Console Unit :=
  put (.line text)

/- Write a text on the error output. -/
def complain (text : String) : Act Console Unit :=
  put (.complaint text)

/- Write texts on the output. -/
def sayAll : List String → Act Console Unit
| [] => return
| text :: texts => do
    say text
    sayAll texts

/- Write texts on the error output. -/
def complainAll : List String → Act Console Unit
| [] => return
| text :: texts => do
    complain text
    complainAll texts

/-
  The outcome of a program that yields its exit code and
  starts on a console.
-/
def finish
    (program : Act Console Nat)
    (c : Console) : Outcome :=
  match program c.settle with
  | (.ok code, c) =>
      { ending := .exit code, output := c.output }
  | (.error failure, c) =>
      { ending := .failed failure, output := c.output }

variable [Surroundings]

/-
  The outcome of a program on a console with an engine that
  settings ask for.
-/
def run
    (settings : Settings)
    (access : DataAccess)
    (program : Act Console Nat) : Outcome :=
  match Verbosity.configure settings.logLevel with
  | .error failure => { ending := .failed failure }
  | .ok verbosity =>
      match Engine.ofSettings settings access true with
      | .error failure => { ending := .failed failure }
      | .ok engine =>
          finish program
            { engine := engine, verbosity := verbosity }

end Console

end CommandLine

end EventFlow
