import EventFlow.CommandLine.Console
import EventFlow.CommandLine.Request
import EventFlow.Engine.Dispatch
import EventFlow.Engine.Loading

/-
  The main program.

  `validate` builds every entry of a file of definitions and
  gives a verdict on each; `fire` loads the file and then
  delivers one event.  Both read the file that is named on
  the command line, or else the one that the settings name.

  Key definitions include:
    * `CommandLine.Verdict`
    * `CommandLine.judge`
    * `CommandLine.validate`
    * `CommandLine.fire`
    * `CommandLine.perform`
    * `CommandLine.run`
-/

------------------------------------------------------------
-- Listing Types
------------------------------------------------------------

namespace EventFlow

namespace CommandLine

/- A text with spaces behind it up to a width. -/
def padded
    (width : Nat)
    (s : String) : String :=
  s ++
    String.ofList (List.replicate (width - s.length) ' ')

/- The line of a type of triggers. -/
def triggerLine (entry : String × TriggerType) : String :=
  padded 9 "trigger" ++ " " ++ entry.1 ++ "  (event: " ++
    entry.2.event ++ ")"

/- The line of a type of steps. -/
def stepLine
    (slug : String)
    (type : StepType) : String :=
  let word := if type.type.isEmpty then "step" else type.type
  padded 9 word ++ " " ++ slug

/- List types of steps in order. -/
def listSteps :
    List (String × StepEntry) → Act Console Unit
| [] => return
| (slug, .type type) :: entries => do
    Console.say (stepLine slug type)
    listSteps entries
| (_, .stale) :: _ =>
    Act.fail (.memberMissing "object" "type")

/- List the known types by their slugs. -/
def listTypes : Act Console Nat := do
  let e ← Act.look Console.engine
  Console.sayAll
    ((Entries.sorted e.triggerTypes).map triggerLine)
  listSteps (Entries.sorted e.stepTypes)
  return 0

end CommandLine

end EventFlow

------------------------------------------------------------
-- Validating
------------------------------------------------------------

namespace EventFlow

namespace CommandLine

/- A verdict on an entry of a file of definitions. -/
inductive Verdict where
| valid (id : String)
| invalid (id : String) (reason : String)
deriving DecidableEq, Repr

namespace Verdict

/- Whether an entry can be built. -/
def isValid : Verdict → Bool
| .valid _ => true
| .invalid _ _ => false

/- A verdict as it is put out. -/
def output : Verdict → Output
| .valid id => .line ("OK      " ++ id)
| .invalid id reason =>
    .complaint ("INVALID " ++ id ++ ": " ++ reason)

end Verdict

/-
  Judge an entry by building it.  Only a definition that is
  invalid makes a verdict; any other failure is one.
-/
def judge (entry : Value) : Act Engine Verdict := do
  match ← Act.attempt (Engine.buildValue entry) with
  | .ok w => return .valid w.id
  | .error failure =>
      match failure with
      | .workflowInvalid id _ =>
          return .invalid id failure.message
      | failure => Act.fail failure

/- Judge entries in order, and put out each verdict. -/
def judgeAll :
    List Value → Act Console (List Verdict)
| [] => return []
| entry :: entries => do
    let verdict ← Console.onEngine (judge entry)
    Console.put verdict.output
    let verdicts ← judgeAll entries
    return verdict :: verdicts

/- The last line of a validation. -/
def tally (verdicts : List Verdict) : String :=
  toString (verdicts.countP Verdict.isValid) ++ "/" ++
    toString verdicts.length ++ " workflow(s) valid"

/- The exit code of a validation. -/
def exitCode (verdicts : List Verdict) : Nat :=
  if verdicts.all Verdict.isValid then 0 else 1

variable [Surroundings]

/- Validate the definitions of a file. -/
def validate
    (files : Files)
    (path : Path) : Act Console Nat := do
  let entries ←
    Console.onEngine (Engine.entriesOf files path)
  let verdicts ← judgeAll entries
  Console.say (tally verdicts)
  return exitCode verdicts

end CommandLine

end EventFlow

------------------------------------------------------------
-- Firing
------------------------------------------------------------

namespace EventFlow

namespace CommandLine

/- The ids of steps that were taken, as a path. -/
def pathText (ids : List String) : String :=
  " -> ".intercalate ids

/- The line of a walk. -/
def runLine (r : ExecutionResult) : String :=
  let path := pathText r.stepIds
  r.workflowId ++ " [" ++ r.trigger ++ "]: " ++
    (if path.isEmpty then "(no steps)" else path)

/- The complaint about a subscriber that failed. -/
def errorLine (failure : Failure) : String :=
  "ERROR: " ++ failure.message

/- Tell what came of an event. -/
def report (result : DispatchResult) : Act Console Nat := do
  Console.sayAll (result.runs.map runLine)
  Console.complainAll (result.errors.map errorLine)
  if result.delivered = 0 && result.isOk then
    Console.say
      ("No workflow listens to " ++
        Text.quoted result.event)
  return if result.isOk then 0 else 1

variable [Surroundings]

/- Load the definitions of a file, and deliver an event. -/
def fire
    (files : Files)
    (path : Path)
    (event : String)
    (payload correlationId : Value) : Act Console Nat := do
  match ← Act.attempt
      (Console.onEngine
        (Engine.loadFile files path true)) with
  | .ok _ =>
      let result ← Console.onEngine
        (Engine.dispatch event payload correlationId)
      report result
  | .error failure =>
      if failure.code?.isSome then
        Console.complain
          ("Failed to load workflows: " ++ failure.message)
        return 1
      else
        Act.fail failure

end CommandLine

end EventFlow

------------------------------------------------------------
-- The Program
------------------------------------------------------------

namespace EventFlow

namespace CommandLine

/- The path that is given, or else the one of the settings. -/
def definitionsPath
    (settings : Settings)
    (path? : Option String) : Path :=
  match path? with
  | none => settings.path
  | some text =>
      if text.isEmpty then
        settings.path
      else
        Path.ofText text

namespace Request

/- The path of the definitions that a request reads. -/
def path?
    (settings : Settings) : Request → Option Path
| .listTypes => none
| .validate path? => some (definitionsPath settings path?)
| .fire _ _ _ path? => some (definitionsPath settings path?)

end Request

variable [Surroundings]

/- Carry out a request. -/
def perform
    (settings : Settings)
    (files : Files) : Request → Act Console Nat
| .listTypes => listTypes
| .validate path? =>
    validate files (definitionsPath settings path?)
| .fire event payload correlationId path? =>
    fire files (definitionsPath settings path?) event payload
      correlationId

/-
  The outcome of settings that cannot be read: what is wrong
  with their values is reported, and other failures are not
  handled.
-/
def settingsOutcome (failure : Failure) : Outcome :=
  match failure with
  | .record _ _ =>
      { ending := .exit 2
        output := [
          .complaint "Configuration error (check your .env):",
          .complaint failure.message
        ] }
  | failure => { ending := .failed failure }

/- The path of the definitions that a command line reads. -/
def neededPath?
    (words : List String)
    (env : List (String × String))
    (files : Files) : Option Path :=
  match Request.read words, Settings.load env files with
  | .ok request, .ok settings => request.path? settings
  | _, _ => none

/- Run the main program. -/
def run
    (words : List String)
    (env : List (String × String))
    (files : Files) : Outcome :=
  match Request.read words with
  | .error stop => stop.outcome programName
  | .ok request =>
      match Settings.load env files with
      | .error failure => settingsOutcome failure
      | .ok settings =>
          Console.run settings .none
            (perform settings files request)

end CommandLine

end EventFlow
