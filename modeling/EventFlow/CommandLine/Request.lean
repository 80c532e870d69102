import EventFlow.CommandLine.Reading
import EventFlow.Json.Parser
import EventFlow.Surroundings

/-
  The requests that the main program understands.

  The program lists the known types, validates the workflows
  of a file, or loads them and fires one event.

  Key definitions include:
    * `CommandLine.Request`
    * `CommandLine.mainGrammar`
    * `CommandLine.Request.read`
-/

------------------------------------------------------------
-- Requests
------------------------------------------------------------

namespace EventFlow

namespace CommandLine

/- What the main program is asked for. -/
inductive Request where
| listTypes
| validate (path? : Option String)
| fire
    (event : String)
    (payload : Value)
    (correlationId : Value)
    (path? : Option String)

/- The name of the main program. -/
def programName : String :=
  "crm-automation"

variable [Surroundings]

/- Read the payload of an event, which is a JSON object. -/
def readPayload : ValueReader :=
  fun word =>
    match Json.parse Surroundings.nesting word with
    | .ok (.object fields) => .ok (.object fields)
    | .ok _ =>
        .error (.reason "payload must be a JSON object")
    | .error fault =>
        if fault.reason.isGrammar then
          .error
            (.reason
              ("payload is not valid JSON: " ++
                fault.message))
        else if fault.reason.isCount then
          .error
            (.reason
              ("invalid _parse_payload value: " ++
                Text.quoted word))
        else
          .error (.failure (.unreadable fault))

end CommandLine

end EventFlow

------------------------------------------------------------
-- Grammars
------------------------------------------------------------

namespace EventFlow

namespace CommandLine

/- The grammar of a command of the main program. -/
def commandGrammar
    (name : String)
    (named : List Named)
    (operand? : Option Operand) : Grammar :=
  { program := programName ++ " " ++ name
    named := .help :: named
    operand? := operand? }

/- The argument that names a file of definitions. -/
def workflowsArgument : Named :=
  .value "workflows"
    ("Path to the workflow definitions JSON file " ++
      "(defaults to AUTOMATION_WORKFLOWS_PATH)")

variable [Surroundings]

/- The commands, with their grammars. -/
def commands : List (Choice × Grammar) := [
  (⟨"list-types",
      "List registered trigger and step types"⟩,
    commandGrammar "list-types" [] none),
  (⟨"validate",
      "Build every stored workflow definition"⟩,
    commandGrammar "validate" [workflowsArgument] none),
  (⟨"fire",
      "Load stored workflows, then dispatch one event " ++
        "through the event bus"⟩,
    commandGrammar "fire"
      [ .value "payload"
          ("Event payload as a JSON object, e.g. " ++
            "'\x7b\"id\": 1, \"data\": " ++
            "\x7b\"status\": \"paid\"\x7d\x7d'")
          readPayload,
        .value "correlation-id"
          "Optional correlating identifier",
        workflowsArgument ]
      (some (.word "event"
        "Event name, e.g. 'transaction_updated'")))
]

/- The grammar of the main program. -/
def mainGrammar : Grammar :=
  { program := programName
    about := "Rule-based CRM workflow automation engine"
    named := [.help, .version]
    operand? :=
      some (.command "command" (commands.map Prod.fst)) }

/- The grammar of a command, or what is wrong with its name. -/
def commandNamed (name : String) : Except Stop Grammar :=
  match commands.find? fun (c, _) => c.name == name with
  | some (_, g) => .ok g
  | none =>
      mainGrammar.refuse
        (.choiceUnknown "command" name
          (commands.map fun (c, _) => c.name))

end CommandLine

end EventFlow

------------------------------------------------------------
-- Reading Requests
------------------------------------------------------------

namespace EventFlow

namespace CommandLine

namespace Request

/- The request that a command and its arguments make. -/
def ofReading
    (name : String)
    (r : Reading) : Request :=
  let path? := r.text? "workflows"
  if name = "validate" then
    .validate path?
  else if name = "fire" then
    .fire ((r.text? "event").getD "")
      ((r.values.lookup "payload").getD (.object []))
      (r.value "correlation-id") path?
  else
    .listTypes

variable [Surroundings]

/- The request of a command with the words behind its name. -/
def ofCommand
    (extras : List String)
    (name : String)
    (texts : List String) : Except Stop Request :=
  match commandNamed name with
  | .error stop => .error stop
  | .ok g =>
      match g.read texts with
      | .error stop => .error stop
      | .ok found =>
          match extras ++ found.extras with
          | [] => .ok (ofReading name found)
          | extras => mainGrammar.refuse (.unrecognized extras)

/- Read the request of a command line. -/
def read (texts : List String) : Except Stop Request :=
  match mainGrammar.read texts with
  | .error stop => .error stop
  | .ok found =>
      match found.command with
      | name :: texts => ofCommand found.extras name texts
      | [] => mainGrammar.refuse (.required "command")

end Request

end CommandLine

end EventFlow
