import EventFlow.Engine.Dispatch
import EventFlow.Ingress.EventRequest
import EventFlow.Version

/-
  The responses of the ingress.

  A response has a status and a body.  The body of a refusal
  tells its details.

  Key definitions include:
    * `Ingress.Response`
    * `Ingress.Response.ofFault`
    * `Ingress.Response.ofTriggerTypes`
    * `Ingress.Response.ofStepTypes`
    * `Ingress.Response.ofWorkflows`
    * `Ingress.Response.ofDispatch`
-/

------------------------------------------------------------
-- Responses
------------------------------------------------------------

namespace EventFlow

namespace Ingress

/- A response, of which the body may be left out. -/
structure Response where
  status : Nat := 200
  body? : Option Value

namespace Response

/- A response that grants what was asked for. -/
def ok (body : Value) : Response :=
  { body? := some body }

/- A response that refuses, with details. -/
def refusal
    (status : Nat)
    (detail : Value) : Response :=
  { status := status
    body? := some (.object [("detail", detail)]) }

/- There is no such route. -/
def notFound : Response :=
  refusal 404 (.str "Not Found")

/- The route is not asked by that method. -/
def methodNotAllowed : Response :=
  refusal 405 (.str "Method Not Allowed")

/- The event has no name. -/
def eventMissing : Response :=
  refusal 400 (.str "Event name is required")

end Response

end Ingress

end EventFlow

------------------------------------------------------------
-- Faults of Bodies
------------------------------------------------------------

namespace EventFlow

namespace Ingress

namespace Response

/- Whether the name of a field is kept out of responses. -/
def isHidden (name : String) : Bool :=
  "_sa".toList.isPrefixOf name.toList

mutual

/- A value without the fields that are kept out. -/
def told : Value → Value
| .list vs => .list (toldItems vs)
| .object fs => .object (toldFields fs)
| v => v
termination_by structural v => v

/- Items without the fields that are kept out. -/
def toldItems : List Value → List Value
| [] => []
| v :: vs => told v :: toldItems vs
termination_by structural vs => vs

/- Fields without those that are kept out. -/
def toldFields :
    List (String × Value) → List (String × Value)
| [] => []
| (name, v) :: fs =>
    if isHidden name then
      toldFields fs
    else
      (name, told v) :: toldFields fs
termination_by structural fs => fs

end

/- A problem of a body. -/
def ofProblem (p : Schema.Problem) : Value :=
  .object [
    ("type", .str p.rule.code),
    ("loc", .list (p.place.map Schema.Place.toValue)),
    ("msg", .str p.rule.message),
    ("input", told p.found)
  ]

/- The problem of a body that is no JSON. -/
def ofJsonFault (fault : Json.Fault) : Value :=
  .object [
    ("type", .str "json_invalid"),
    ("loc", .list [.str "body", .int fault.position]),
    ("msg", .str "JSON decode error"),
    ("input", .object []),
    ("ctx",
      .object [("error", .str fault.reason.message)])
  ]

/-
  The response to a body that cannot be read.  A number that
  is not finite cannot be told in a response.
-/
def ofFault : BodyFault → Except Failure Response
| .unreadable fault =>
    .ok (refusal 422 (.list [ofJsonFault fault]))
| .unusable =>
    .ok
      (refusal 400
        (.str "There was an error parsing the body"))
| .misshapen problems =>
    if problems.all fun p => (told p.found).isFinite then
      .ok (refusal 422 (.list (problems.map ofProblem)))
    else
      .error .notFinite

end Response

end Ingress

end EventFlow

------------------------------------------------------------
-- Answers
------------------------------------------------------------

namespace EventFlow

namespace Ingress

namespace Response

/- The program is well. -/
def health : Response :=
  ok
    (.object [
      ("status", .str "ok"),
      ("version", .str EventFlow.version)
    ])

/- The types of triggers, by their slugs. -/
def ofTriggerTypes
    (types : List (String × TriggerType)) : Response :=
  ok
    (.list
      ((Entries.sorted types).map fun (_, type) =>
        .object type.describe))

/- Descriptions of types of steps in order. -/
def describeSteps :
    List (String × StepEntry) → Except Failure (List Value)
| [] => .ok []
| (_, .type type) :: entries =>
    (describeSteps entries).map
      (.object type.describe :: ·)
| (_, .stale) :: _ =>
    .error (.memberMissing "object" "describe")

/- The types of steps, by their slugs. -/
def ofStepTypes
    (entries : List (String × StepEntry)) :
    Except Failure Response :=
  (describeSteps (Entries.sorted entries)).map fun vs =>
    ok (.list vs)

/- A workflow. -/
def ofWorkflow (w : Workflow) : Value :=
  .object [
    ("id", .str w.id),
    ("name", .str w.definition.name),
    ("active", .bool w.definition.active),
    ("triggers", .list (w.definition.triggers.map .str)),
    ("bound", .bool (w.triggers.any Trigger.isBound))
  ]

/- Workflows in order. -/
def ofWorkflows (ws : List Workflow) : Response :=
  ok (.list (ws.map ofWorkflow))

/- A walk of a workflow. -/
def ofRun (r : ExecutionResult) : Value :=
  .object [
    ("workflow_id", .str r.workflowId),
    ("trigger", .str r.trigger),
    ("steps", .list (r.stepIds.map .str))
  ]

/- The failure of a subscriber. -/
def ofFailure (failure : Failure) : Value :=
  .object [
    ("code", Value.ofText? failure.code?),
    ("message", .str failure.message)
  ]

/- What came of an event. -/
def ofDispatch (result : DispatchResult) : Response :=
  ok
    (.object [
      ("event", .str result.event),
      ("delivered", .int result.delivered),
      ("executions", .list (result.runs.map ofRun)),
      ("errors", .list (result.errors.map ofFailure))
    ])

end Response

end Ingress

end EventFlow
