import EventFlow.Json.Parser
import EventFlow.Schema
import EventFlow.Surroundings

/-
  The bodies of requests that send an event.

  A body is a JSON object with perhaps a payload and a
  correlation id; other fields do not count.  The zeros in
  its first bytes tell how it is encoded.

  Key definitions include:
    * `Ingress.EventRequest`
    * `Ingress.BodyFault`
    * `Ingress.EventRequest.read`
-/

------------------------------------------------------------
-- Requests
------------------------------------------------------------

namespace EventFlow

namespace Ingress

/- An event that is sent. -/
structure EventRequest where
  payload : Value := .object []
  correlationId : Value := .null

/-
  What can be wrong with a body: it is no JSON, its bytes
  are no text or its JSON cannot be read, or it has the
  wrong shape.
-/
inductive BodyFault where
| unreadable (fault : Json.Fault)
| unusable
| misshapen (problems : List Schema.Problem)

namespace EventRequest

/- Check the fields of a body. -/
def checkFields
    (fields : List (String × Value)) :
    Schema.Checked EventRequest :=
  ((Schema.optional fields "payload" []
      Schema.table).and <|
    Schema.optional fields "correlation_id" none
      Schema.text?).map
    fun (payload, correlationId) =>
      { payload := .object payload
        correlationId := Value.ofText? correlationId }

/- Check a body. -/
def check (v : Value) : Schema.Checked EventRequest :=
  let checked :=
    match v with
    | .object fields => checkFields fields
    | v => Schema.broken .body v
  checked.inside (.field "body")

/- The problem of a body that is missing. -/
def missing : Schema.Problem :=
  { rule := .missing
    place := [.field "body"]
    found := .null }

variable [Surroundings]

/- Read the body of a request. -/
def read (body : String) : Except BodyFault EventRequest :=
  if body.isEmpty then
    .error (.misshapen [missing])
  else
    match Text.decodeJson? (Utf8.encode body) with
    | none => .error .unusable
    | some cs =>
        match Json.parseWithin Surroundings.nesting cs with
        | .error fault =>
            if fault.reason.isGrammar then
              .error (.unreadable fault)
            else
              .error .unusable
        | .ok v => (check v).mapError .misshapen

end EventRequest

end Ingress

end EventFlow
