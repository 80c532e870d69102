import EventFlow.Engine.Creation
import EventFlow.Engine.Loading
import EventFlow.Ingress.Response
import EventFlow.Ingress.Route
import EventFlow.Json.Printer

/-
  Answering requests.

  A request is answered with a host, which may serve more
  subscribers than the triggers of its engine.

  Key definitions include:
    * `Ingress.Body`
    * `Ingress.Request`
    * `Ingress.targetOf`
    * `Ingress.sendEvent`
    * `Ingress.answer`
    * `Ingress.openEngine`
-/

------------------------------------------------------------
-- Requests
------------------------------------------------------------

namespace EventFlow

namespace Ingress

/- What a request is sent with: a text, or a value as JSON. -/
inductive Body where
| text (s : String)
| json (v : Value)

namespace Body

/-
  The text of a body.  Numbers that are not finite are not
  sent.
-/
def written : Body → Except Failure String
| .text s => .ok s
| .json v =>
    if v.isFinite then
      .ok (Json.render v)
    else
      .error .notFinite

end Body

/- A request.  An empty body is no body. -/
structure Request where
  method : String := "GET"
  target : String
  body : Body := .text ""

end Ingress

end EventFlow

------------------------------------------------------------
-- Answers
------------------------------------------------------------

namespace EventFlow

namespace Ingress

variable {σ : Type}

variable [Surroundings]

/- Deliver an event that was sent. -/
def sendEvent
    (h : Host σ)
    (event : String)
    (body : String) : Act σ Response :=
  match EventRequest.read body with
  | .error fault => Act.ofExcept (Response.ofFault fault)
  | .ok request =>
      if Text.isBlankText event then
        return .eventMissing
      else do
        let result ← h.dispatch event request.payload
          request.correlationId
        return .ofDispatch result

/- Answer at a route. -/
def answerAt
    (h : Host σ)
    (body : String) : Route → Act σ Response
| .health => return .health
| .triggers =>
    Act.look fun s =>
      .ofTriggerTypes (h.engine s).triggerTypes
| .steps => fun s =>
    (Response.ofStepTypes (h.engine s).stepTypes, s)
| .workflows =>
    Act.look fun s => .ofWorkflows (h.engine s).workflows
| .events event => sendEvent h event body

/- Answer at the route of a target, if it has one. -/
def answerAny
    (h : Host σ)
    (method : String)
    (target : Target)
    (body : String) : Act σ Response :=
  match Route.find? target with
  | .error fault => Act.fail (.misdirected fault)
  | .ok none => return .notFound
  | .ok (some route) =>
      if route.method = method then
        answerAt h body route
      else
        return .methodNotAllowed

/- The target of a request, if it is well written. -/
def targetOf (r : Request) : Except TargetFault Target :=
  match writingFault? r.target.toList with
  | some fault => .error fault
  | none =>
      let target := Target.ofChars r.target.toList
      match target.fault? with
      | some fault => .error fault
      | none => .ok target

/- What a request asks for and the text that it is sent with. -/
def sent (r : Request) : Except Failure (Target × String) :=
  match targetOf r with
  | .error fault => .error (.misdirected fault)
  | .ok target =>
      match r.body.written with
      | .error failure => .error failure
      | .ok body =>
          match target.serviceFault? with
          | some fault => .error (.misdirected fault)
          | none => .ok (target, body)

/-
  Answer a request.  An answer to `HEAD` has no body, and a
  request that cannot be sent has no answer.
-/
def answer
    (h : Host σ)
    (r : Request) : Act σ Response := do
  let (target, body) ← Act.ofExcept (sent r)
  let response ← answerAny h r.method target body
  return if r.method = "HEAD" then
    { response with body? := none }
  else
    response

end Ingress

end EventFlow

------------------------------------------------------------
-- Engines
------------------------------------------------------------

namespace EventFlow

namespace Ingress

variable [Surroundings]

/-
  An engine as the settings ask for, with the workflows of
  their file of definitions.
-/
def openEngine
    (env : List (String × String))
    (files : Files) : Except Failure Engine :=
  match Settings.load env files with
  | .error failure => .error failure
  | .ok settings =>
      match Engine.ofSettings settings .none true with
      | .error failure => .error failure
      | .ok e =>
          match Engine.loadFile files settings.path
              settings.shouldInit e with
          | (.ok _, e) => .ok e
          | (.error failure, _) => .error failure

end Ingress

end EventFlow
