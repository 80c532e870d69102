import EventFlow.Sample.OuterAreas
import EventFlow.Sample.TypeAreas
import EventFlow.Sample.Types
import EventFlow.Step.Execute

/-
  Sample surroundings.

  The sample types are brought along with their bodies, and
  the areas are what can be imported.  A path that begins
  with a point is relative, and no import knows to what.

  Key definitions include:
    * `Sample.bodies`
    * `Sample.areas`
    * `Sample.importing`
    * `Sample.surroundings`
-/

------------------------------------------------------------
-- Conditions
------------------------------------------------------------

namespace EventFlow

namespace Sample

/- Leave the step and the data access as they are. -/
def doNothing
    (s : Step)
    (_ : Value)
    (access : DataAccess) : Effect :=
  s.accessing access []

/- The body of a step that goes where its variant says. -/
def bodyOf
    (execute : Step → Value → DataAccess → Effect) : Body :=
  { execute := execute
    next := fun s => .ok s.successor }

/- Read the outcome from a flag of the payload. -/
def readFlag
    (s : Step)
    (payload : Value)
    (access : DataAccess) : Effect :=
  match payload with
  | .object _ =>
      s.deciding access []
        (payload.fieldD "flip").isTruthy
  | v => s.failing access [] (.memberMissing v.kind "get")

/- Trace the step, and leave its outcome as it is. -/
def keepOutcome
    (s : Step)
    (_ : Value)
    (access : DataAccess) : Effect :=
  s.accessing access
    [{ message := "inert", context := some [] }]

end Sample

end EventFlow

------------------------------------------------------------
-- Actions and Other Steps
------------------------------------------------------------

namespace EventFlow

namespace Sample

/- Trace the contact that a step works on. -/
def traceContact
    (s : Step)
    (payload : Value)
    (access : DataAccess) : Effect :=
  match s.contact payload with
  | .error failure => s.failing access [] failure
  | .ok contact =>
      s.accessing access
        [{ message := "subject " ++ contact.shown }]

/- Hand the payload on to the data access. -/
def recordPayload
    (s : Step)
    (payload : Value)
    (access : DataAccess) : Effect :=
  s.applying access [] (access.record payload)

/- Fail with the message that the attributes give. -/
def raiseMessage
    (s : Step)
    (_ : Value)
    (access : DataAccess) : Effect :=
  match s.require "message" with
  | .error failure => s.failing access [] failure
  | .ok message =>
      s.failing access []
        (.raised "RuntimeError" message.text)

/- Trace the attributes of a step. -/
def traceAttributes
    (s : Step)
    (_ : Value)
    (access : DataAccess) : Effect :=
  s.accessing access
    [{ message := "plain " ++ s.id.text
       context := some s.attributes }]

/- The successor that the attributes of a step give. -/
def goto (s : Step) : Except Failure Value :=
  match s.attributes.get? "goto" with
  | some v => .ok v
  | none => .error (.keyUnknown (.str "goto"))

/- The bodies that the sample types bring along. -/
def bodies : List (StepType × Body) := [
  (flip, bodyOf readFlag),
  (inert, bodyOf keepOutcome),
  (recording, bodyOf recordPayload),
  (raising, bodyOf raiseMessage),
  (subjectless, bodyOf traceContact),
  (idle, bodyOf doNothing),
  (plain, { execute := traceAttributes, next := goto })
]

end Sample

end EventFlow

------------------------------------------------------------
-- Surroundings
------------------------------------------------------------

namespace EventFlow

namespace Sample

/- The area of a host application with the sample types. -/
def hostArea (path : String) : Area :=
  area path
    (items ++ [
      anyTrigger,
      .step Builtin.addContactLog,
      .step Builtin.fieldCondition,
      .step Builtin.transactionField,
      anyStep,
      anyCondition,
      anyAction,
      contactAction
    ])

/- The areas that every application can import. -/
def areas : List Area :=
  typeAreas ++ runningAreas ++ outerAreas

/- What the import of a path yields. -/
def importing
    (areas : List Area)
    (path : String) : Imported :=
  if path.toList.head? = some '.' then
    .broken (.relativePath path)
  else
    match areas.find? (·.path == path) with
    | some area => .area fun name => area.items.lookup name
    | none => .missing

/- What a name stands for in any of the areas. -/
def named?
    (areas : List Area)
    (name : String) : Option Item :=
  areas.findSome? (·.items.lookup name)

/- The surroundings in which the areas can be imported. -/
@[reducible]
def surroundings (areas : List Area) : Surroundings where
  importing := importing areas
  body := fun type =>
    (bodies.lookup type).getD (bodyOf doNothing)
  nesting := 980
  calls := 500

end Sample

end EventFlow
