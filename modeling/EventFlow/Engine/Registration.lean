import EventFlow.Catalog.Builtin
import EventFlow.Engine.Basic

/-
  Registration of types.

  A type is registered under its slug without the blanks
  around it.  A slug is taken by the first type of triggers
  that is registered under it.  A later type of steps takes
  the place of an earlier one, unless the engine is strict.

  Key definitions include:
    * `Engine.slugOf`
    * `Engine.registerTrigger`
    * `Engine.registerStep`
    * `Engine.registerBuiltins`
-/

------------------------------------------------------------
-- Triggers
------------------------------------------------------------

namespace EventFlow

namespace Engine

/- The slug that a type is registered under. -/
def slugOf
    (role : Role)
    (slug : String) : Except Failure String :=
  let slug := Text.trim slug
  if slug.isEmpty then
    .error (.slugBlank role)
  else
    .ok slug

/- Register a type of triggers under a slug. -/
def putTriggerType
    (slug : String)
    (type : TriggerType) : Act Engine String := do
  let types ← Act.look triggerTypes
  if (types.lookup slug).isSome then
    Act.fail (.slugTaken .trigger slug)
  else
    Act.change fun e =>
      { e with
        triggerTypes := Entries.put slug type e.triggerTypes }
    tell (.triggerRegistered slug)
    return slug

variable [Surroundings]

/- Register a type of triggers, and tell its slug. -/
def registerTrigger (i : Identifier) : Act Engine String := do
  let type ← Act.ofExcept i.trigger
  let slug ← Act.ofExcept (slugOf .trigger type.slug)
  putTriggerType slug type

end Engine

end EventFlow

------------------------------------------------------------
-- Steps
------------------------------------------------------------

namespace EventFlow

namespace Engine

/-
  What is told when a type of steps takes the place of an
  entry, if it may.
-/
def replacing
    (isStrict : Bool)
    (slug : String)
    (type : StepType) :
    Option StepEntry → Except Failure (List Notice)
| none => .ok []
| some entry =>
    if entry = .type type then
      .ok []
    else if isStrict then
      .error (.slugTaken .step slug)
    else
      match entry with
      | .type previous =>
          .ok [.stepReplaced slug previous.name type.name]
      | .stale =>
          .error (.memberMissing "object" "__qualname__")

/- Register a type of steps under a slug. -/
def putStepType
    (slug : String)
    (type : StepType) : Act Engine String := do
  let existing ← Act.look fun e => e.stepTypes.lookup slug
  let isStrict ← Act.look isStrict
  let notices ←
    Act.ofExcept (replacing isStrict slug type existing)
  Act.change (hear notices)
  Act.change fun e =>
    { e with
      stepTypes := Entries.put slug (.type type) e.stepTypes }
  tell (.stepRegistered slug)
  return slug

variable [Surroundings]

/- Register a type of steps, and tell its slug. -/
def registerStep (i : Identifier) : Act Engine String := do
  let type ← Act.ofExcept i.step
  let slug ← Act.ofExcept (slugOf .step type.slug)
  putStepType slug type

end Engine

end EventFlow

------------------------------------------------------------
-- Built-In Types
------------------------------------------------------------

namespace EventFlow

namespace Engine

variable [Surroundings]

/- Register types of triggers in order. -/
def registerTriggers :
    List TriggerType → Act Engine Unit
| [] => return
| type :: types => do
    let _ ← registerTrigger (.item (.trigger type))
    registerTriggers types

/- Register types of steps in order. -/
def registerSteps : List StepType → Act Engine Unit
| [] => return
| type :: types => do
    let _ ← registerStep (.item (.step type))
    registerSteps types

/- Register the built-in types. -/
def registerBuiltins : Act Engine Unit := do
  registerTriggers Builtin.triggers
  registerSteps Builtin.steps

end Engine

end EventFlow
