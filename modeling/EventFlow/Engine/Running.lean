import EventFlow.Engine.Basic
import EventFlow.Workflow.Walk

/-
  Running workflows.

  A bound trigger that is fired walks through the workflow
  that it belongs to, with the types that are registered at
  that time.

  Key definitions include:
    * `Engine.makeStep`
    * `Engine.stepOf`
    * `Engine.walkOf`
    * `Engine.fire`
-/

------------------------------------------------------------
-- Steps
------------------------------------------------------------

namespace EventFlow

namespace Engine

/- Make a step of the type that is registered for a slug. -/
def makeStep
    (e : Engine)
    (slug : String)
    (data : Value) : Except Failure Step :=
  match e.stepEntry slug with
  | .error failure => .error failure
  | .ok .stale => .error (.stepUnusable slug)
  | .ok (.type type) => Step.make type data

/- Make the step of an id of a definition. -/
def stepOf
    (e : Engine)
    (d : WorkflowDefinition)
    (stepId : String) : Except Failure Step :=
  match d.steps.lookup stepId with
  | some s =>
      e.makeStep s.slug (WorkflowDefinition.dataOf stepId s)
  | none => .error (.keyUnknown (.str stepId))

end Engine

end EventFlow

------------------------------------------------------------
-- Walks
------------------------------------------------------------

namespace EventFlow

namespace Engine

/- The walk that a trigger starts. -/
def walkOf
    (e : Engine)
    (d : WorkflowDefinition)
    (trigger : TriggerType)
    (payload correlationId : Value) : Walk :=
  { definition := d
    makeStep := e.makeStep
    run :=
      { workflowId := d.id
        trigger := trigger.slug
        correlationId := correlationId }
    limit := e.limit
    payload := payload }

variable [Surroundings]

/- Take a walk. -/
def take
    (w : Walk) : Act Engine ExecutionResult :=
  fun e =>
    let walked := w.take e.access
    (walked.outcome.map w.resultOf,
      hear walked.notices { e with access := walked.access })

/- Walk through a workflow as one of its triggers does. -/
def execute
    (d : WorkflowDefinition)
    (trigger : TriggerType)
    (payload correlationId : Value) :
    Act Engine ExecutionResult := do
  let walk ← Act.look fun e =>
    e.walkOf d trigger payload correlationId
  take walk

/- Fire a trigger, which must be bound. -/
def fireTrigger
    (t : Trigger)
    (payload correlationId : Value) :
    Act Engine ExecutionResult := do
  let owner? ← Act.look fun e =>
    t.owner?.bind e.workflowAt?
  match owner?, t.isBound with
  | some w, true =>
      execute w.definition t.type payload correlationId
  | _, _ => Act.fail (.triggerUnbound t.type.slug)

/- Fire the trigger of a workflow at an index. -/
def fire
    (place index : Nat)
    (payload correlationId : Value) :
    Act Engine ExecutionResult := do
  let trigger? ← Act.look fun e =>
    (e.workflowAt? place).bind fun w => w.triggers[index]?
  match trigger? with
  | some t => fireTrigger t payload correlationId
  | none => Act.fail .indexOutOfRange

end Engine

end EventFlow
