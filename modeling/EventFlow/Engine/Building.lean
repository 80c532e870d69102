import EventFlow.Definition.Check
import EventFlow.Engine.Basic
import EventFlow.Workflow.Problem

/-
  Building workflows.

  A definition is built into a workflow when the types that
  are registered with the engine allow it.  All problems of
  a definition are reported at once: the triggers, the
  initial step, and then the steps in order.  Building
  listens to nothing and adds nothing.

  Key definitions include:
    * `Engine.problems`
    * `Engine.build`
    * `Engine.buildValue`
-/

------------------------------------------------------------
-- Problems of Definitions
------------------------------------------------------------

namespace EventFlow

namespace Engine

/- Triggers whose types are not registered. -/
def triggerProblems
    (e : Engine)
    (d : WorkflowDefinition) : List Workflow.Problem :=
  (d.triggers.filter fun slug =>
    (e.triggerTypes.lookup slug).isNone).map .triggerUnknown

/- An initial step that is not defined. -/
def initialProblems
    (d : WorkflowDefinition) : List Workflow.Problem :=
  Workflow.problemIf (!d.hasStep d.initialStep)
    (.initialUndefined d.initialStep)

/- The problems of one step. -/
def problemsOfStep
    (e : Engine)
    (d : WorkflowDefinition)
    (stepId : String)
    (s : StepDefinition) :
    Except Failure (List Workflow.Problem) :=
  match e.stepTypes.lookup s.slug with
  | none => .ok [.typeUnknown stepId s.slug]
  | some (.type type) =>
      .ok (Workflow.stepProblems d stepId type s)
  | some .stale => .error .notType

/- The problems of steps in order. -/
def problemsOfSteps
    (e : Engine)
    (d : WorkflowDefinition) :
    List (String × StepDefinition) →
      Except Failure (List Workflow.Problem)
| [] => .ok []
| (stepId, s) :: rest =>
    match e.problemsOfStep d stepId s with
    | .error failure => .error failure
    | .ok problems =>
        (problemsOfSteps e d rest).map (problems ++ ·)

/- All problems of a definition. -/
def problems
    (e : Engine)
    (d : WorkflowDefinition) :
    Except Failure (List Workflow.Problem) :=
  (e.problemsOfSteps d d.steps).map fun problems =>
    e.triggerProblems d ++ initialProblems d ++ problems

end Engine

end EventFlow

------------------------------------------------------------
-- Building
------------------------------------------------------------

namespace EventFlow

namespace Engine

/- Refuse a definition that has problems. -/
def accept (d : WorkflowDefinition) : Act Engine Unit := do
  let problems ← fun e => (e.problems d, e)
  if problems.isEmpty then
    return
  else
    let texts := problems.map Workflow.Problem.text
    tell (.definitionRejected d.id texts)
    Act.fail (.workflowInvalid d.id texts)

/- Make triggers for slugs in order. -/
def makeTriggers
    (e : Engine) :
    List String → Except Failure (List Trigger)
| [] => .ok []
| slug :: slugs =>
    match e.makeTrigger slug with
    | .error failure => .error failure
    | .ok trigger =>
        (makeTriggers e slugs).map (trigger :: ·)

/- Build a definition into a workflow. -/
def build (d : WorkflowDefinition) : Act Engine Workflow := do
  accept d
  let triggers ← fun e => (e.makeTriggers d.triggers, e)
  return {
    definition := d
    triggers := triggers
  }

/- Build a value into a workflow. -/
def buildValue (v : Value) : Act Engine Workflow := do
  let d ← Act.ofExcept (WorkflowDefinition.ofValue v)
  build d

/- Give a workflow its place. -/
def place (w : Workflow) : Act Engine Nat :=
  fun e =>
    (.ok e.built.length, { e with built := e.built ++ [w] })

end Engine

end EventFlow
