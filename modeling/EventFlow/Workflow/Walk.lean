import EventFlow.Notice
import EventFlow.Step.Execute
import EventFlow.Workflow.Basic

/-
  The walk through a workflow.

  A walk starts at the initial step and follows the
  successor of each step until there is none.  A step is
  made anew each time it is reached.  The walk ends with a
  failure when a step fails, when a successor is not
  defined, or when it would take more steps than the limit.

  The walk is a function of the data access that it starts
  with: it yields the data access afterwards, the notices
  told on the way, and the executed steps or the failure.

  Key definitions include:
    * `Walk`
    * `Walk.executeAt`
    * `Walk.follow`
    * `Walk.take`
-/

------------------------------------------------------------
-- Walks
------------------------------------------------------------

namespace EventFlow

/- What a walk needs to know. -/
structure Walk where
  definition : WorkflowDefinition
  makeStep : String → Value → Except Failure Step
  run : Run
  limit : Int
  payload : Value

/- What a walk, or the rest of it, yields. -/
structure Walked where
  access : DataAccess
  notices : List Notice := []
  outcome : Except Failure (List StepOutcome)

namespace Walked

/- The rest of a walk behind one step. -/
def behind
    (notices : List Notice)
    (step : StepOutcome)
    (w : Walked) : Walked :=
  { w with
    notices := notices ++ w.notices
    outcome := w.outcome.map (step :: ·) }

end Walked

end EventFlow

------------------------------------------------------------
-- Single Steps
------------------------------------------------------------

namespace EventFlow

namespace Walk

/- The definition of the step that a value names. -/
def definitionAt
    (w : Walk)
    (stepId : Value) :
    Except Failure (String × StepDefinition) :=
  match stepId with
  | .str id =>
      match w.definition.steps.lookup id with
      | some s => .ok (id, s)
      | none => .error (.keyUnknown stepId)
  | v =>
      match v.key with
      | .ok v => .error (.keyUnknown v)
      | .error failure => .error failure

/- Traced entries as notices. -/
def tracing (s : Step) (traces : List TraceEntry) :
    List Notice :=
  traces.map (.traced s.traceTarget)

variable [Surroundings]

/- Execute the step of an id, made anew. -/
def executeAt
    (w : Walk)
    (id : String)
    (s : StepDefinition)
    (access : DataAccess) : Except Failure Effect :=
  (w.makeStep s.slug
    (WorkflowDefinition.dataOf id s)).map
      fun step => step.execute w.payload access

/- What is recorded of a step that was executed. -/
def outcomeOf
    (id : String)
    (s : Step) : StepOutcome :=
  { stepId := id
    slug := s.type.slug
    met := s.outcome? }

/-
  What is told of a step that failed.  A request to stop is
  no failure of the step.
-/
def complaints
    (w : Walk)
    (id : String)
    (s : StepDefinition)
    (failure : Failure) : List Notice :=
  if failure.isInterrupt then
    []
  else
    [.stepFailed w.run id s.slug failure]

/- A walk that ends with a failure of a step. -/
def failedAt
    (w : Walk)
    (id : String)
    (s : StepDefinition)
    (access : DataAccess)
    (notices : List Notice)
    (failure : Failure) : Walked :=
  { access := access
    notices := notices ++ w.complaints id s failure
    outcome := .error failure }

end Walk

end EventFlow

------------------------------------------------------------
-- The Walk
------------------------------------------------------------

namespace EventFlow

namespace Walk

/- The end of a walk that would exceed the limit. -/
def exhausted
    (w : Walk)
    (access : DataAccess) : Walked :=
  { access := access
    notices := [.limitReached w.run w.limit]
    outcome :=
      .error (.stepLimit w.definition.id w.limit) }

variable [Surroundings]

/- Walk from a step on, with a number of steps left. -/
def follow
    (w : Walk) :
    Nat → Value → DataAccess → Walked
| _, .null, access =>
    { access := access
      outcome := .ok [] }
| 0, _, access => w.exhausted access
| left + 1, stepId, access =>
    match w.definitionAt stepId with
    | .error failure =>
        { access := access
          outcome := .error failure }
    | .ok (id, s) =>
        match w.executeAt id s access with
        | .error failure =>
            w.failedAt id s access [] failure
        | .ok effect =>
            let notices := tracing effect.step effect.traces
            match effect.failure? with
            | some failure =>
                w.failedAt id s effect.access notices failure
            | none =>
                match effect.step.next with
                | .error failure =>
                    { access := effect.access
                      notices := notices
                      outcome := .error failure }
                | .ok next =>
                    (w.follow left next effect.access).behind
                      notices (outcomeOf id effect.step)

/- The notice at the end of a walk that came to its end. -/
def closing
    (w : Walk) :
    Except Failure (List StepOutcome) → List Notice
| .ok steps => [.walkFinished w.run steps.length]
| .error _ => []

/- Walk from the initial step to the end. -/
def take
    (w : Walk)
    (access : DataAccess) : Walked :=
  let walked :=
    w.follow w.limit.toNat
      (.str w.definition.initialStep) access
  { walked with
    notices :=
      .walkStarted w.run ::
        (walked.notices ++ w.closing walked.outcome) }

/- The result of a walk. -/
def resultOf
    (w : Walk)
    (steps : List StepOutcome) : ExecutionResult :=
  { workflowId := w.run.workflowId
    trigger := w.run.trigger
    correlationId := w.run.correlationId
    steps := steps }

end Walk

end EventFlow
