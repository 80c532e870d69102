import EventFlow.Contact
import EventFlow.Definition.Basic
import EventFlow.Step.Type
import EventFlow.Trace

/-
  Steps.

  A step is made from its type and from data: an id,
  attributes, and successors.  It keeps whether its
  condition was met, which decides its successor when it is
  a condition.

  Key definitions include:
    * `Step`
    * `Step.make`
    * `Step.require`
    * `Step.successor`
    * `Effect`
-/

------------------------------------------------------------
-- Making Steps
------------------------------------------------------------

namespace EventFlow

/- A step of a workflow, ready to be executed. -/
structure Step where
  type : StepType
  id : Value
  attributes : Table
  nextStep : Value
  nextStepTrue : Value
  nextStepFalse : Value
  met : Value := .bool false
  traceTarget : TraceTarget := .engine

namespace Step

/- Make a step from data. -/
def make
    (type : StepType)
    (data : Value) : Except Failure Step :=
  match Table.ofOptional data with
  | .error failure => .error failure
  | .ok data =>
      (Table.ofOptional (data.getD "attributes")).map
        fun attributes =>
          { type := type
            id := data.getD "id"
            attributes := attributes
            nextStep := data.getD "next_step"
            nextStepTrue := data.getD "next_step_true"
            nextStepFalse := data.getD "next_step_false" }

/- Whether a step was made without an engine. -/
def isDetached (s : Step) : Bool :=
  s.traceTarget == .default

/- Make a step without an engine. -/
def makeDetached
    (type : StepType)
    (data : Value) : Except Failure Step :=
  (make type data).map ({ · with traceTarget := .default })

end Step

end EventFlow

------------------------------------------------------------
-- Attributes and Successors
------------------------------------------------------------

namespace EventFlow

namespace Step

/- The value of an attribute that must be present. -/
def require
    (s : Step)
    (name : String) : Except Failure Value :=
  match s.attributes.get? name with
  | some v => .ok v
  | none => .error (.attributeMissing s.type.slug name)

/- Whether the condition of a step is met, if it has one. -/
def outcome? (s : Step) : Option Value :=
  match s.type.variant with
  | .condition => some s.met
  | _ => none

/-
  The id of the step behind a condition or an action; the
  empty value ends the walk.
-/
def successor (s : Step) : Value :=
  match s.type.variant with
  | .condition =>
      if s.met.isTruthy then
        s.nextStepTrue
      else
        s.nextStepFalse
  | .action => s.nextStep
  | .plain => .null

end Step

end EventFlow

------------------------------------------------------------
-- Effects
------------------------------------------------------------

namespace EventFlow

/-
  What the execution of a step yields: the step and the data
  access as they are afterwards, the entries traced, and the
  failure if the step failed.
-/
structure Effect where
  step : Step
  access : DataAccess
  traces : List TraceEntry := []
  failure? : Option Failure := none

namespace Step

/- The effect of a step that fails with nothing changed. -/
def failing
    (s : Step)
    (access : DataAccess)
    (traces : List TraceEntry)
    (failure : Failure) : Effect :=
  { step := s
    access := access
    traces := traces
    failure? := some failure }

/- The effect of a step that changes its outcome only. -/
def deciding
    (s : Step)
    (access : DataAccess)
    (traces : List TraceEntry)
    (met : Bool) : Effect :=
  { step := { s with met := .bool met }
    access := access
    traces := traces }

/- The effect of a step that changes the data access only. -/
def accessing
    (s : Step)
    (access : DataAccess)
    (traces : List TraceEntry) : Effect :=
  { step := s
    access := access
    traces := traces }

end Step

end EventFlow
