import EventFlow.Step.Action
import EventFlow.Step.Condition
import EventFlow.Surroundings

/-
  The execution of steps.

  Key definitions include:
    * `Step.execute`
    * `Step.next`
-/

------------------------------------------------------------
-- Execution
------------------------------------------------------------

namespace EventFlow

variable [Surroundings]

namespace Step

/-
  Execute the body that the type of a step brings along.  It
  may do anything to the step and to the data access, but the
  step stays one of its type, and a step without an engine
  has no data access to reach.
-/
def executeBody
    (s : Step)
    (payload : Value)
    (access : DataAccess) : Effect :=
  let effect :=
    (Surroundings.body s.type).execute s payload access
  { effect with
    step :=
      { effect.step with
        type := s.type
        traceTarget := s.traceTarget }
    access :=
      if s.isDetached then
        access
      else
        effect.access }

/- Execute a step on a payload. -/
def execute
    (s : Step)
    (payload : Value)
    (access : DataAccess) : Effect :=
  match s.type.behavior with
  | .compareField subject =>
      s.compareField subject payload access
  | .addContactLog => s.addContactLog payload access
  | .changeContactTags =>
      s.changeContactTags payload access
  | .foreign _ => s.executeBody payload access

/- The id of the step behind a step. -/
def next (s : Step) : Except Failure Value :=
  match s.type.behavior with
  | .foreign _ => (Surroundings.body s.type).next s
  | _ => .ok s.successor

end Step

end EventFlow
