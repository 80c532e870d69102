import EventFlow.Catalog.Identifier
import EventFlow.Contact
import EventFlow.Notice
import EventFlow.Workflow.Basic

/-
  The state of an engine.

  An engine holds the types that were registered with it, an
  event bus, the access to contacts, the workflows that were
  built with it and the ones among them that were added, and
  the notices that it has told and nobody has taken yet.

  Key definitions include:
    * `StepEntry`
    * `Engine`
    * `Engine.tell`
    * `Engine.workflowAt?`
-/

------------------------------------------------------------
-- Engines
------------------------------------------------------------

namespace EventFlow

/-
  What is registered for a step's slug: a type, or something
  that is no longer one.
-/
inductive StepEntry where
| type (type : StepType)
| stale
deriving DecidableEq, Repr

/- The limit of steps in a walk, if none is given. -/
def defaultLimit : Int := 100

/-
  An engine.  A workflow that was built has its place in
  `built`, and `added` holds the places of the workflows
  that were added, in order.
-/
structure Engine where
  limit : Int := defaultLimit
  isStrict : Bool := false
  access : DataAccess := .none
  triggerTypes : List (String × TriggerType) := []
  stepTypes : List (String × StepEntry) := []
  bus : Bus := {}
  built : List Workflow := []
  added : List Nat := []
  notices : List Notice := []

namespace Engine

/- An engine with a limit, which must be positive. -/
def make
    (limit : Int)
    (isStrict : Bool)
    (access : DataAccess) : Except Failure Engine :=
  if limit < 1 then
    .error .limitTooLow
  else
    .ok
      { limit := limit
        isStrict := isStrict
        access := access }

/- Tell notices. -/
def hear
    (notices : List Notice)
    (e : Engine) : Engine :=
  { e with notices := e.notices ++ notices }

/- Tell one notice. -/
def tell (notice : Notice) : Act Engine Unit :=
  Act.change (hear [notice])

/- An engine whose notices were taken. -/
def silenced (e : Engine) : Engine :=
  { e with notices := [] }

end Engine

end EventFlow

------------------------------------------------------------
-- Workflows and Types
------------------------------------------------------------

namespace EventFlow

namespace Engine

/- The workflow at a place. -/
def workflowAt?
    (e : Engine)
    (place : Nat) : Option Workflow :=
  e.built[place]?

/- The workflows that were added, in order. -/
def workflows (e : Engine) : List Workflow :=
  e.added.filterMap e.workflowAt?

/- The place of the first added workflow of an id. -/
def placeOf?
    (e : Engine)
    (id : String) : Option Nat :=
  e.added.find? fun place =>
    (e.workflowAt? place).any (·.id == id)

/- Change the workflow at a place. -/
def changeWorkflow
    (place : Nat)
    (f : Workflow → Workflow)
    (e : Engine) : Engine :=
  { e with built := e.built.modify place f }

/- The type of triggers that is registered for a slug. -/
def triggerType
    (e : Engine)
    (slug : String) : Except Failure TriggerType :=
  match e.triggerTypes.lookup slug with
  | some type => .ok type
  | none => .error (.slugUnknown .trigger slug)

/- What is registered for a step's slug. -/
def stepEntry
    (e : Engine)
    (slug : String) : Except Failure StepEntry :=
  match e.stepTypes.lookup slug with
  | some entry => .ok entry
  | none => .error (.slugUnknown .step slug)

/- Make a trigger of the type that is registered for a slug. -/
def makeTrigger
    (e : Engine)
    (slug : String) : Except Failure Trigger :=
  (e.triggerType slug).map fun type => { type := type }

end Engine

end EventFlow
