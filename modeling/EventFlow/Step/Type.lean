import EventFlow.Value.Basic

/-
  Types of steps.

  What a step does is one of a few behaviours, or is up to
  a type that is brought along.  The behaviour decides the
  variant of the step: a condition routes by its outcome, an
  action has one successor, and a plain step is neither.

  Key definitions include:
    * `Variant`
    * `Behavior`
    * `StepType`
    * `StepType.allowsTrigger`
    * `StepType.describe`
-/

------------------------------------------------------------
-- Behaviours
------------------------------------------------------------

namespace EventFlow

/- How a step finds its successor. -/
inductive Variant where
| condition
| action
| plain
deriving DecidableEq, Repr

/- What a step does when it is executed. -/
inductive Behavior where
| compareField (subject : String)
| addContactLog
| changeContactTags
-- What the type itself brings along.
| foreign (variant : Variant)
deriving DecidableEq, Repr

/- The variant of the steps of a behaviour. -/
def Behavior.variant : Behavior → Variant
| .compareField _ => .condition
| .addContactLog => .action
| .changeContactTags => .action
| .foreign variant => variant

/- Whether a behaviour is one that a type brings along. -/
def Behavior.isForeign : Behavior → Bool
| .foreign _ => true
| _ => false

end EventFlow

------------------------------------------------------------
-- Step Types
------------------------------------------------------------

namespace EventFlow

/-
  A type of steps.  A type without allowed triggers may be
  used under every trigger.  Types that agree in all else
  are told apart by their identities.
-/
structure StepType where
  name : String
  slug : String
  title : String := ""
  description : String := ""
  type : String := ""
  category : String := ""
  allowedTriggers : List String := []
  requiredAttributes : List String := []
  validOperators : List String := []
  behavior : Behavior
  identity : Nat := 0
deriving DecidableEq, Repr

namespace StepType

/- The variant of a type's steps. -/
def variant (s : StepType) : Variant :=
  s.behavior.variant

/- Whether the steps of a type may run under a trigger. -/
def allowsTrigger
    (s : StepType)
    (trigger : String) : Bool :=
  s.allowedTriggers.isEmpty ||
    s.allowedTriggers.contains trigger

/- Whether an attribute's value is one of the operators. -/
def allowsOperator
    (s : StepType)
    (operator : Value) : Bool :=
  match operator with
  | .str name => s.validOperators.contains name
  | _ => false

/- Texts in the order of their characters. -/
def sorted (texts : List String) : List String :=
  texts.mergeSort fun a b => !(b < a)

/- What a type tells about itself. -/
def describe (s : StepType) : List (String × Value) := [
  ("slug", .str s.slug),
  ("title", .str s.title),
  ("description", .str s.description),
  ("type", .str s.type),
  ("category", .str s.category),
  ("allowed_triggers",
    .list ((sorted s.allowedTriggers).map .str))
]

/- The operators of a type of conditions. -/
def operators (s : StepType) : Value :=
  match s.variant with
  | .condition => .list (s.validOperators.map .str)
  | _ => .null

/- The attributes that a type's steps require. -/
def required (s : StepType) : Value :=
  .list (s.requiredAttributes.map .str)

end StepType

end EventFlow
