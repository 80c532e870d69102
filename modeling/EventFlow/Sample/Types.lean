import EventFlow.Catalog.Builtin

/-
  Sample types.

  The sample types stand for types that a host application
  brings along.  They reach the corners that the built-in
  types leave out: blank and padded slugs, triggers that
  hear two events or a blank one, types that share a slug or
  an event, and steps that are neither condition nor action.

  Key definitions include:
    * `Sample.triggers`
    * `Sample.steps`
    * `Sample.items`
-/

------------------------------------------------------------
-- Triggers
------------------------------------------------------------

namespace EventFlow

namespace Sample

/- The sample triggers. -/
def triggers : List TriggerType := [
  { name := "BlankTrigger"
    slug := "   "
    event := "blank" },
  { name := "NullSlugTrigger"
    slug := ""
    event := "null" },
  { name := "ImpostorTrigger"
    slug := "crm/transaction_updated"
    event := "something_else" },
  { name := "PaddedTrigger"
    slug := " \u3000test/padded_trigger\n"
    title := "Padded"
    event := "padded event" },
  { name := "NoEventTrigger"
    slug := "test/no_event"
    event := " \t" },
  { name := "DoubleTrigger"
    slug := "test/double"
    event := "double_a"
    alsoHears := ["double_b"] },
  { name := "SharedEventTrigger"
    slug := "test/shared_event"
    event := "transaction_updated" }
]

end Sample

end EventFlow

------------------------------------------------------------
-- Conditions
------------------------------------------------------------

namespace EventFlow

namespace Sample

/- A condition that knows no operators. -/
def condition (name slug : String) : StepType :=
  { name := name
    slug := slug
    type := "condition"
    category := "conditions"
    behavior := .foreign .condition }

def flip : StepType :=
  condition "FlipCondition" "test/flip"

def inert : StepType :=
  condition "InertCondition" "test/inert"

/- The sample conditions. -/
def conditions : List StepType := [
  { Builtin.transactionField with
    name := "RangeTransactionField"
    slug := "test/condition/transaction_range"
    validOperators :=
      FieldCondition.operators ++ ["greater_than"] },
  { Builtin.transactionField with
    name := "AlternativeTransactionField" },
  { Builtin.fieldCondition with
    name := "AnyField"
    slug := "test/any_field" },
  { Builtin.fieldCondition with
    name := "BlankStep"
    slug := "\u00a0\t" },
  flip,
  inert
]

end Sample

end EventFlow

------------------------------------------------------------
-- Actions and Other Steps
------------------------------------------------------------

namespace EventFlow

namespace Sample

/- An action without title. -/
def action (name slug : String) : StepType :=
  { name := name
    slug := slug
    category := "actions"
    behavior := .foreign .action }

def recording : StepType :=
  { action "RecordingAction" "test/recording_action" with
    title := "Recording Action"
    description :=
      "Records each call on the engine's data access " ++
        "collaborator"
    type := "test" }

def raising : StepType :=
  { action "RaisingAction" "test/raising_action" with
    allowedTriggers := [
      "crm/transaction_updated",
      "test/double"
    ]
    requiredAttributes := ["message", "level"] }

def subjectless : StepType :=
  { action "SubjectlessAction" "test/subject" with
    type := "contacts" }

def idle : StepType :=
  action "SuperAction" "test/super"

/- The sample actions. -/
def actions : List StepType := [
  recording,
  raising,
  { Builtin.addContactLog with
    name := "PaddedStep"
    slug := "  test/padded_step " },
  subjectless,
  idle
]

/- A step that is neither a condition nor an action. -/
def plain : StepType :=
  { name := "PlainStep"
    slug := "test/plain"
    requiredAttributes := ["goto"]
    behavior := .foreign .plain }

/- The sample steps. -/
def steps : List StepType :=
  conditions ++ actions ++ [plain]

/- All sample types, and two things that are no types. -/
def items : List Item :=
  triggers.map .trigger ++
    steps.map .step ++ [
      .unfinished "AbstractAction" ["execute"],
      .other "NotATrigger",
      .other "NOT_A_CLASS"
    ]

end Sample

end EventFlow
