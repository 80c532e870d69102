import EventFlow.Definition.Basic

/-
  Reading definitions from values.

  A value is checked against the shape of a definition, and
  all problems of shape are reported at once: in the order
  of the fields, and then the unknown fields in the order in
  which they stand.

  Key definitions include:
    * `StepDefinition.check`
    * `WorkflowDefinition.check`
    * `WorkflowDefinition.ofValue`
-/

------------------------------------------------------------
-- Checks
------------------------------------------------------------

namespace EventFlow

namespace StepDefinition

/- The names of a step's fields. -/
def fieldNames : List String := [
  "slug",
  "attributes",
  "next_step",
  "next_step_true",
  "next_step_false"
]

/- Check the fields of a step. -/
def checkFields
    (fields : List (String × Value)) :
    Schema.Checked StepDefinition :=
  ((Schema.required fields "slug" Schema.text).and <|
    (Schema.optional fields "attributes" []
      Schema.table).and <|
    (Schema.optional fields "next_step" none
      Schema.text?).and <|
    (Schema.optional fields "next_step_true" none
      Schema.text?).and <|
    (Schema.optional fields "next_step_false" none
      Schema.text?).and <|
    Schema.only fieldNames fields).map
    fun (slug, attributes, next, onTrue, onFalse, _) =>
      { slug := slug
        attributes := attributes
        nextStep := next
        nextStepTrue := onTrue
        nextStepFalse := onFalse }

/- Check a value that should be a step. -/
def check : Value → Schema.Checked StepDefinition
| .object fields => checkFields fields
| v => Schema.broken (.record "StepDefinition") v

end StepDefinition

namespace WorkflowDefinition

/- The names of a workflow's fields. -/
def fieldNames : List String := [
  "id",
  "name",
  "description",
  "active",
  "triggers",
  "initial_step",
  "steps"
]

/- Check the fields of a workflow. -/
def check
    (fields : List (String × Value)) :
    Schema.Checked WorkflowDefinition :=
  ((Schema.required fields "id" Schema.text).and <|
    (Schema.required fields "name" Schema.text).and <|
    (Schema.optional fields "description" ""
      Schema.text).and <|
    (Schema.optional fields "active" true
      Schema.truth).and <|
    (Schema.required fields "triggers"
      (Schema.someOf Schema.text)).and <|
    (Schema.required fields "initial_step"
      Schema.text).and <|
    (Schema.optional fields "steps" []
      (Schema.tableOf StepDefinition.check)).and <|
    Schema.only fieldNames fields).map
    fun (id, name, description, active, triggers,
        initialStep, steps, _) =>
      { id := id
        name := name
        description := description
        active := active
        triggers := triggers
        initialStep := initialStep
        steps := steps }

end WorkflowDefinition

end EventFlow

------------------------------------------------------------
-- Reading
------------------------------------------------------------

namespace EventFlow

namespace WorkflowDefinition

/- How a definition without a readable id is called. -/
def unknownId : String := "<unknown>"

/- A problem of shape in one line. -/
def problemText (p : Schema.Problem) : String :=
  p.placeText ++ ": " ++ p.rule.message

/- Read a definition from the fields of an object. -/
def ofFields
    (fields : List (String × Value)) :
    Except Failure WorkflowDefinition :=
  match check fields with
  | .ok d => .ok d
  | .error problems =>
      let id :=
        match fields.lookup "id" with
        | some v => v.text
        | none => unknownId
      .error
        (.workflowInvalid id (problems.map problemText))

/- Read a definition from a value. -/
def ofValue (v : Value) : Except Failure WorkflowDefinition :=
  match v with
  | .object fields => ofFields fields
  | v =>
      .error
        (.workflowInvalid unknownId
          ["definition must be an object, got " ++ v.kind])

end WorkflowDefinition

end EventFlow
