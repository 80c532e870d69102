import EventFlow.Step.Basic

/-
  Conditions.

  A field condition compares one field of the payload's data
  with a configured value.  A payload without an id, without
  data or without the field is no failure: the mismatch is
  traced and the condition is not met.  Everything that can
  fail fails before the outcome is written.

  Key definitions include:
    * `FieldCondition.actual?`
    * `FieldCondition.evaluate`
    * `Step.compareField`
-/

------------------------------------------------------------
-- Comparison of Fields
------------------------------------------------------------

namespace EventFlow

namespace FieldCondition

/- The operators that every field condition knows. -/
def operators : List String := [
  "is",
  "is_not",
  "contains",
  "does_not_contain"
]

/- The attributes that every field condition requires. -/
def attributes : List String := [
  "field",
  "operator",
  "value"
]

/- The value of a field, where any value names the field. -/
def lookup
    (fields : List (String × Value))
    (field : Value) : Except Failure Value :=
  match field with
  | .str name => .ok ((fields.lookup name).getD .null)
  | v => v.key.map fun _ => .null

/-
  The value that a condition looks at, if the payload has an
  id and data in which the field is not empty.
-/
def actual?
    (payload : Value)
    (field : Value) : Except Failure (Option Value) :=
  if (payload.fieldD "id").isNull then
    .ok none
  else
    match payload.fieldD "data" with
    | .object data =>
        (lookup data field).map fun v =>
          if v.isNull then none else some v
    | _ => .ok none

/- Whether a text occurs in another. -/
def isPart (part whole : String) : Bool :=
  Tags.occursIn part.toList whole.toList

/- Whether an operator holds between two values. -/
def evaluate
    (operator : Value)
    (actual : Value)
    (expected : Value) : Except Failure Bool :=
  match operator with
  | .str "is" => .ok (actual.sameKind expected)
  | .str "is_not" => .ok (!actual.sameKind expected)
  | .str "contains" =>
      .ok (isPart expected.text actual.text)
  | .str "does_not_contain" =>
      .ok (!isPart expected.text actual.text)
  | operator => .error (.operatorUnhandled operator)

/- A payload as the context of a trace entry. -/
def payloadContext : Value → Table
| .object fields => Table.ofFields fields
| v => [(.str "payload", v)]

/- The entry about a payload that has not the field. -/
def mismatch
    (subject : String)
    (payload : Value) : TraceEntry :=
  { message :=
      "Invalid " ++ subject ++ " field condition data"
    context := some (payloadContext payload) }

/- The entry about a comparison. -/
def comparison
    (field operator value actual : Value) : TraceEntry :=
  { message :=
      "Condition: " ++ field.text ++ " " ++ operator.text ++
        " " ++ value.text ++ " => " ++ actual.text }

/- The entry about an outcome. -/
def verdict (met : Bool) : TraceEntry :=
  { message :=
      "Condition met?: " ++ (if met then "true" else "false") }

end FieldCondition

end EventFlow

------------------------------------------------------------
-- Execution
------------------------------------------------------------

namespace EventFlow

namespace Step

/- The settings of a field condition. -/
def comparisonSettings (s : Step) :
    Except Failure (Value × Value × Value) :=
  match s.require "field" with
  | .error failure => .error failure
  | .ok field =>
      match s.require "operator" with
      | .error failure => .error failure
      | .ok operator =>
          (s.require "value").map fun value =>
            (field, operator, value)

/- Compare a value that a field has. -/
def compareValue
    (s : Step)
    (access : DataAccess)
    (field operator value actual : Value) : Effect :=
  let told :=
    FieldCondition.comparison field operator value actual
  if s.type.allowsOperator operator then
    match FieldCondition.evaluate operator actual value with
    | .error failure => s.failing access [told] failure
    | .ok met =>
        s.deciding access
          [told, FieldCondition.verdict met] met
  else
    s.failing access [] (.operatorInvalid operator)

/- Compare one field of a payload with a value. -/
def compareField
    (s : Step)
    (subject : String)
    (payload : Value)
    (access : DataAccess) : Effect :=
  match s.comparisonSettings with
  | .error failure => s.failing access [] failure
  | .ok (field, operator, value) =>
      match FieldCondition.actual? payload field with
      | .error failure => s.failing access [] failure
      | .ok none =>
          s.deciding access
            [FieldCondition.mismatch subject payload] false
      | .ok (some actual) =>
          s.compareValue access field operator value actual

end Step

end EventFlow
