import EventFlow.Engine.Running
import EventFlow.Proofs.Acts
import Mathlib.Data.List.Basic

/-
  Steps made from definitions.

  A step of a definition that is made from a type has the
  attributes and the successors that the definition gives.
  Executing a step that its type brings no body for changes
  nothing of it but whether its condition was met, and its
  successor is one of those that its definition names.

  Key definitions include:
    * `Step.ofDefinition`
    * `Effect.IsOf`

  Key theorems include:
    * `Table.get?_ofFields`
    * `Step.make_dataOf`
    * `Step.isOf_execute` and `Step.type_execute`
    * `Step.successor_cases`
-/

------------------------------------------------------------
-- Operators
------------------------------------------------------------

namespace EventFlow

/- A type allows the operators that it lists. -/
theorem StepType.allowsOperator_iff
    {type : StepType}
    {v : Value} :
    type.allowsOperator v = true ↔
      v ∈ type.validOperators.map Value.str := by
  cases v <;> simp [allowsOperator]

end EventFlow

------------------------------------------------------------
-- Tables of Fields
------------------------------------------------------------

namespace EventFlow

namespace Table

theorem get?_ofFields_cons
    (name : String)
    (v : Value)
    (rest : List (String × Value))
    (key : String) :
    (ofFields ((name, v) :: rest)).get? key =
      if name = key then
        some v
      else
        (ofFields rest).get? key := by
  by_cases hName : name = key
  · simp [ofFields, get?, Value.same, hName]
  · simp [ofFields, get?, Value.same, hName]

/- A table of fields is looked up like the fields. -/
@[simp] theorem get?_ofFields
    (fields : List (String × Value))
    (key : String) :
    (ofFields fields).get? key = fields.lookup key := by
  induction fields with
  | nil => rfl
  | cons field rest ih =>
      rcases field with ⟨name, v⟩
      rw [get?_ofFields_cons, ih]
      by_cases hName : name = key
      · simp [hName]
      · have hBeq : (key == name) = false :=
          beq_false_of_ne (Ne.symm hName)
        simp [hName, List.lookup_cons, hBeq]

@[simp] theorem getD_ofFields
    (fields : List (String × Value))
    (key : String) :
    (ofFields fields).getD key =
      (fields.lookup key).getD .null := by
  rw [getD, get?_ofFields]

end Table

end EventFlow

------------------------------------------------------------
-- Made Steps
------------------------------------------------------------

namespace EventFlow

namespace Step

/- The step of a definition, made from a type. -/
def ofDefinition
    (type : StepType)
    (id : String)
    (s : StepDefinition) : Step :=
  { type := type
    id := .str id
    attributes := Table.ofFields s.attributes
    nextStep := Value.ofText? s.nextStep
    nextStepTrue := Value.ofText? s.nextStepTrue
    nextStepFalse := Value.ofText? s.nextStepFalse }

/- Attributes are a table, also when there are none. -/
theorem ofOptional_object
    (fields : List (String × Value)) :
    Table.ofOptional (.object fields) =
      .ok (Table.ofFields fields) := by
  cases fields <;> rfl

/- What a definition gives is enough to make its step. -/
theorem make_dataOf
    (type : StepType)
    (id : String)
    (s : StepDefinition) :
    make type (WorkflowDefinition.dataOf id s) =
      .ok (ofDefinition type id s) := by
  simp only [make, WorkflowDefinition.dataOf,
    ofOptional_object, Table.getD_ofFields]
  have hAttributes :
      (("id", .str id) :: s.settings).lookup "attributes" =
        some (.object s.attributes) := rfl
  rw [hAttributes, Option.getD_some, ofOptional_object]
  rfl

/-
  A step that is made of a type is of that type, and is not
  made without an engine.
-/
theorem of_make
    {type : StepType}
    {data : Value}
    {step : Step}
    (hMade : make type data = .ok step) :
    step.type = type ∧ step.isDetached = false := by
  unfold make at hMade
  split at hMade
  · cases hMade
  · rcases Outcome.map_eq_ok hMade with ⟨attributes, -, rfl⟩
    exact ⟨rfl, rfl⟩

end Step

namespace Engine

variable {e : Engine}

/- A step of a known type is made. -/
theorem makeStep_of_lookup
    {type : StepType}
    {s : StepDefinition}
    (hType :
      e.stepTypes.lookup s.slug = some (.type type))
    (id : String) :
    e.makeStep s.slug (WorkflowDefinition.dataOf id s) =
      .ok (Step.ofDefinition type id s) := by
  simp [makeStep, stepEntry, hType, Step.make_dataOf]

/- A step is made of the type that its slug stands for. -/
theorem exists_of_makeStep
    {slug : String}
    {data : Value}
    {step : Step}
    (hMade : e.makeStep slug data = .ok step) :
    ∃ type,
      e.stepTypes.lookup slug = some (.type type) ∧
        Step.make type data = .ok step := by
  unfold makeStep stepEntry at hMade
  cases hEntry : e.stepTypes.lookup slug with
  | none => simp [hEntry] at hMade
  | some entry =>
      rw [hEntry] at hMade
      cases entry with
      | stale => cases hMade
      | type type => exact ⟨type, rfl, hMade⟩

/-
  A step that is made is of the type of its slug, and stays
  with the engine that made it.
-/
theorem lookup_of_makeStep
    {slug : String}
    {data : Value}
    {step : Step}
    (hMade : e.makeStep slug data = .ok step) :
    e.stepTypes.lookup slug = some (.type step.type) ∧
      step.isDetached = false := by
  rcases exists_of_makeStep hMade with ⟨type, hType, hStep⟩
  rcases Step.of_make hStep with ⟨rfl, hAttached⟩
  exact ⟨hType, hAttached⟩

end Engine

end EventFlow

------------------------------------------------------------
-- Executed Steps
------------------------------------------------------------

namespace EventFlow

namespace Effect

/-
  Whether an effect is one of a step: the step afterwards is
  the same but for whether its condition was met.
-/
def IsOf
    (s : Step)
    (effect : Effect) : Prop :=
  ∃ met, effect.step = { s with met := met }

end Effect

namespace Step

variable (s : Step)
variable (access : DataAccess)
variable (traces : List TraceEntry)

theorem isOf_failing (failure : Failure) :
    (s.failing access traces failure).IsOf s :=
  ⟨s.met, rfl⟩

theorem isOf_deciding (met : Bool) :
    (s.deciding access traces met).IsOf s :=
  ⟨.bool met, rfl⟩

theorem isOf_accessing :
    (s.accessing access traces).IsOf s :=
  ⟨s.met, rfl⟩

theorem isOf_applying (used : Except Failure DataAccess) :
    (s.applying access traces used).IsOf s := by
  unfold applying
  cases s.reach used with
  | error failure => exact s.isOf_failing _ _ _
  | ok access => exact s.isOf_accessing _ _

theorem isOf_compareValue
    (field operator value actual : Value) :
    (s.compareValue access field operator value
      actual).IsOf s := by
  unfold compareValue
  split
  · split
    · exact s.isOf_failing _ _ _
    · exact s.isOf_deciding _ _ _
  · exact s.isOf_failing _ _ _

theorem isOf_compareField
    (subject : String)
    (payload : Value) :
    (s.compareField subject payload access).IsOf s := by
  unfold compareField
  split
  · exact s.isOf_failing _ _ _
  · split
    · exact s.isOf_failing _ _ _
    · exact s.isOf_deciding _ _ _
    · exact s.isOf_compareValue _ _ _ _ _

theorem isOf_addContactLog (payload : Value) :
    (s.addContactLog payload access).IsOf s := by
  unfold addContactLog
  split
  · exact s.isOf_failing _ _ _
  · split
    · exact s.isOf_failing _ _ _
    · exact s.isOf_applying _ _ _

theorem isOf_changeContactTags (payload : Value) :
    (s.changeContactTags payload access).IsOf s := by
  unfold changeContactTags
  split
  · exact s.isOf_failing _ _ _
  · split
    · exact s.isOf_failing _ _ _
    · exact s.isOf_applying _ _ _

/-
  To execute a step changes only its outcome, unless its
  type brings a body along.
-/
theorem isOf_execute
    [Surroundings]
    (hOwn : s.type.behavior.isForeign = false)
    (payload : Value) :
    (s.execute payload access).IsOf s := by
  unfold execute
  split
  · exact s.isOf_compareField _ _ _
  · exact s.isOf_addContactLog _ _
  · exact s.isOf_changeContactTags _ _
  · rename_i hForeign
    rw [hForeign] at hOwn
    cases hOwn

variable {s}

/- A step executes the body that its type brings along. -/
theorem execute_of_foreign
    [Surroundings]
    (hForeign : s.type.behavior.isForeign = true)
    (payload : Value) :
    s.execute payload access =
      s.executeBody payload access := by
  unfold execute
  split
  · rename_i hBehavior
    rw [hBehavior] at hForeign
    cases hForeign
  · rename_i hBehavior
    rw [hBehavior] at hForeign
    cases hForeign
  · rename_i hBehavior
    rw [hBehavior] at hForeign
    cases hForeign
  · rfl

/- Whatever is executed, the type of a step stays. -/
theorem type_execute
    [Surroundings]
    (payload : Value) :
    (s.execute payload access).step.type = s.type := by
  cases hForeign : s.type.behavior.isForeign with
  | false =>
      rcases s.isOf_execute access hForeign payload with
        ⟨met, hStep⟩
      rw [hStep]
  | true =>
      rw [execute_of_foreign access hForeign]
      rfl

/- Whatever is executed, a step stays with its engine. -/
theorem isDetached_execute
    [Surroundings]
    (payload : Value) :
    (s.execute payload access).step.isDetached =
      s.isDetached := by
  cases hForeign : s.type.behavior.isForeign with
  | false =>
      rcases s.isOf_execute access hForeign payload with
        ⟨met, hStep⟩
      rw [hStep]
      rfl
  | true =>
      rw [execute_of_foreign access hForeign]
      rfl

/- The successor of a step that its type does not decide. -/
theorem next_of_own
    [Surroundings]
    (hOwn : s.type.behavior.isForeign = false) :
    s.next = .ok s.successor := by
  unfold next
  split
  · rename_i hForeign
    rw [hForeign] at hOwn
    cases hOwn
  · rfl

end Step

end EventFlow
