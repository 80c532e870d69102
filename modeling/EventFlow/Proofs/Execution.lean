import EventFlow.Proofs.Course
import EventFlow.Proofs.StepData
import EventFlow.Proofs.Walks

/-
  Built-in steps do what their definitions say.

  A step of a built-in type, made from a definition and
  executed on a payload, fails as the definition says that
  it fails, and else decides, changes the data access and
  goes on as the definition says.

  Key definitions include:
    * `Effect.Agrees`

  Key theorems include:
    * `Builtin.shape_of_typeOf?`
    * `Step.execute_agrees`
-/

------------------------------------------------------------
-- Built-In Types
------------------------------------------------------------

namespace EventFlow

namespace Builtin

variable {slug : String}
variable {type : StepType}

theorem slug_of_typeOf?
    (hType : typeOf? slug = some type) :
    type.slug = slug := by
  have hFound := List.find?_some hType
  simpa using hFound

/- A built-in type compares a field or changes a contact. -/
theorem shape_of_typeOf?
    (hType : typeOf? slug = some type) :
    (∃ subject,
      type.behavior = .compareField subject ∧
        type.validOperators = FieldCondition.operators ∧
          type.requiredAttributes =
            FieldCondition.attributes) ∨
    (type.behavior = .addContactLog ∧
      type.requiredAttributes = ["type"]) ∨
    (type.behavior = .changeContactTags ∧
      type.requiredAttributes = ["mode", "tags"]) := by
  have hMem := List.mem_of_find?_eq_some hType
  simp only [steps, conditions, actions, List.mem_append,
    List.mem_cons, List.not_mem_nil, or_false] at hMem
  rcases hMem with (rfl | rfl) | (rfl | rfl)
  · exact .inl ⟨"transaction", rfl, rfl, rfl⟩
  · exact .inl ⟨"contact", rfl, rfl, rfl⟩
  · exact .inr (.inl ⟨rfl, rfl⟩)
  · exact .inr (.inr ⟨rfl, rfl⟩)

/- No built-in step is neither a condition nor an action. -/
theorem variant_of_typeOf?
    (hType : typeOf? slug = some type) :
    type.variant ≠ .plain := by
  unfold StepType.variant
  rcases shape_of_typeOf? hType with
    ⟨subject, hIs, -⟩ | ⟨hIs, -⟩ | ⟨hIs, -⟩
  · rw [hIs]
    exact Variant.noConfusion
  · rw [hIs]
    exact Variant.noConfusion
  · rw [hIs]
    exact Variant.noConfusion

/- No built-in type brings a body along. -/
theorem isForeign_of_typeOf?
    (hType : typeOf? slug = some type) :
    type.behavior.isForeign = false := by
  rcases shape_of_typeOf? hType with
    ⟨subject, hIs, -⟩ | ⟨hIs, -⟩ | ⟨hIs, -⟩
  · rw [hIs]
    rfl
  · rw [hIs]
    rfl
  · rw [hIs]
    rfl

end Builtin

end EventFlow

------------------------------------------------------------
-- Settings of Made Steps
------------------------------------------------------------

namespace EventFlow

namespace Step

variable {type : StepType}
variable {s : StepDefinition}
variable (id : String)

theorem require_ofDefinition
    (hSlug : type.slug = s.slug)
    (name : String) :
    (ofDefinition type id s).require name =
      s.needed name := by
  have hSame :
      (ofDefinition type id s).attributes.get? name =
        s.attributes.lookup name := Table.get?_ofFields _ _
  rw [require, StepDefinition.needed, hSame, ← hSlug]
  cases s.attributes.lookup name with
  | none => rfl
  | some v => rfl

theorem contact_ofDefinition
    (hSlug : type.slug = s.slug)
    (payload : Value) :
    (ofDefinition type id s).contact payload =
      s.subject payload := by
  unfold contact StepDefinition.subject
    StepDefinition.given
  simp only [ofDefinition, Table.getD_ofFields, hSlug]
  cases (s.attributes.lookup "contact_id").getD .null <;>
    cases payload.fieldD "id" <;> rfl

theorem comparisonSettings_ofDefinition
    (hSlug : type.slug = s.slug) :
    (ofDefinition type id s).comparisonSettings = do
      let field ← s.needed "field"
      let operator ← s.needed "operator"
      let expected ← s.needed "value"
      return (field, operator, expected) := by
  unfold comparisonSettings
  simp only [require_ofDefinition id hSlug]
  cases s.needed "field" with
  | error failure => rfl
  | ok field =>
      cases s.needed "operator" with
      | error failure => rfl
      | ok operator =>
          cases s.needed "value" <;> rfl

theorem contactLog_ofDefinition
    (hSlug : type.slug = s.slug) :
    (ofDefinition type id s).contactLog = s.log := by
  have hBlank (name : String) :
      (ofDefinition type id s).attributeOrBlank name =
        s.given name (.str "") := by
    simp only [attributeOrBlank, ofDefinition,
      Table.get?_ofFields, StepDefinition.given]
  unfold contactLog StepDefinition.log
  simp only [require_ofDefinition id hSlug, hBlank]
  cases s.needed "type" <;> rfl

theorem tagSettings_ofDefinition
    (hSlug : type.slug = s.slug) :
    (ofDefinition type id s).tagSettings = do
      let mode ← s.tagMode
      let tags ← s.tags
      return (mode, tags) := by
  have hOwn : (ofDefinition type id s).type.slug = s.slug :=
    hSlug
  unfold tagSettings StepDefinition.tagMode
    StepDefinition.tags
  simp only [require_ofDefinition id hSlug, hOwn, bind,
    Except.bind, pure, Except.pure]
  cases s.needed "mode" with
  | error failure => rfl
  | ok mode =>
      cases hMode : (TagMode.ofValue? mode).isNone with
      | true => simp only [hMode, if_true]
      | false =>
          simp only [hMode, Bool.false_eq_true, if_false]
          cases s.needed "tags" with
          | error failure => rfl
          | ok tags => cases tags <;> rfl

end Step

end EventFlow

------------------------------------------------------------
-- Execution of Made Steps
------------------------------------------------------------

namespace EventFlow

/-
  Whether an effect is what a definition says that its step
  does: a failure that leaves the data access as it was, or
  an outcome, a data access and a successor.
-/
def Effect.Agrees
    [Surroundings]
    (s : StepDefinition)
    (access : DataAccess)
    (effect : Effect) :
    Except Failure (Option Bool × DataAccess) → Prop
| .ok (met, access') =>
    effect.failure? = none ∧
      effect.access = access' ∧
        effect.step.outcome? = met.map .bool ∧
          effect.step.next =
            .ok (Value.ofText? (s.successor met))
| .error failure =>
    effect.failure? = some failure ∧
      effect.access = access

namespace Step

variable {type : StepType}
variable {s : StepDefinition}
variable (id : String)
variable (payload : Value)
variable (access : DataAccess)
variable (traces : List TraceEntry)

variable [Surroundings]

theorem agrees_failing (failure : Failure) :
    ((ofDefinition type id s).failing access traces
      failure).Agrees s access (.error failure) :=
  ⟨rfl, rfl⟩

theorem agrees_deciding
    (hOwn : type.behavior.isForeign = false)
    (hVariant : type.variant = .condition)
    (met : Bool) :
    ((ofDefinition type id s).deciding access traces
      met).Agrees s access (.ok (some met, access)) := by
  refine ⟨rfl, rfl, ?_, ?_⟩
  · simp [outcome?, deciding, ofDefinition, hVariant]
  · refine (next_of_own hOwn).trans ?_
    cases met <;>
      simp [successor, deciding, ofDefinition, hVariant,
        Value.isTruthy, StepDefinition.successor]

theorem agrees_applying
    (hOwn : type.behavior.isForeign = false)
    (hVariant : type.variant = .action)
    (used : Except Failure DataAccess) :
    ((ofDefinition type id s).applying access traces
      used).Agrees s access
        (used.map fun access => (none, access)) := by
  have hReach : (ofDefinition type id s).reach used = used :=
    rfl
  unfold applying
  rw [hReach]
  cases used with
  | error failure => exact agrees_failing id access traces _
  | ok after =>
      refine ⟨rfl, rfl, ?_, ?_⟩
      · simp [outcome?, accessing, ofDefinition, hVariant]
      · refine (next_of_own hOwn).trans ?_
        simp [successor, accessing, ofDefinition, hVariant,
          StepDefinition.successor]

theorem compareField_agrees
    {subject : String}
    (hSlug : type.slug = s.slug)
    (hBehavior : type.behavior = .compareField subject)
    (hOperators :
      type.validOperators = FieldCondition.operators) :
    ((ofDefinition type id s).compareField subject payload
      access).Agrees s access
        ((s.verdict payload).map fun met =>
          (some met, access)) := by
  have hOwn : type.behavior.isForeign = false := by
    rw [hBehavior]
    rfl
  have hVariant : type.variant = .condition := by
    rw [StepType.variant, hBehavior]
    rfl
  have hAllows (operator : Value) :
      (ofDefinition type id s).type.allowsOperator operator =
        Builtin.isOperator operator :=
    Builtin.allowsOperator_eq_isOperator hOperators operator
  unfold compareField StepDefinition.verdict
  rw [comparisonSettings_ofDefinition id hSlug]
  cases s.needed "field" with
  | error failure => exact agrees_failing id access [] _
  | ok field =>
  cases s.needed "operator" with
  | error failure => exact agrees_failing id access [] _
  | ok operator =>
  cases s.needed "value" with
  | error failure => exact agrees_failing id access [] _
  | ok expected =>
  simp only [bind, Except.bind, pure, Except.pure]
  cases FieldCondition.actual? payload field with
  | error failure => exact agrees_failing id access [] _
  | ok found =>
  cases found with
  | none => exact agrees_deciding id access _ hOwn hVariant false
  | some actual =>
  simp only [compareValue, hAllows]
  by_cases hKnown : Builtin.isOperator operator
  · simp only [hKnown, if_true]
    cases FieldCondition.evaluate operator actual expected with
    | error failure => exact agrees_failing id access _ _
    | ok met => exact agrees_deciding id access _ hOwn hVariant met
  · simp only [hKnown]
    exact agrees_failing id access [] _

theorem addContactLog_agrees
    (hSlug : type.slug = s.slug)
    (hBehavior : type.behavior = .addContactLog) :
    ((ofDefinition type id s).addContactLog payload
      access).Agrees s access
        ((s.logged payload access).map fun access =>
          (none, access)) := by
  have hOwn : type.behavior.isForeign = false := by
    rw [hBehavior]
    rfl
  have hVariant : type.variant = .action := by
    rw [StepType.variant, hBehavior]
    rfl
  unfold addContactLog StepDefinition.logged
  rw [contact_ofDefinition id hSlug,
    contactLog_ofDefinition id hSlug]
  cases s.subject payload with
  | error failure => exact agrees_failing id access [] _
  | ok contact =>
  cases s.log with
  | error failure => exact agrees_failing id access [] _
  | ok log => exact agrees_applying id access _ hOwn hVariant _

theorem changeContactTags_agrees
    (hSlug : type.slug = s.slug)
    (hBehavior : type.behavior = .changeContactTags) :
    ((ofDefinition type id s).changeContactTags payload
      access).Agrees s access
        ((s.tagged payload access).map fun access =>
          (none, access)) := by
  have hOwn : type.behavior.isForeign = false := by
    rw [hBehavior]
    rfl
  have hVariant : type.variant = .action := by
    rw [StepType.variant, hBehavior]
    rfl
  unfold changeContactTags StepDefinition.tagged
  rw [contact_ofDefinition id hSlug,
    tagSettings_ofDefinition id hSlug]
  cases s.subject payload with
  | error failure => exact agrees_failing id access [] _
  | ok contact =>
  cases s.tagMode with
  | error failure => exact agrees_failing id access [] _
  | ok mode =>
  cases s.tags with
  | error failure => exact agrees_failing id access [] _
  | ok tags => exact agrees_applying id access _ hOwn hVariant _

/-
  Executing a step of a built-in type does what its
  definition says.
-/
theorem execute_agrees
    (hType : Builtin.typeOf? s.slug = some type) :
    ((ofDefinition type id s).execute payload access).Agrees
      s access (s.performed payload access) := by
  have hSlug := Builtin.slug_of_typeOf? hType
  unfold execute StepDefinition.performed
  rw [hType, Option.map_some]
  rcases Builtin.shape_of_typeOf? hType with
    ⟨subject, hIs, hOperators, -⟩ | ⟨hIs, -⟩ | ⟨hIs, -⟩
  · simp only [hIs, ofDefinition]
    exact compareField_agrees id payload access hSlug hIs
      hOperators
  · simp only [hIs, ofDefinition]
    exact addContactLog_agrees id payload access hSlug hIs
  · simp only [hIs, ofDefinition]
    exact changeContactTags_agrees id payload access hSlug
      hIs

end Step

end EventFlow
