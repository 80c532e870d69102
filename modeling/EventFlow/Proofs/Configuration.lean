import EventFlow.Proofs.FieldConditions
import EventFlow.Proofs.Refinement
import EventFlow.Proofs.StepFailures

/-
  What validation promises of a configuration.

  A step that was accepted has every attribute that its type
  requires, and a condition that was accepted has an operator
  of its type or the empty value in its place.  So an accepted
  step can fail in few ways, and for its operator in only one:
  the operator is empty, and the payload has the field.

  Key definitions include:
    * `StepDefinition.MeetsNull`

  Key theorems include:
    * `StepDefinition.failure_of_performed`
    * `StepDefinition.performed_of_meetsNull`
    * `Engine.execute_eq_error_iff`
    * `Engine.execute_eq_operatorInvalid_iff`
    * `Engine.execute_configured`
-/

------------------------------------------------------------
-- Accepted Conditions
------------------------------------------------------------

namespace EventFlow

namespace StepDefinition

variable {s : StepDefinition}
variable {payload : Value}

theorem needed_of_isSome
    {name : String}
    (hSome : (s.attributes.lookup name).isSome) :
    ∃ v,
      s.attributes.lookup name = some v ∧
        s.needed name = .ok v := by
  rcases Option.isSome_iff_exists.mp hSome with ⟨v, hV⟩
  refine ⟨v, hV, ?_⟩
  rw [needed, hV]

/- The verdict of a condition with all its attributes. -/
theorem verdict_of_needed
    {field operator expected : Value}
    (hField : s.needed "field" = .ok field)
    (hOperator : s.needed "operator" = .ok operator)
    (hExpected : s.needed "value" = .ok expected) :
    s.verdict payload =
      match FieldCondition.actual? payload field with
      | .error failure => .error failure
      | .ok none => .ok false
      | .ok (some actual) =>
          if Builtin.isOperator operator then
            FieldCondition.evaluate operator actual expected
          else
            .error (.operatorInvalid operator) := by
  unfold verdict
  rw [hField, hOperator, hExpected]
  simp only [bind, Except.bind]
  cases FieldCondition.actual? payload field with
  | error failure => rfl
  | ok found => cases found <;> rfl

/-
  Whether a step is a condition with the empty value for an
  operator, and the payload has the field that it looks at.
-/
def MeetsNull
    (s : StepDefinition)
    (payload : Value) : Prop :=
  Builtin.isCondition s.slug ∧
    s.attributes.lookup "operator" = some .null ∧
      ∃ field actual,
        s.attributes.lookup "field" = some field ∧
          FieldCondition.actual? payload field =
            .ok (some actual)

end StepDefinition

end EventFlow

------------------------------------------------------------
-- Failures of Accepted Steps
------------------------------------------------------------

namespace EventFlow

namespace StepDefinition

variable {d : WorkflowDefinition}
variable {type : StepType}
variable {s : StepDefinition}
variable {payload : Value}
variable {access : DataAccess}
variable {failure : Failure}

/-
  The failures of an accepted step: those of working with
  values and contacts, a contact that nothing names, a mode
  that is none, and the empty operator.
-/
inductive Fault
    (s : StepDefinition)
    (payload : Value) : Failure → Prop where
| data
    {failure : Failure}
    (hData : failure.isOfData = true) :
    Fault s payload failure
| subject
    (hAction : ¬ Builtin.isCondition s.slug) :
    Fault s payload (.attributeMissing s.slug "contact_id")
| mode :
    Fault s payload (.attributeInvalid s.slug "mode")
| operator
    (hMeets : s.MeetsNull payload) :
    Fault s payload (.operatorInvalid .null)

theorem isCondition_of_typeOf?
    (hType : Builtin.typeOf? s.slug = some type) :
    Builtin.isCondition s.slug ↔
      type.variant = .condition := by
  simp [Builtin.isCondition, hType]

/- How the verdict of an accepted condition can fail. -/
theorem fault_of_verdict
    (hFits : Workflow.StepFits d type s)
    (hType : Builtin.typeOf? s.slug = some type)
    (hVariant : type.variant = .condition)
    (hRequired :
      type.requiredAttributes = FieldCondition.attributes)
    (hAllows :
      ∀ operator,
        type.allowsOperator operator =
          Builtin.isOperator operator)
    (hFails : s.verdict payload = .error failure) :
    s.Fault payload failure := by
  have hAll := hFits.attributes
  rw [hRequired] at hAll
  rcases needed_of_isSome (hAll "field" (by decide)) with
    ⟨field, hField, hNeedField⟩
  rcases needed_of_isSome (hAll "operator" (by decide)) with
    ⟨operator, hOperator, hNeedOperator⟩
  rcases needed_of_isSome (hAll "value" (by decide)) with
    ⟨expected, hExpected, hNeedExpected⟩
  rw [verdict_of_needed hNeedField hNeedOperator
    hNeedExpected] at hFails
  cases hActual : FieldCondition.actual? payload field with
  | error reason =>
      rw [hActual] at hFails
      cases hFails
      exact .data
        (FieldCondition.within_actual? _ _ _ hActual)
  | ok found =>
      rw [hActual] at hFails
      cases found with
      | none => cases hFails
      | some actual =>
          dsimp only at hFails
          by_cases hKnown : Builtin.isOperator operator
          · rw [if_pos hKnown] at hFails
            rcases FieldCondition.exists_evaluate
              (StepType.allowsOperator_iff.mp hKnown) actual
              expected with ⟨met, hMet⟩
            rw [hMet] at hFails
            cases hFails
          · rw [if_neg hKnown] at hFails
            cases hFails
            rcases hFits.operator hVariant operator
              hOperator with rfl | hAllowed
            · exact .operator
                ⟨(isCondition_of_typeOf? hType).mpr hVariant,
                  hOperator, field, actual, hField, hActual⟩
            · rw [hAllows] at hAllowed
              exact absurd hAllowed hKnown

/- How the choice of a contact can fail. -/
theorem fault_of_subject
    (hAction : ¬ Builtin.isCondition s.slug)
    (hFails : s.subject payload = .error failure) :
    s.Fault payload failure := by
  unfold subject at hFails
  split at hFails
  · cases hFails
    exact .subject hAction
  · cases hFails
  · cases hFails

/- How an accepted action on logs can fail. -/
theorem fault_of_logged
    (hFits : Workflow.StepFits d type s)
    (hRequired : type.requiredAttributes = ["type"])
    (hAction : ¬ Builtin.isCondition s.slug)
    (hFails : s.logged payload access = .error failure) :
    s.Fault payload failure := by
  have hAll := hFits.attributes
  rw [hRequired] at hAll
  rcases needed_of_isSome (hAll "type" (by decide)) with
    ⟨v, -, hNeedType⟩
  unfold logged at hFails
  cases hSubject : s.subject payload with
  | error reason =>
      rw [hSubject] at hFails
      cases hFails
      exact fault_of_subject hAction hSubject
  | ok contact =>
      have hWithin : Outcome.Within Failure.isOfData s.log := by
        rw [log, hNeedType]
        exact ContactLog.within_ofFields _
      rw [hSubject] at hFails
      exact .data ((hWithin.bind fun log =>
        access.within_addLog contact log) _ hFails)

/- How an accepted action on tags can fail. -/
theorem fault_of_tagged
    (hFits : Workflow.StepFits d type s)
    (hRequired : type.requiredAttributes = ["mode", "tags"])
    (hAction : ¬ Builtin.isCondition s.slug)
    (hFails : s.tagged payload access = .error failure) :
    s.Fault payload failure := by
  have hAll := hFits.attributes
  rw [hRequired] at hAll
  rcases needed_of_isSome (hAll "mode" (by decide)) with
    ⟨mode, -, hNeedMode⟩
  rcases needed_of_isSome (hAll "tags" (by decide)) with
    ⟨tags, -, hNeedTags⟩
  unfold tagged at hFails
  cases hSubject : s.subject payload with
  | error reason =>
      rw [hSubject] at hFails
      cases hFails
      exact fault_of_subject hAction hSubject
  | ok contact =>
      rw [hSubject] at hFails
      cases hMode : s.tagMode with
      | error reason =>
          rw [hMode] at hFails
          cases hFails
          rw [tagMode, hNeedMode] at hMode
          simp only [bind, Except.bind] at hMode
          split at hMode
          · cases hMode
            exact .mode
          · cases hMode
      | ok mode =>
          have hWithin :
              Outcome.Within Failure.isOfData s.tags := by
            rw [StepDefinition.tags, hNeedTags]
            refine (Outcome.Within.ok tags).bind fun v => ?_
            cases v with
            | str tag => exact .ok _
            | _ => exact Value.within_items _
          rw [hMode] at hFails
          exact .data ((hWithin.bind fun tags =>
            (access.within_updateTags contact (.list tags)
              mode).map Prod.fst) _ hFails)

/- An accepted step of a built-in type fails in no other way. -/
theorem failure_of_performed
    (hFits : Workflow.StepFits d type s)
    (hType : Builtin.typeOf? s.slug = some type)
    (hFails :
      s.performed payload access = .error failure) :
    s.Fault payload failure := by
  unfold performed at hFails
  rw [hType, Option.map_some] at hFails
  have hIs := isCondition_of_typeOf? hType
  rcases Builtin.shape_of_typeOf? hType with
    ⟨subject, hBehavior, hOperators, hRequired⟩ |
      ⟨hBehavior, hRequired⟩ | ⟨hBehavior, hRequired⟩
  · rw [hBehavior] at hFails
    refine fault_of_verdict hFits hType ?_ hRequired ?_
      (Outcome.map_eq_error hFails)
    · rw [StepType.variant, hBehavior]
      rfl
    · exact Builtin.allowsOperator_eq_isOperator hOperators
  · rw [hBehavior] at hFails
    refine fault_of_logged hFits hRequired ?_
      (Outcome.map_eq_error hFails)
    rw [hIs, StepType.variant, hBehavior]
    exact Variant.noConfusion
  · rw [hBehavior] at hFails
    refine fault_of_tagged hFits hRequired ?_
      (Outcome.map_eq_error hFails)
    rw [hIs, StepType.variant, hBehavior]
    exact Variant.noConfusion

end StepDefinition

end EventFlow

------------------------------------------------------------
-- Walks of Accepted Definitions
------------------------------------------------------------

namespace EventFlow

namespace StepDefinition

variable {s : StepDefinition}
variable {payload : Value}

/- An empty operator fails wherever it matters. -/
theorem performed_of_meetsNull
    {type : StepType}
    (hType : Builtin.typeOf? s.slug = some type)
    {d : WorkflowDefinition}
    (hFits : Workflow.StepFits d type s)
    (hMeets : s.MeetsNull payload)
    (access : DataAccess) :
    s.performed payload access =
      .error (.operatorInvalid .null) := by
  rcases hMeets with
    ⟨hCondition, hOperator, field, actual, hField, hActual⟩
  have hVariant :=
    (isCondition_of_typeOf? hType).mp hCondition
  rcases Builtin.shape_of_typeOf? hType with
    ⟨subject, hBehavior, -, hRequired⟩ | ⟨hBehavior, -⟩ |
      ⟨hBehavior, -⟩
  · have hAll := hFits.attributes
    rw [hRequired] at hAll
    rcases needed_of_isSome (hAll "value" (by decide)) with
      ⟨expected, -, hNeedExpected⟩
    have hNeedField : s.needed "field" = .ok field := by
      rw [needed, hField]
    have hNeedOperator : s.needed "operator" = .ok .null := by
      rw [needed, hOperator]
    have hVerdict :
        s.verdict payload =
          .error (.operatorInvalid .null) := by
      rw [verdict_of_needed hNeedField hNeedOperator
        hNeedExpected, hActual]
      rfl
    unfold performed
    rw [hType, Option.map_some, hBehavior]
    simp only [hVerdict]
    rfl
  · rw [StepType.variant, hBehavior] at hVariant
    cases hVariant
  · rw [StepType.variant, hBehavior] at hVariant
    cases hVariant

/- No built-in type requires a contact to be configured. -/
theorem subject_not_required
    {type : StepType}
    {slug : String}
    (hType : Builtin.typeOf? slug = some type) :
    "contact_id" ∉ type.requiredAttributes := by
  rcases Builtin.shape_of_typeOf? hType with
    ⟨_, -, -, hRequired⟩ | ⟨-, hRequired⟩ | ⟨-, hRequired⟩
  · rw [hRequired]
    decide
  · rw [hRequired]
    decide
  · rw [hRequired]
    decide

end StepDefinition

namespace Engine

variable {e e₀ : Engine}
variable {d : WorkflowDefinition}
variable {payload : Value}

variable [Surroundings]

/-
  How a walk that was accepted can fail: at a step that the
  course reaches within the limit, as this step fails, or
  for the limit.
-/
theorem execute_eq_error_iff
    (hClosed : d.IsClosed)
    (hProvides : e.Provides d)
    (trigger : TriggerType)
    (correlationId : Value)
    {failure : Failure}
    (hLimit : failure ≠ .stepLimit d.id e.limit) :
    (execute d trigger payload correlationId e).1 =
        .error failure ↔
      ∃ path id s access,
        Course d payload (some d.initialStep) e.access
          path (some id) access ∧
        path.length < e.limit.toNat ∧
        d.steps.lookup id = some s ∧
        s.performed payload access = .error failure := by
  constructor
  · intro hFailure
    rcases Course.exists_ends hClosed payload e.access
      e.limit.toNat with ⟨ending, hEnds⟩
    rcases execute_of_ends hProvides trigger correlationId
      hEnds with ⟨ns, hExecute, -⟩
    have hOutcome :=
      (congrArg Prod.fst hExecute).symm.trans hFailure
    cases hEnds with
    | finished _ _ => cases hOutcome
    | failed hCourse hWithin hDefined hPerformed =>
        cases hOutcome
        exact ⟨_, _, _, _, hCourse, hWithin, hDefined,
          hPerformed⟩
    | exceeded _ _ =>
        cases hOutcome
        exact absurd rfl hLimit
  · rintro ⟨path, id, s, access, hCourse, hWithin, hDefined,
      hPerformed⟩
    rcases execute_of_ends hProvides trigger correlationId
      (.failed hCourse hWithin hDefined hPerformed) with
      ⟨ns, hExecute, -⟩
    exact congrArg Prod.fst hExecute

/-
  An accepted definition fails for an operator exactly where
  its course meets an empty one.
-/
theorem execute_eq_operatorInvalid_iff
    (hAdmits : e₀.Admits d)
    (hThen : e₀.UsesBuiltins d)
    (hNow : e.UsesBuiltins d)
    (trigger : TriggerType)
    (payload correlationId operator : Value) :
    (execute d trigger payload correlationId e).1 =
        .error (.operatorInvalid operator) ↔
      operator = .null ∧
        ∃ path id s access,
          Course d payload (some d.initialStep) e.access
            path (some id) access ∧
          path.length < e.limit.toNat ∧
          d.steps.lookup id = some s ∧
          s.MeetsNull payload := by
  have hClosed := isClosed_of_usesBuiltins hAdmits hThen
  have hProvides := provides_of_admits hAdmits hThen hNow
  rw [execute_eq_error_iff hClosed hProvides trigger
    correlationId Failure.noConfusion]
  constructor
  · rintro ⟨path, id, s, access, hCourse, hWithin,
      hDefined, hPerformed⟩
    rcases typeOf?_of_admits hAdmits hThen hDefined with
      ⟨type, hType, hFits⟩
    cases StepDefinition.failure_of_performed hFits hType
      hPerformed with
    | data hData => cases hData
    | operator hMeets =>
        exact ⟨rfl, path, id, s, access, hCourse, hWithin,
          hDefined, hMeets⟩
  · rintro ⟨rfl, path, id, s, access, hCourse, hWithin,
      hDefined, hMeets⟩
    rcases typeOf?_of_admits hAdmits hThen hDefined with
      ⟨type, hType, hFits⟩
    exact ⟨path, id, s, access, hCourse, hWithin, hDefined,
      StepDefinition.performed_of_meetsNull hType hFits
        hMeets access⟩

/-
  An accepted definition never fails for an attribute that
  the type named in the failure requires.
-/
theorem not_required_of_attributeMissing
    (hAdmits : e₀.Admits d)
    (hThen : e₀.UsesBuiltins d)
    (hNow : e.UsesBuiltins d)
    {trigger : TriggerType}
    {payload correlationId : Value}
    {slug name : String}
    (hFails :
      (execute d trigger payload correlationId e).1 =
        .error (.attributeMissing slug name))
    {type : StepType}
    (hNamed : Builtin.typeOf? slug = some type) :
    name ∉ type.requiredAttributes := by
  have hClosed := isClosed_of_usesBuiltins hAdmits hThen
  have hProvides := provides_of_admits hAdmits hThen hNow
  rcases (execute_eq_error_iff hClosed hProvides trigger
    correlationId Failure.noConfusion).mp hFails with
    ⟨path, id, s, access, -, -, hDefined, hPerformed⟩
  rcases typeOf?_of_admits hAdmits hThen hDefined with
    ⟨own, hType, hFits⟩
  cases StepDefinition.failure_of_performed hFits hType
    hPerformed with
  | data hData => cases hData
  | subject _ =>
      exact StepDefinition.subject_not_required hNamed

/-
  A workflow that was built over the built-in types, and is
  executed while the types of steps are the same, never fails
  for want of an attribute that a type requires.  It fails
  for an operator exactly when its walk comes, within the
  limit, to a condition with an empty operator while the
  payload has the field; so never when no condition of the
  definition has an empty operator.
-/
theorem execute_configured
    {e₀ e : Engine}
    {d : WorkflowDefinition}
    {w : Workflow}
    (hBuilt : (build d e₀).1 = .ok w)
    (hUses : e₀.UsesBuiltins d)
    (hSame : e.stepTypes = e₀.stepTypes)
    (trigger : TriggerType)
    (payload correlationId : Value) :
    (∀ slug name type,
      (execute w.definition trigger payload correlationId
        e).1 = .error (.attributeMissing slug name) →
      Builtin.typeOf? slug = some type →
        name ∉ type.requiredAttributes) ∧
    (∀ operator,
      (execute w.definition trigger payload correlationId
        e).1 = .error (.operatorInvalid operator) ↔
      operator = .null ∧
        ∃ path id s access,
          Course d payload (some d.initialStep) e.access
            path (some id) access ∧
          path.length < e.limit.toNat ∧
          d.steps.lookup id = some s ∧
          s.MeetsNull payload) ∧
    ((∀ entry ∈ d.steps,
      Builtin.isCondition entry.2.slug →
        entry.2.attributes.lookup "operator" ≠
          some .null) →
      ∀ operator,
        (execute w.definition trigger payload correlationId
          e).1 ≠ .error (.operatorInvalid operator)) := by
  rcases admits_of_build hBuilt with ⟨hAdmits, rfl⟩
  have hNow : e.UsesBuiltins d := by
    intro entry hEntry
    rw [hSame]
    exact hUses entry hEntry
  have hOperator (operator : Value) :=
    execute_eq_operatorInvalid_iff hAdmits hUses hNow
      trigger payload correlationId operator
  refine ⟨?_, hOperator, ?_⟩
  · intro slug name type hFailure hNamed
    exact not_required_of_attributeMissing hAdmits hUses
      hNow hFailure hNamed
  · intro hNone operator hFailure
    rcases (hOperator operator).mp hFailure with
      ⟨-, path, id, s, access, -, -, hDefined, hMeets⟩
    exact hNone _
      (WorkflowDefinition.mem_of_lookup hDefined) hMeets.1
      hMeets.2.1

end Engine

end EventFlow

------------------------------------------------------------
-- Operators, Given and Empty
------------------------------------------------------------

namespace EventFlow

namespace Engine

open scoped Bare in
/- No condition of `tagPaid` has an empty operator. -/
theorem execute_configured_tagPaid :
    (build tagPaid stocked).1 =
        .ok (stocked.workflowOf tagPaid) ∧
      ∀ operator,
        (execute tagPaid Builtin.transactionUpdated
          (transaction "draft") .null stocked).1 ≠
            .error (.operatorInvalid operator) := by
  have hBuilt :
      (build tagPaid stocked).1 =
        .ok (stocked.workflowOf tagPaid) := rfl
  have hNone :
      ∀ entry ∈ tagPaid.steps,
        Builtin.isCondition entry.2.slug →
          entry.2.attributes.lookup "operator" ≠
            some .null := by
    intro entry hEntry
    simp only [tagPaid, List.mem_cons, List.not_mem_nil,
      or_false] at hEntry
    rcases hEntry with rfl | rfl | rfl
    · simp [List.lookup_cons]
    · simp [List.lookup_cons]
    · simp [List.lookup_cons]
  have hConfigured :=
    execute_configured hBuilt (usesBuiltins_stocked tagPaid)
      rfl Builtin.transactionUpdated (transaction "draft")
      .null
  exact ⟨hBuilt, hConfigured.2.2 hNone⟩

/- A condition without an operator, before an action. -/
def tagUnasked : WorkflowDefinition :=
  { id := "tag-unasked"
    name := "Tag unasked"
    triggers := ["crm/transaction_updated"]
    initialStep := "ask"
    steps := [
      ("ask",
        { slug := "crm/condition/transaction_field"
          attributes := [
            ("field", .str "status"),
            ("operator", .null),
            ("value", .str "paid")
          ]
          nextStepTrue := some "tag" }),
      ("tag",
        { slug := "crm/add_remove_contact_tag"
          attributes := [
            ("mode", .str "append"),
            ("tags", .str "paid")
          ] })
    ] }

open scoped Bare in
/-
  An empty operator is accepted, and a payload that has the
  field makes it fail.
-/
theorem execute_empty_operator :
    (build tagUnasked stocked).1 =
        .ok (stocked.workflowOf tagUnasked) ∧
      stocked.UsesBuiltins tagUnasked ∧
      (execute tagUnasked Builtin.transactionUpdated
        (transaction "paid") .null stocked).1 =
          .error (.operatorInvalid .null) :=
  ⟨rfl, usesBuiltins_stocked tagUnasked, rfl⟩

end Engine

end EventFlow
