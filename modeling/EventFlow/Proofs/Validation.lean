import EventFlow.Engine.Building
import EventFlow.Proofs.Acts

/-
  What it means that a definition was accepted.

  A definition has no problems exactly when an engine admits
  it: its triggers are known, its initial step is defined,
  and every step fits a known type.  Building a definition
  that is admitted yields its workflow and changes nothing;
  building any other tells of the refusal and fails.

  Key definitions include:
    * `Workflow.StepFits`
    * `Engine.Admits`
    * `WorkflowDefinition.IsClosed`

  Key theorems include:
    * `Workflow.stepProblems_eq_nil_iff`
    * `Engine.problems_eq_nil_iff`
    * `Engine.build_of_admits`
    * `Engine.problems_of_build`
    * `Engine.admits_of_build`
    * `Engine.isClosed_of_admits`
-/

------------------------------------------------------------
-- Steps Without Problems
------------------------------------------------------------

namespace EventFlow

namespace Workflow

/-
  What a step must be like to have no problems as a step of
  a type.
-/
structure StepFits
    (d : WorkflowDefinition)
    (type : StepType)
    (s : StepDefinition) : Prop where
  branches :
    type.variant = .action →
      s.nextStepTrue = none ∧ s.nextStepFalse = none
  successor :
    type.variant = .condition → s.nextStep = none
  operator :
    type.variant = .condition →
      ∀ operator,
        s.attributes.lookup "operator" = some operator →
          operator = .null ∨ type.allowsOperator operator
  defined :
    ∀ id ∈ successors type.variant s, d.hasStep id
  attributes :
    ∀ name ∈ type.requiredAttributes,
      (s.attributes.lookup name).isSome
  triggers :
    ∀ trigger ∈ d.triggers, type.allowsTrigger trigger

variable {d : WorkflowDefinition}
variable {type : StepType}
variable {s : StepDefinition}

@[simp] theorem problemIf_eq_nil_iff
    (isThere : Bool)
    (problem : Problem) :
    problemIf isThere problem = [] ↔ isThere = false := by
  cases isThere <;> simp [problemIf]

theorem strayProblems_eq_nil_iff (stepId : String) :
    strayProblems stepId type.variant s = [] ↔
      (type.variant = .action →
        s.nextStepTrue = none ∧ s.nextStepFalse = none) ∧
      (type.variant = .condition → s.nextStep = none) := by
  cases type.variant <;> simp [strayProblems]

theorem operatorProblems_eq_nil_iff (stepId : String) :
    operatorProblems stepId type s = [] ↔
      (type.variant = .condition →
        ∀ operator,
          s.attributes.lookup "operator" = some operator →
            operator = .null ∨
              type.allowsOperator operator) := by
  unfold operatorProblems
  cases hVariant : type.variant with
  | action => simp
  | plain => simp
  | condition =>
      cases s.attributes.lookup "operator" with
      | none => simp
      | some operator =>
          cases operator <;> simp [Value.isNull]

theorem successorProblems_eq_nil_iff
    (stepId : String)
    (variant : Variant) :
    successorProblems d stepId variant s = [] ↔
      ∀ id ∈ successors variant s, d.hasStep id := by
  simp [successorProblems, List.filter_eq_nil_iff]

theorem attributeProblems_eq_nil_iff (stepId : String) :
    attributeProblems stepId type s = [] ↔
      ∀ name ∈ type.requiredAttributes,
        (s.attributes.lookup name).isSome := by
  simp [attributeProblems, List.filter_eq_nil_iff,
    Option.isSome_iff_ne_none]

theorem refusedTriggers_eq_nil_iff (stepId : String) :
    refusedTriggers d stepId type = [] ↔
      ∀ trigger ∈ d.triggers,
        type.allowsTrigger trigger := by
  simp [refusedTriggers, List.filter_eq_nil_iff]

/- A step has no problems exactly when it fits its type. -/
theorem stepProblems_eq_nil_iff (stepId : String) :
    stepProblems d stepId type s = [] ↔
      StepFits d type s := by
  simp only [stepProblems, List.append_eq_nil_iff,
    strayProblems_eq_nil_iff, operatorProblems_eq_nil_iff,
    successorProblems_eq_nil_iff,
    attributeProblems_eq_nil_iff,
    refusedTriggers_eq_nil_iff]
  constructor
  · rintro ⟨⟨⟨⟨⟨hBranches, hSuccessor⟩, hOperator⟩,
      hDefined⟩, hAttributes⟩, hTriggers⟩
    exact ⟨hBranches, hSuccessor, hOperator, hDefined,
      hAttributes, hTriggers⟩
  · intro hFits
    exact ⟨⟨⟨⟨⟨hFits.branches, hFits.successor⟩,
      hFits.operator⟩, hFits.defined⟩, hFits.attributes⟩,
      hFits.triggers⟩

end Workflow

end EventFlow

------------------------------------------------------------
-- Definitions Without Problems
------------------------------------------------------------

namespace EventFlow

namespace Engine

/- What a definition must be like to be accepted. -/
structure Admits
    (e : Engine)
    (d : WorkflowDefinition) : Prop where
  triggers :
    ∀ slug ∈ d.triggers,
      ∃ type, e.triggerTypes.lookup slug = some type
  initial : d.hasStep d.initialStep
  steps :
    ∀ entry ∈ d.steps,
      ∃ type,
        e.stepTypes.lookup entry.2.slug =
          some (.type type) ∧
        Workflow.StepFits d type entry.2

variable {e : Engine}
variable {d : WorkflowDefinition}

theorem triggerProblems_eq_nil_iff :
    e.triggerProblems d = [] ↔
      ∀ slug ∈ d.triggers,
        ∃ type, e.triggerTypes.lookup slug = some type := by
  simp [triggerProblems, List.filter_eq_nil_iff,
    ← Option.isSome_iff_exists, Option.isSome_iff_ne_none]

theorem initialProblems_eq_nil_iff :
    initialProblems d = [] ↔ d.hasStep d.initialStep := by
  simp [initialProblems]

theorem problemsOfStep_eq_nil_iff
    (stepId : String)
    (s : StepDefinition) :
    e.problemsOfStep d stepId s = .ok [] ↔
      ∃ type,
        e.stepTypes.lookup s.slug = some (.type type) ∧
        Workflow.StepFits d type s := by
  unfold problemsOfStep
  cases hEntry : e.stepTypes.lookup s.slug with
  | none => simp
  | some entry =>
      cases entry with
      | type type =>
          simp [Workflow.stepProblems_eq_nil_iff]
      | stale => simp

theorem problemsOfSteps_eq_nil_iff
    (entries : List (String × StepDefinition)) :
    e.problemsOfSteps d entries = .ok [] ↔
      ∀ entry ∈ entries,
        ∃ type,
          e.stepTypes.lookup entry.2.slug =
            some (.type type) ∧
          Workflow.StepFits d type entry.2 := by
  induction entries with
  | nil => simp [problemsOfSteps]
  | cons entry rest ih =>
      rw [List.forall_mem_cons, ← ih,
        ← problemsOfStep_eq_nil_iff entry.1]
      rw [problemsOfSteps]
      cases hFirst : e.problemsOfStep d entry.1 entry.2 with
      | error failure => simp
      | ok problems =>
          cases e.problemsOfSteps d rest with
          | error failure => simp [Except.map]
          | ok others => simp [Except.map]

/- Exactly the definitions that are admitted have no problems. -/
theorem problems_eq_nil_iff :
    e.problems d = .ok [] ↔ e.Admits d := by
  have hParts :
      e.problems d = .ok [] ↔
        e.triggerProblems d = [] ∧
          initialProblems d = [] ∧
            e.problemsOfSteps d d.steps = .ok [] := by
    unfold problems
    cases e.problemsOfSteps d d.steps with
    | error failure => simp [Except.map]
    | ok problems => simp [Except.map]
  rw [hParts, triggerProblems_eq_nil_iff,
    initialProblems_eq_nil_iff, problemsOfSteps_eq_nil_iff]
  constructor
  · rintro ⟨hTriggers, hInitial, hSteps⟩
    exact ⟨hTriggers, hInitial, hSteps⟩
  · intro hAdmits
    exact ⟨hAdmits.triggers, hAdmits.initial,
      hAdmits.steps⟩

/- Whether a definition is admitted can be computed. -/
instance : Decidable (e.Admits d) :=
  match hProblems : e.problems d with
  | .ok [] => .isTrue (problems_eq_nil_iff.mp hProblems)
  | .ok (_ :: _) => .isFalse fun hAdmits => by
      rw [problems_eq_nil_iff.mpr hAdmits] at hProblems
      cases hProblems
  | .error _ => .isFalse fun hAdmits => by
      rw [problems_eq_nil_iff.mpr hAdmits] at hProblems
      cases hProblems

end Engine

end EventFlow

------------------------------------------------------------
-- Made Triggers
------------------------------------------------------------

namespace EventFlow

namespace Engine

variable {e : Engine}

/- The types that are registered for slugs. -/
def typesOf
    (e : Engine)
    (slugs : List String) : List TriggerType :=
  slugs.filterMap fun slug => e.triggerTypes.lookup slug

/- The workflow that an admitted definition is built into. -/
def workflowOf
    (e : Engine)
    (d : WorkflowDefinition) : Workflow :=
  { definition := d
    triggers := (e.typesOf d.triggers).map fun type =>
      { type := type } }

/- Known slugs have one type each. -/
theorem length_typesOf
    {slugs : List String}
    (hKnown :
      ∀ slug ∈ slugs,
        ∃ type, e.triggerTypes.lookup slug = some type) :
    (e.typesOf slugs).length = slugs.length := by
  induction slugs with
  | nil => rfl
  | cons slug slugs ih =>
      rcases hKnown slug List.mem_cons_self with
        ⟨type, hType⟩
      have hRest := ih fun slug hSlug =>
        hKnown slug (List.mem_cons_of_mem _ hSlug)
      simp only [typesOf] at hRest
      simp [typesOf, hType, hRest]

/- For known slugs triggers are made, unbound. -/
theorem makeTriggers_of_known
    {slugs : List String}
    (hKnown :
      ∀ slug ∈ slugs,
        ∃ type, e.triggerTypes.lookup slug = some type) :
    e.makeTriggers slugs =
      .ok ((e.typesOf slugs).map fun type =>
        { type := type }) := by
  induction slugs with
  | nil => rfl
  | cons slug slugs ih =>
      rcases hKnown slug List.mem_cons_self with
        ⟨type, hType⟩
      have hRest := ih fun slug hSlug =>
        hKnown slug (List.mem_cons_of_mem _ hSlug)
      simp [makeTriggers, makeTrigger, triggerType, hType,
        hRest, typesOf, Except.map]

end Engine

end EventFlow

------------------------------------------------------------
-- Building
------------------------------------------------------------

namespace EventFlow

namespace Engine

variable {e : Engine}
variable {d : WorkflowDefinition}

/- The failure of a definition with problems. -/
def rejection
    (d : WorkflowDefinition)
    (problems : List Workflow.Problem) : Failure :=
  .workflowInvalid d.id (problems.map Workflow.Problem.text)

/- What is told of a definition with problems. -/
def rejectionNotice
    (d : WorkflowDefinition)
    (problems : List Workflow.Problem) : Notice :=
  .definitionRejected d.id
    (problems.map Workflow.Problem.text)

/- An admitted definition is built, and nothing changes. -/
theorem build_of_admits
    (hAdmits : e.Admits d) :
    build d e = (.ok (e.workflowOf d), e) := by
  have hProblems := problems_eq_nil_iff.mpr hAdmits
  have hTriggers := makeTriggers_of_known hAdmits.triggers
  have hAccept : accept d e = (.ok (), e) :=
    (Act.bind_of_ok (congrArg (·, e) hProblems)).trans rfl
  refine (Act.bind_of_ok hAccept).trans ?_
  exact (Act.bind_of_ok (congrArg (·, e) hTriggers)).trans
    rfl

/- A definition with problems is refused and told of. -/
theorem build_of_problems
    {problems : List Workflow.Problem}
    (hProblems : e.problems d = .ok problems)
    (hSome : problems ≠ []) :
    build d e =
      (.error (rejection d problems),
        hear [rejectionNotice d problems] e) := by
  refine Act.bind_of_error ?_
  refine (Act.bind_of_ok (congrArg (·, e) hProblems)).trans
    ?_
  cases problems with
  | nil => exact absurd rfl hSome
  | cons problem problems => rfl

/- Problems that cannot be told make the building fail. -/
theorem build_of_failure
    {failure : Failure}
    (hProblems : e.problems d = .error failure) :
    build d e = (.error failure, e) :=
  Act.bind_of_error
    (Act.bind_of_error (congrArg (·, e) hProblems))

/- Only a stale entry keeps problems from being told. -/
theorem problems_ne_error
    (hTypes :
      ∀ slug, e.stepTypes.lookup slug ≠ some .stale)
    (failure : Failure) :
    e.problems d ≠ .error failure := by
  have hSteps :
      ∀ entries, ∃ problems,
        e.problemsOfSteps d entries = .ok problems := by
    intro entries
    induction entries with
    | nil => exact ⟨[], rfl⟩
    | cons entry rest ih =>
        rcases ih with ⟨others, hOthers⟩
        rw [problemsOfSteps]
        unfold problemsOfStep
        cases hEntry :
            e.stepTypes.lookup entry.2.slug with
        | none => simp [hOthers, Except.map]
        | some entry =>
            cases entry with
            | type type => simp [hOthers, Except.map]
            | stale => exact absurd hEntry (hTypes _)
  rcases hSteps d.steps with ⟨problems, hProblems⟩
  simp [Engine.problems, hProblems, Except.map]

/- A definition that is not built violates some rule. -/
theorem problems_of_build
    (hTypes :
      ∀ slug, e.stepTypes.lookup slug ≠ some .stale)
    {d : WorkflowDefinition}
    {failure : Failure}
    (hFails : (build d e).1 = .error failure) :
    ∃ id problems,
      failure = .workflowInvalid id problems ∧
        problems ≠ [] := by
  cases hProblems : e.problems d with
  | error other =>
      exact absurd hProblems (problems_ne_error hTypes other)
  | ok problems =>
      by_cases hNone : problems = []
      · rw [hNone] at hProblems
        rw [build_of_admits
          (problems_eq_nil_iff.mp hProblems)] at hFails
        cases hFails
      · rw [build_of_problems hProblems hNone] at hFails
        cases hFails
        exact ⟨_, _, rfl, mt List.map_eq_nil_iff.mp hNone⟩

/- A definition that was built was admitted. -/
theorem admits_of_build
    {w : Workflow}
    (hBuilt : (build d e).1 = .ok w) :
    e.Admits d ∧ w = e.workflowOf d := by
  cases hProblems : e.problems d with
  | error failure =>
      rw [build_of_failure hProblems] at hBuilt
      cases hBuilt
  | ok problems =>
      cases problems with
      | cons problem problems =>
          rw [build_of_problems hProblems (by simp)]
            at hBuilt
          cases hBuilt
      | nil =>
          have hAdmits := problems_eq_nil_iff.mp hProblems
          rw [build_of_admits hAdmits] at hBuilt
          cases hBuilt
          exact ⟨hAdmits, rfl⟩

end Engine

end EventFlow

------------------------------------------------------------
-- Closed Graphs
------------------------------------------------------------

namespace EventFlow

namespace WorkflowDefinition

/-
  Whether the initial step and every successor that a step
  names are defined, whatever the step's variant is.
-/
structure IsClosed (d : WorkflowDefinition) : Prop where
  initial : d.hasStep d.initialStep
  next :
    ∀ entry ∈ d.steps,
      ∀ id ∈ entry.2.nextStep, d.hasStep id
  onTrue :
    ∀ entry ∈ d.steps,
      ∀ id ∈ entry.2.nextStepTrue, d.hasStep id
  onFalse :
    ∀ entry ∈ d.steps,
      ∀ id ∈ entry.2.nextStepFalse, d.hasStep id

end WorkflowDefinition

namespace Engine

variable {e : Engine}
variable {d : WorkflowDefinition}

/-
  An admitted definition is closed when its steps are
  conditions and actions: the successors of the variant are
  defined, and the others are left out.
-/
theorem isClosed_of_admits
    (hAdmits : e.Admits d)
    (hVariants :
      ∀ entry ∈ d.steps, ∀ type,
        e.stepTypes.lookup entry.2.slug =
            some (.type type) →
          type.variant ≠ .plain) :
    d.IsClosed := by
  have hStep :
      ∀ entry ∈ d.steps,
        (∀ id ∈ entry.2.nextStep, d.hasStep id) ∧
        (∀ id ∈ entry.2.nextStepTrue, d.hasStep id) ∧
        (∀ id ∈ entry.2.nextStepFalse, d.hasStep id) := by
    intro entry hEntry
    rcases hAdmits.steps entry hEntry with
      ⟨type, hType, hFits⟩
    have hDefined := hFits.defined
    cases hVariant : type.variant with
    | plain =>
        exact absurd hVariant (hVariants _ hEntry _ hType)
    | action =>
        rcases hFits.branches hVariant with
          ⟨hTrue, hFalse⟩
        rw [hVariant] at hDefined
        simpa [Workflow.successors, hTrue, hFalse]
          using hDefined
    | condition =>
        have hNext := hFits.successor hVariant
        rw [hVariant] at hDefined
        simpa [Workflow.successors, hNext, or_imp,
          forall_and] using hDefined
  exact {
    initial := hAdmits.initial
    next := fun entry hEntry => (hStep entry hEntry).1
    onTrue := fun entry hEntry => (hStep entry hEntry).2.1
    onFalse := fun entry hEntry =>
      (hStep entry hEntry).2.2
  }

end Engine

end EventFlow
