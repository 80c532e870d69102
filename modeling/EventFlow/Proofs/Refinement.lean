import EventFlow.Engine.Registration
import EventFlow.Proofs.Execution
import EventFlow.Proofs.StepFailures
import EventFlow.Proofs.Validation

/-
  Walks refine courses.

  The walk of an engine through a definition whose steps are
  of the built-in types visits what the course of the
  definition visits, and ends as the course under the
  engine's limit ends.

  Key definitions include:
    * `Engine.UsesBuiltins`
    * `Notice.isTrace`

  Key theorems include:
    * `Course.exists_ends`
    * `Engine.runs_of_course`
    * `Engine.execute_of_ends`
    * `Engine.execute_follows_course`
-/

------------------------------------------------------------
-- Definitions Over the Built-In Types
------------------------------------------------------------

namespace EventFlow

namespace WorkflowDefinition

variable {d : WorkflowDefinition}
variable {id : String}

theorem mem_of_lookup
    {s : StepDefinition}
    (hDefined : d.steps.lookup id = some s) :
    (id, s) ∈ d.steps :=
  Entries.mem_of_lookup hDefined

theorem exists_of_hasStep
    (hStep : d.hasStep id) :
    ∃ s, d.steps.lookup id = some s :=
  Option.isSome_iff_exists.mp hStep

end WorkflowDefinition

namespace Engine

/-
  Whether the slugs that a definition uses stand for the
  built-in types of steps.
-/
def UsesBuiltins
    (e : Engine)
    (d : WorkflowDefinition) : Prop :=
  ∀ entry ∈ d.steps,
    e.stepTypes.lookup entry.2.slug =
      (Builtin.typeOf? entry.2.slug).map .type

variable {e e₀ : Engine}
variable {d : WorkflowDefinition}

/- What a used slug stands for is a built-in type. -/
theorem typeOf?_of_lookup
    (hUses : e.UsesBuiltins d)
    {entry : String × StepDefinition}
    (hMem : entry ∈ d.steps)
    {type : StepType}
    (hType :
      e.stepTypes.lookup entry.2.slug =
        some (.type type)) :
    Builtin.typeOf? entry.2.slug = some type := by
  have hSame := (hUses entry hMem).symm.trans hType
  rcases Option.map_eq_some_iff.mp hSame with
    ⟨builtin, hBuiltin, hEq⟩
  cases hEq
  exact hBuiltin

/- An admitted definition uses slugs of built-in types. -/
theorem typeOf?_of_admits
    (hAdmits : e.Admits d)
    (hUses : e.UsesBuiltins d)
    {id : String}
    {s : StepDefinition}
    (hDefined : d.steps.lookup id = some s) :
    ∃ type,
      Builtin.typeOf? s.slug = some type ∧
        Workflow.StepFits d type s := by
  have hMem := WorkflowDefinition.mem_of_lookup hDefined
  rcases hAdmits.steps _ hMem with ⟨type, hType, hFits⟩
  exact ⟨type, typeOf?_of_lookup hUses hMem hType, hFits⟩

/- An admitted definition over the built-in types is closed. -/
theorem isClosed_of_usesBuiltins
    (hAdmits : e.Admits d)
    (hUses : e.UsesBuiltins d) :
    d.IsClosed := by
  apply isClosed_of_admits hAdmits
  intro entry hMem type hType
  exact Builtin.variant_of_typeOf?
    (typeOf?_of_lookup hUses hMem hType)

end Engine

end EventFlow

------------------------------------------------------------
-- Courses of Closed Definitions
------------------------------------------------------------

namespace EventFlow

namespace Course

variable {d : WorkflowDefinition}
variable {payload : Value}

/- Every successor of a closed definition is defined. -/
theorem successor_defined
    (hClosed : d.IsClosed)
    {id : String}
    {s : StepDefinition}
    (hDefined : d.steps.lookup id = some s)
    (met : Option Bool) :
    ∀ next ∈ s.successor met, d.hasStep next := by
  have hMem := WorkflowDefinition.mem_of_lookup hDefined
  cases met with
  | none => exact hClosed.next _ hMem
  | some met =>
      cases met with
      | true => exact hClosed.onTrue _ hMem
      | false => exact hClosed.onFalse _ hMem

/-
  From a defined step on, a course comes to its end within a
  number of steps, or to a step that fails, or it has taken
  all of them.
-/
theorem exists_halting
    (hClosed : d.IsClosed)
    (limit : Nat)
    (next : Option String)
    (hNext : ∀ id ∈ next, d.hasStep id)
    (start : DataAccess) :
    ∃ path last access,
      Course d payload next start path last access ∧
        ((last = none ∧ path.length ≤ limit) ∨
        (∃ id, last = some id ∧ path.length = limit) ∨
        (∃ id s failure,
          last = some id ∧ path.length < limit ∧
            d.steps.lookup id = some s ∧
              s.performed payload access =
                .error failure)) := by
  induction limit generalizing next start with
  | zero =>
      refine ⟨[], next, start, .stay _ _, ?_⟩
      cases next with
      | none => exact .inl ⟨rfl, Nat.le_refl 0⟩
      | some id => exact .inr (.inl ⟨id, rfl, rfl⟩)
  | succ limit ih =>
      cases next with
      | none =>
          exact ⟨[], none, start, .stay _ _,
            .inl ⟨rfl, Nat.zero_le _⟩⟩
      | some id =>
          rcases WorkflowDefinition.exists_of_hasStep
            (hNext id rfl) with ⟨s, hDefined⟩
          cases hPerformed : s.performed payload start with
          | error failure =>
              exact ⟨[], some id, start, .stay _ _,
                .inr (.inr ⟨id, s, failure, rfl,
                  Nat.succ_pos _, hDefined, hPerformed⟩)⟩
          | ok performed =>
              rcases performed with ⟨met, between⟩
              rcases ih _
                (successor_defined hClosed hDefined met)
                between with
                ⟨path, last, access, hCourse, hHow⟩
              refine ⟨_, last, access,
                .step hDefined hPerformed hCourse, ?_⟩
              rcases hHow with
                ⟨hLast, hLe⟩ | ⟨id, hLast, hEq⟩ |
                  ⟨id, s, failure, hLast, hLt, hFails⟩
              · exact .inl ⟨hLast, Nat.succ_le_succ hLe⟩
              · exact .inr (.inl
                  ⟨id, hLast, congrArg Nat.succ hEq⟩)
              · exact .inr (.inr ⟨id, s, failure, hLast,
                  Nat.succ_lt_succ hLt, hFails⟩)

/- A visit to a closed definition ends under every limit. -/
theorem exists_ends
    (hClosed : d.IsClosed)
    (payload : Value)
    (start : DataAccess)
    (limit : Nat) :
    ∃ ending, Ends d payload start limit ending := by
  have hInitial :
      ∀ id ∈ some d.initialStep, d.hasStep id := by
    rintro id ⟨⟩
    exact hClosed.initial
  rcases exists_halting hClosed limit _ hInitial start with
    ⟨path, last, access, hCourse, hHow⟩
  rcases hHow with
    ⟨rfl, hLe⟩ | ⟨id, rfl, hEq⟩ |
      ⟨id, s, failure, rfl, hLt, hDefined, hFails⟩
  · exact ⟨_, .finished hCourse hLe⟩
  · exact ⟨_, .exceeded hCourse hEq⟩
  · exact ⟨_, .failed hCourse hLt hDefined hFails⟩

end Course

end EventFlow

------------------------------------------------------------
-- Traces
------------------------------------------------------------

namespace EventFlow

namespace Notice

/- Whether a notice is an entry of a trace. -/
def isTrace : Notice → Bool
| .traced _ _ => true
| _ => false

/- What is told besides the entries of the trace. -/
def records (ns : List Notice) : List Notice :=
  ns.filter fun n => !n.isTrace

theorem records_append (ns ms : List Notice) :
    records (ns ++ ms) = records ns ++ records ms := by
  simp [records]

/- Tracing tells nothing besides the trace. -/
theorem records_tracing
    (s : Step)
    (traces : List TraceEntry) :
    records (Walk.tracing s traces) = [] := by
  simp [records, Walk.tracing, isTrace,
    List.filter_eq_nil_iff]

end Notice

end EventFlow

------------------------------------------------------------
-- Moves Along Courses
------------------------------------------------------------

namespace EventFlow

namespace Engine

/-
  Whether an engine makes every step of a definition from a
  built-in type.
-/
def Provides
    (e : Engine)
    (d : WorkflowDefinition) : Prop :=
  ∀ id s,
    d.steps.lookup id = some s →
      ∃ type,
        Builtin.typeOf? s.slug = some type ∧
          e.makeStep s.slug (WorkflowDefinition.dataOf id s) =
            .ok (Step.ofDefinition type id s)

variable {e e₀ : Engine}
variable {d : WorkflowDefinition}

/-
  A definition that was admitted over the built-in types is
  provided for as long as the built-in types are.
-/
theorem provides_of_admits
    (hAdmits : e₀.Admits d)
    (hThen : e₀.UsesBuiltins d)
    (hNow : e.UsesBuiltins d) :
    e.Provides d := by
  intro id s hDefined
  rcases typeOf?_of_admits hAdmits hThen hDefined with
    ⟨type, hType, -⟩
  have hEntry :=
    hNow _ (WorkflowDefinition.mem_of_lookup hDefined)
  rw [hType] at hEntry
  exact ⟨type, hType, makeStep_of_lookup hEntry id⟩

variable (trigger : TriggerType)
variable {payload : Value}
variable (correlationId : Value)
variable {access access' : DataAccess}
variable {id : String}
variable {s : StepDefinition}

variable [Surroundings]

/- A provided step is executed as its definition says. -/
theorem executeAt_agrees
    (payload : Value)
    (access : DataAccess)
    (hProvides : e.Provides d)
    (hDefined : d.steps.lookup id = some s) :
    ∃ effect,
      (e.walkOf d trigger payload correlationId).executeAt
          id s access = .ok effect ∧
        effect.Agrees s access
          (s.performed payload access) ∧
        effect.step.type.slug = s.slug ∧
        effect.Within Failure.isOfStep := by
  rcases hProvides _ _ hDefined with ⟨type, hType, hMade⟩
  refine ⟨(Step.ofDefinition type id s).execute payload
    access, ?_, Step.execute_agrees id payload access hType,
    ?_, ?_⟩
  · change (e.makeStep _ _).map _ = _
    rw [hMade]
    rfl
  · rw [Step.type_execute]
    exact Builtin.slug_of_typeOf? hType
  · exact Step.within_execute _ access
      (Builtin.isForeign_of_typeOf? hType) payload

/- A step that is performed is a move of the walk. -/
theorem moves_of_performed
    (hProvides : e.Provides d)
    (hDefined : d.steps.lookup id = some s)
    {met : Option Bool}
    (hPerformed :
      s.performed payload access = .ok (met, access')) :
    ∃ ns,
      (e.walkOf d trigger payload correlationId).Moves
        (.str id) access
        { stepId := id
          slug := s.slug
          met := met.map .bool } ns
        (Value.ofText? (s.successor met)) access' ∧
      Notice.records ns = [] := by
  rcases executeAt_agrees trigger correlationId payload
    access hProvides hDefined with
    ⟨effect, hEffect, hAgrees, hSlug, -⟩
  rw [hPerformed] at hAgrees
  rcases hAgrees with ⟨hFine, rfl, hMet, hNext⟩
  have hMoves := Walk.Moves.step hDefined hEffect hFine hNext
  rw [Walk.outcomeOf, hSlug, hMet] at hMoves
  exact ⟨_, hMoves, Notice.records_tracing _ _⟩

/- A step that is not performed breaks the walk. -/
theorem breaks_of_performed
    (hProvides : e.Provides d)
    (hDefined : d.steps.lookup id = some s)
    {failure : Failure}
    (hPerformed :
      s.performed payload access = .error failure) :
    ∃ ns,
      (e.walkOf d trigger payload correlationId).Breaks
        (.str id) access access ns failure ∧
      Notice.records ns =
        [.stepFailed
          (e.walkOf d trigger payload correlationId).run
          id s.slug failure] := by
  rcases executeAt_agrees trigger correlationId payload
    access hProvides hDefined with
    ⟨effect, hEffect, hAgrees, -, hWithin⟩
  rw [hPerformed] at hAgrees
  rcases hAgrees with ⟨hFailed, hAccess⟩
  have hStays :=
    Failure.isInterrupt_of_isOfStep (hWithin _ hFailed)
  have hAt :=
    Walk.definitionAt_of_lookup
      (w := e.walkOf d trigger payload correlationId) hDefined
  have hBreaks :=
    Walk.Breaks.failed Value.noConfusion hAt hEffect hFailed
  rw [hAccess] at hBreaks
  refine ⟨_, hBreaks, ?_⟩
  rw [Notice.records_append, Notice.records_tracing,
    Walk.complaints_of_not_isInterrupt id s hStays]
  rfl

/- The walk runs along the course of its definition. -/
theorem runs_of_course
    (hProvides : e.Provides d)
    {next last : Option String}
    {path : List StepOutcome}
    (hCourse :
      Course d payload next access path last access') :
    ∃ ns,
      (e.walkOf d trigger payload correlationId).Runs
        (Value.ofText? next) access path ns
        (Value.ofText? last) access' ∧
      Notice.records ns = [] := by
  induction hCourse with
  | stay next access => exact ⟨[], .stay _ _, rfl⟩
  | step hDefined hPerformed hRest ih =>
      rcases moves_of_performed trigger correlationId
        hProvides hDefined hPerformed with ⟨ns, hMoves, hNs⟩
      rcases ih with ⟨ms, hRuns, hMs⟩
      refine ⟨ns ++ ms, .move hMoves hRuns, ?_⟩
      rw [Notice.records_append, hNs, hMs]
      rfl

end Engine

end EventFlow

------------------------------------------------------------
-- Whole Walks
------------------------------------------------------------

namespace EventFlow

namespace Engine

/- What identifies the walk that a trigger starts. -/
def runOf
    (d : WorkflowDefinition)
    (trigger : TriggerType)
    (correlationId : Value) : Run :=
  { workflowId := d.id
    trigger := trigger.slug
    correlationId := correlationId }

variable {e e₀ : Engine}
variable {d : WorkflowDefinition}

/- To execute a workflow is to take its walk. -/
theorem execute_of_take
    [Surroundings]
    {trigger : TriggerType}
    {payload correlationId : Value}
    {walked : Walked}
    (hTake :
      (e.walkOf d trigger payload correlationId).take
        e.access = walked) :
    execute d trigger payload correlationId e =
      (walked.outcome.map
        (e.walkOf d trigger payload correlationId).resultOf,
        hear walked.notices
          { e with access := walked.access }) := by
  rw [← hTake]
  rfl

/- A walk ends as the course of its definition ends. -/
theorem execute_of_ends
    [Surroundings]
    (hProvides : e.Provides d)
    (trigger : TriggerType)
    {payload : Value}
    (correlationId : Value)
    {ending : Course.Ending}
    (hEnds :
      Course.Ends d payload e.access e.limit.toNat ending) :
    ∃ ns,
      execute d trigger payload correlationId e =
        (ending.outcome (runOf d trigger correlationId)
          e.limit,
          hear ns { e with access := ending.access }) ∧
      Notice.records ns =
        ending.told (runOf d trigger correlationId)
          e.limit := by
  cases hEnds with
  | finished hCourse hLimit =>
      rcases runs_of_course trigger correlationId hProvides
        hCourse with ⟨ns, hRuns, hNs⟩
      have hTake := Walk.take_of_finished hRuns hLimit
      refine ⟨_, execute_of_take hTake, ?_⟩
      rw [← List.singleton_append, Notice.records_append,
        Notice.records_append, hNs]
      rfl
  | @failed path id s failure access hCourse hLimit hDefined
      hPerformed =>
      rcases runs_of_course trigger correlationId hProvides
        hCourse with ⟨ns, hRuns, hNs⟩
      rcases breaks_of_performed trigger correlationId
        hProvides hDefined hPerformed with ⟨ms, hBreaks, hMs⟩
      have hTake :=
        Walk.take_of_broken hRuns hLimit hBreaks
      refine ⟨_, execute_of_take hTake, ?_⟩
      rw [← List.singleton_append, Notice.records_append,
        Notice.records_append, hNs, hMs]
      rfl
  | @exceeded path id access hCourse hLimit =>
      rcases runs_of_course trigger correlationId hProvides
        hCourse with ⟨ns, hRuns, hNs⟩
      have hTake :=
        Walk.take_of_exhausted hRuns Value.noConfusion hLimit
      refine ⟨_, execute_of_take hTake, ?_⟩
      rw [← List.singleton_append, Notice.records_append,
        Notice.records_append, hNs]
      rfl

end Engine

end EventFlow

------------------------------------------------------------
-- Engines With the Built-In Types
------------------------------------------------------------

namespace EventFlow

namespace Engine

variable [Surroundings]

/- A new engine with the built-in types and its own store. -/
def stocked : Engine :=
  (registerBuiltins { access := .contacts {} }).2

theorem stepTypes_stocked :
    stocked.stepTypes =
      Builtin.steps.map fun type =>
        (type.slug, .type type) := rfl

theorem triggerTypes_stocked :
    stocked.triggerTypes =
      Builtin.triggers.map fun type =>
        (type.slug, type) := rfl

omit [Surroundings] in
/- Types under their own slugs are found by them. -/
theorem lookup_slugs
    (types : List StepType)
    (slug : String) :
    (types.map fun type =>
      (type.slug, StepEntry.type type)).lookup slug =
        (types.find? (·.slug == slug)).map .type := by
  induction types with
  | nil => rfl
  | cons type types ih =>
      by_cases hSlug : type.slug = slug
      · simp [hSlug]
      · have hBeq : (slug == type.slug) = false :=
          beq_false_of_ne (Ne.symm hSlug)
        simp [hSlug, List.lookup_cons, hBeq, ih]

/- For a new engine every definition is over built-in types. -/
theorem usesBuiltins_stocked (d : WorkflowDefinition) :
    stocked.UsesBuiltins d := by
  intro entry hEntry
  rw [stepTypes_stocked]
  exact lookup_slugs Builtin.steps entry.2.slug

end Engine

end EventFlow

------------------------------------------------------------
-- The Refinement
------------------------------------------------------------

namespace EventFlow

namespace Engine

/-
  A workflow that was built over the built-in types, and is
  executed while its slugs still stand for them, does what
  the course of its definition says under the limit of the
  engine: it comes to the one ending that the course has,
  yields its outcome, leaves its data access and tells of
  it, and changes nothing else.  There is a result exactly
  when the course ends within the limit; the result then
  lists at least one step, has an outcome for exactly the
  conditions, and the data access is made by exactly the
  actions, in order.
-/
theorem execute_follows_course
    [Surroundings]
    {e₀ e : Engine}
    {d : WorkflowDefinition}
    {w : Workflow}
    (hBuilt : (build d e₀).1 = .ok w)
    (hThen : e₀.UsesBuiltins d)
    (hNow : e.UsesBuiltins d)
    (trigger : TriggerType)
    (payload correlationId : Value) :
    ∃ ending ns,
      Course.Ends d payload e.access e.limit.toNat ending ∧
      (∀ other,
        Course.Ends d payload e.access e.limit.toNat other →
          other = ending) ∧
      execute w.definition trigger payload correlationId e =
        (ending.outcome (runOf d trigger correlationId)
          e.limit,
          hear ns { e with access := ending.access }) ∧
      Notice.records ns =
        ending.told (runOf d trigger correlationId)
          e.limit ∧
      ((∃ r,
        (execute w.definition trigger payload correlationId
          e).1 = .ok r) ↔
        ∃ path access,
          Course d payload (some d.initialStep) e.access
            path none access ∧
          path.length ≤ e.limit.toNat) ∧
      (∀ path access,
        ending = .finished path access →
          path ≠ [] ∧
          (∀ o ∈ path,
            o.met.isSome = Builtin.isCondition o.slug) ∧
          (path.filter (·.met.isNone)).foldlM
            (d.acted payload) e.access = .ok access) := by
  rcases admits_of_build hBuilt with ⟨hAdmits, rfl⟩
  have hClosed := isClosed_of_usesBuiltins hAdmits hThen
  have hProvides := provides_of_admits hAdmits hThen hNow
  rcases Course.exists_ends hClosed payload e.access
    e.limit.toNat with ⟨ending, hEnds⟩
  rcases execute_of_ends hProvides trigger correlationId
    hEnds with ⟨ns, hExecute, hTold⟩
  refine ⟨ending, ns, hEnds, ?_, hExecute, hTold, ?_, ?_⟩
  · intro other hOther
    exact Course.ends_unique hOther hEnds
  · constructor
    · rintro ⟨r, hResult⟩
      have hOutcome :=
        (congrArg Prod.fst hExecute).symm.trans hResult
      cases hEnds with
      | finished hCourse hLimit =>
          exact ⟨_, _, hCourse, hLimit⟩
      | failed _ _ _ _ => cases hOutcome
      | exceeded _ _ => cases hOutcome
    · rintro ⟨path, access, hCourse, hLimit⟩
      have hSame :=
        Course.ends_unique hEnds (.finished hCourse hLimit)
      subst hSame
      exact ⟨_, congrArg Prod.fst hExecute⟩
  · rintro path access rfl
    cases hEnds with
    | finished hCourse hLimit =>
        refine ⟨?_, hCourse.met_isSome, hCourse.acted⟩
        rintro rfl
        cases hCourse

/- Tag the contact of a paid transaction, and log it. -/
def tagPaid : WorkflowDefinition :=
  { id := "tag-paid"
    name := "Tag paid"
    triggers := ["crm/transaction_updated"]
    initialStep := "is-paid"
    steps := [
      ("is-paid",
        { slug := "crm/condition/transaction_field"
          attributes := [
            ("field", .str "status"),
            ("operator", .str "is"),
            ("value", .str "paid")
          ]
          nextStepTrue := some "tag" }),
      ("tag",
        { slug := "crm/add_remove_contact_tag"
          attributes := [
            ("mode", .str "append"),
            ("tags", .str "paid")
          ]
          nextStep := some "log" }),
      ("log",
        { slug := "crm/add_contact_log"
          attributes := [("type", .str "note")] })
    ] }

/- A payload about a transaction of a status. -/
def transaction (status : String) : Value :=
  .object [
    ("id", .int 7),
    ("data", .object [("status", .str status)])
  ]

open scoped Bare in
/- A paid transaction takes the whole course of `tagPaid`. -/
theorem execute_follows_course_tagPaid :
    ∃ path access,
      Course tagPaid (transaction "paid")
        (some tagPaid.initialStep) stocked.access
        path none access ∧
      path.map StepOutcome.stepId =
        ["is-paid", "tag", "log"] ∧
      (execute tagPaid Builtin.transactionUpdated
        (transaction "paid") .null stocked).2.access =
          access := by
  have hBuilt :
      (build tagPaid stocked).1 =
        .ok (stocked.workflowOf tagPaid) := rfl
  rcases execute_follows_course hBuilt
    (usesBuiltins_stocked _) (usesBuiltins_stocked _)
    Builtin.transactionUpdated (transaction "paid") .null with
    ⟨ending, ns, hEnds, -, hExecute, -, -, -⟩
  have hOutcome := congrArg Prod.fst hExecute
  have hAfter := congrArg Prod.snd hExecute
  cases hEnds with
  | @finished path access hCourse hLimit =>
      refine ⟨path, access, hCourse, ?_, ?_⟩
      · cases hOutcome
        rfl
      · exact congrArg Engine.access hAfter
  | failed _ _ _ _ => cases hOutcome
  | exceeded _ _ => cases hOutcome

end Engine

end EventFlow
