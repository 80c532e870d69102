import EventFlow.Proofs.BoundTriggers
import EventFlow.Proofs.ClosedGraph
import EventFlow.Proofs.Registries

/-
  Acceptance in a strict engine holds for good.

  A type that is registered with a strict engine is never
  replaced, neither one of triggers nor one of steps.  What
  such an engine has accepted it accepts at any later time,
  as the same workflow, and every step that any walk of this
  workflow executes is of the type that it was accepted for.
  So no step runs under a trigger that its type excludes.

  Key definitions include:
    * `Engine.Upholds`
    * `Engine.Accepts`

  Key theorems include:
    * `Engine.upholds_of_evolves`
    * `Engine.build_of_upholds`
    * `Engine.accepts_of_runs`
    * `Session.acceptance_holds`
-/

------------------------------------------------------------
-- Upheld Types
------------------------------------------------------------

namespace EventFlow

namespace Engine

/-
  Whether an engine upholds the types of another: each slug
  that has a type there has the same type here.
-/
structure Upholds (e e' : Engine) : Prop where
  steps :
    ∀ slug type,
      e.stepTypes.lookup slug = some (.type type) →
        e'.stepTypes.lookup slug = some (.type type)
  triggers :
    ∀ slug type,
      e.triggerTypes.lookup slug = some type →
        e'.triggerTypes.lookup slug = some type

instance : IsPreorder Engine Upholds where
  refl := fun _ => ⟨fun _ _ h => h, fun _ _ h => h⟩
  trans := fun _ _ _ hFirst hThen =>
    { steps := fun slug type hType =>
        hThen.steps slug type (hFirst.steps slug type hType)
      triggers := fun slug type hType =>
        hThen.triggers slug type
          (hFirst.triggers slug type hType) }

variable {allowed : StepType → Prop}
variable {e e' : Engine}

/- An engine stays as strict as it was made. -/
theorem isStrict_of_change
    (hChange : Change allowed e e') :
    e'.isStrict = e.isStrict := by
  cases hChange <;> rfl

/-
  No single change replaces a type of a strict engine.  The
  strictness is needed for types of steps only.
-/
theorem upholds_of_change
    (hStrict : e.isStrict = true)
    (hChange : Change allowed e e') :
    Upholds e e' := by
  refine ⟨?_, fun _ _ => triggerType_of_change hChange⟩
  cases hChange with
  | stepRegistered slug type notices hAllowed hReplaces =>
      intro other registered hOther
      dsimp only
      by_cases hSame : other = slug
      · subst hSame
        rw [hStrict, hOther] at hReplaces
        rw [Entries.lookup_put_self,
          eq_of_replacing hReplaces]
      · rw [Entries.lookup_put_of_ne hSame]
        exact hOther
  | _ => exact fun _ _ hType => hType

/- A strict engine upholds its types for as long as it is used. -/
theorem upholds_of_evolves
    (hStrict : e.isStrict = true)
    (hEvolves : Evolves allowed e e') :
    e'.isStrict = true ∧ Upholds e e' := by
  induction hEvolves with
  | refl => exact ⟨hStrict, Std.Refl.refl e⟩
  | tail _ hChange ih =>
      rcases ih with ⟨hStill, hUpholds⟩
      refine ⟨(isStrict_of_change hChange).trans hStill, ?_⟩
      exact IsTrans.trans _ _ _ hUpholds
        (upholds_of_change hStill hChange)

end Engine

end EventFlow

------------------------------------------------------------
-- Upheld Acceptance
------------------------------------------------------------

namespace EventFlow

namespace Engine

variable {e e' : Engine}
variable {d : WorkflowDefinition}

/- What is admitted for some types is admitted for them again. -/
theorem admits_of_upholds
    (hAdmits : e.Admits d)
    (hUpholds : Upholds e e') :
    e'.Admits d where
  triggers := by
    intro slug hSlug
    rcases hAdmits.triggers slug hSlug with ⟨type, hType⟩
    exact ⟨type, hUpholds.triggers slug type hType⟩
  initial := hAdmits.initial
  steps := by
    intro entry hEntry
    rcases hAdmits.steps entry hEntry with
      ⟨type, hType, hFits⟩
    exact ⟨type, hUpholds.steps _ type hType, hFits⟩

/- Known slugs of triggers have the types that they had. -/
theorem typesOf_of_upholds
    (hUpholds : Upholds e e')
    {slugs : List String}
    (hKnown :
      ∀ slug ∈ slugs,
        ∃ type, e.triggerTypes.lookup slug = some type) :
    e'.typesOf slugs = e.typesOf slugs := by
  refine List.filterMap_congr fun slug hSlug => ?_
  rcases hKnown slug hSlug with ⟨type, hType⟩
  rw [hType, hUpholds.triggers slug type hType]

/- What was built is built again, into the same workflow. -/
theorem build_of_upholds
    {w : Workflow}
    (hBuilt : (build d e).1 = .ok w)
    (hUpholds : Upholds e e') :
    build d e' = (.ok w, e') := by
  rcases admits_of_build hBuilt with ⟨hAdmits, rfl⟩
  rw [build_of_admits (admits_of_upholds hAdmits hUpholds)]
  unfold workflowOf
  rw [typesOf_of_upholds hUpholds hAdmits.triggers]

/- A value that stands for it is built into it as well. -/
theorem buildValue_of_upholds
    {w : Workflow}
    (hBuilt : (build d e).1 = .ok w)
    (hUpholds : Upholds e e')
    {v : Value}
    (hValue : WorkflowDefinition.ofValue v = .ok d) :
    buildValue v e' = (.ok w, e') :=
  (Act.ofExcept_bind_of_ok hValue build e').trans
    (build_of_upholds hBuilt hUpholds)

end Engine

end EventFlow

------------------------------------------------------------
-- Walks Over Accepted Types
------------------------------------------------------------

namespace EventFlow

namespace Engine

/-
  Whether a type is the one for which an engine accepts a
  step of a definition: it is registered for the slug of the
  step, the step fits it, and it allows every trigger of the
  definition.
-/
structure Accepts
    (e : Engine)
    (d : WorkflowDefinition)
    (id : String)
    (s : StepDefinition)
    (type : StepType) : Prop where
  defined : d.steps.lookup id = some s
  registered :
    e.stepTypes.lookup s.slug = some (.type type)
  fits : Workflow.StepFits d type s
  allows :
    ∀ slug ∈ d.triggers, type.allowsTrigger slug = true

variable {e e' : Engine}
variable {d : WorkflowDefinition}

/- Every step of what is admitted is accepted for a type. -/
theorem exists_accepts
    (hAdmits : e.Admits d)
    {id : String}
    {s : StepDefinition}
    (hDefined : d.steps.lookup id = some s) :
    ∃ type, e.Accepts d id s type := by
  have hMem := WorkflowDefinition.mem_of_lookup hDefined
  rcases hAdmits.steps _ hMem with ⟨type, hType, hFits⟩
  exact ⟨type, hDefined, hType, hFits, hFits.triggers⟩

variable {id : String}
variable {s : StepDefinition}
variable {type : StepType}

variable [Surroundings]

/- A step is executed as one of the type it was accepted for. -/
theorem executeAt_of_accepts
    (hAccepts : e.Accepts d id s type)
    (hUpholds : Upholds e e')
    (trigger : TriggerType)
    (payload correlationId : Value)
    (access : DataAccess) :
    (e'.walkOf d trigger payload correlationId).executeAt
        id s access =
      .ok ((Step.ofDefinition type id s).execute payload
        access) := by
  have hType :=
    hUpholds.steps _ _ hAccepts.registered
  exact executeAt_of_makeStep (makeStep_of_lookup hType id)
    access

/- A move of a walk records a step of its accepted type. -/
theorem accepts_of_moves
    (hAdmits : e.Admits d)
    (hUpholds : Upholds e e')
    {trigger : TriggerType}
    {payload correlationId v v' : Value}
    {access access' : DataAccess}
    {o : StepOutcome}
    {ns : List Notice}
    (hMoves :
      (e'.walkOf d trigger payload correlationId).Moves
        v access o ns v' access') :
    ∃ step type,
      e.Accepts d o.stepId step type ∧
        o.slug = type.slug := by
  cases hMoves with
  | @step id step _ effect next hDefined hEffect _ _ =>
      rcases exists_accepts hAdmits hDefined with
        ⟨type, hAccepts⟩
      rw [executeAt_of_accepts hAccepts hUpholds] at hEffect
      cases hEffect
      refine ⟨step, type, hAccepts, ?_⟩
      exact congrArg StepType.slug
        (Step.type_execute access payload)

/- So does every move of a run. -/
theorem accepts_of_runs
    (hAdmits : e.Admits d)
    (hUpholds : Upholds e e')
    {trigger : TriggerType}
    {payload correlationId v v' : Value}
    {access access' : DataAccess}
    {os : List StepOutcome}
    {ns : List Notice}
    (hRuns :
      (e'.walkOf d trigger payload correlationId).Runs
        v access os ns v' access') :
    ∀ o ∈ os,
      ∃ step type,
        e.Accepts d o.stepId step type ∧
          o.slug = type.slug := by
  exact hRuns.forall_outcomes fun hMoves =>
    accepts_of_moves hAdmits hUpholds hMoves

omit [Surroundings] in
/- The triggers of a workflow have the types of their slugs. -/
theorem registered_of_trigger
    {t : Trigger}
    (hTrigger : t ∈ (e.workflowOf d).triggers) :
    ∃ slug ∈ d.triggers,
      e.triggerTypes.lookup slug = some t.type := by
  rcases List.mem_map.mp hTrigger with ⟨type, hType, rfl⟩
  rcases List.mem_filterMap.mp hType with
    ⟨slug, hSlug, hLookup⟩
  exact ⟨slug, hSlug, hLookup⟩

end Engine

end EventFlow

------------------------------------------------------------
-- Accepted For Good
------------------------------------------------------------

namespace EventFlow

namespace Session

/-
  Consider a session with a strict engine whose handlers
  change the types of steps by registering them only.  A
  workflow that is built there is built again, the same,
  from its definition and from every value that stands for
  it, in every session that is reached from it through any
  registrations, whether they succeed or fail, and any other
  commands.  Wherever a walk of one of its triggers is by
  then, what was executed so far was executed as steps of
  the types that the workflow was accepted for, and so is
  the step that comes next, whether it fails or not.  These
  types allow every trigger of the workflow, the slug of the
  trigger that walks among them.
-/
theorem acceptance_holds
    [Surroundings]
    {s t : Session}
    {d : WorkflowDefinition}
    {w : Workflow}
    (hProper : s.IsProper StepType.IsAny)
    (hStrict : s.engine.isStrict = true)
    (hBuilt : (Engine.build d s.engine).1 = .ok w)
    (hReached : Reached StepType.IsAny s t) :
    Engine.build d t.engine = (.ok w, t.engine) ∧
      (∀ v,
        WorkflowDefinition.ofValue v = .ok d →
          Engine.buildValue v t.engine =
            (.ok w, t.engine)) ∧
      (∀ trigger ∈ w.triggers,
        ∃ slug ∈ d.triggers,
          t.engine.triggerTypes.lookup slug =
            some trigger.type) ∧
      ∀ trigger ∈ w.triggers,
        ∀ payload correlationId os ns v access,
          (t.engine.walkOf d trigger.type payload
            correlationId).Runs
              (.str d.initialStep) t.engine.access
                os ns v access →
          (∀ o ∈ os,
            ∃ step type,
              s.engine.Accepts d o.stepId step type ∧
                o.slug = type.slug) ∧
          ∀ id step,
            (t.engine.walkOf d trigger.type payload
              correlationId).definitionAt v =
                .ok (id, step) →
            ∃ type,
              s.engine.Accepts d id step type ∧
                (t.engine.walkOf d trigger.type payload
                  correlationId).executeAt id step access =
                    .ok ((Step.ofDefinition type id
                      step).execute payload access) := by
  rcases leads_of_reached hReached hProper with ⟨hEvolves, -⟩
  rcases Engine.upholds_of_evolves hStrict hEvolves with
    ⟨-, hUpholds⟩
  have hAgain := Engine.build_of_upholds hBuilt hUpholds
  have hOfValue (v : Value)
      (hValue : WorkflowDefinition.ofValue v = .ok d) :=
    Engine.buildValue_of_upholds hBuilt hUpholds hValue
  rcases Engine.admits_of_build hBuilt with ⟨hAdmits, rfl⟩
  refine ⟨hAgain, hOfValue, ?_, ?_⟩
  · intro trigger hTrigger
    rcases Engine.registered_of_trigger hTrigger with
      ⟨slug, hSlug, hLookup⟩
    exact ⟨slug, hSlug, hUpholds.triggers _ _ hLookup⟩
  · intro trigger hTrigger payload correlationId os ns v
      access hRuns
    refine ⟨Engine.accepts_of_runs hAdmits hUpholds hRuns,
      ?_⟩
    intro id step hAt
    rcases Walk.definitionAt_eq_ok hAt with ⟨-, hDefined⟩
    rcases Engine.exists_accepts hAdmits hDefined with
      ⟨type, hAccepts⟩
    exact ⟨type, hAccepts,
      Engine.executeAt_of_accepts hAccepts hUpholds _ _ _ _⟩

/- A session with a strict engine and the built-in types. -/
def strict
    [Surroundings]
    : Session :=
  settle { engine := { Engine.stocked with isStrict := true } }

/-
  A condition that allows no trigger of `tagPaid` would take
  the place of an action of it.
-/
def rival : StepType :=
  { Builtin.addContactLog with
    name := "Rival"
    allowedTriggers := ["crm/order_updated"] }

/- A new type is registered, and the rival in vain. -/
def rivalry : List Command := [
  .registerStep (.item (.step rival)),
  .registerStep
    (.item (.step { rival with slug := "crm/rival" }))
]

open scoped Bare in
/-
  In a strict session a rival type of steps is refused, and
  what was accepted before is built again, although another
  type was registered in between.
-/
theorem acceptance_holds_rivalry :
    (carryOut (host 0) (.registerStep (.item (.step rival)))
      strict).1.isOk = false ∧
      ((strict.after 0 rivalry).engine.stepTypes.lookup
        "crm/rival").isSome = true ∧
      (Engine.build Engine.tagPaid
        (strict.after 0 rivalry).engine).1 =
          .ok (strict.engine.workflowOf Engine.tagPaid) := by
  have hProper : strict.IsProper StepType.IsAny := by
    intro handler hHandler
    cases hHandler
  have hBuilt :
      (Engine.build Engine.tagPaid strict.engine).1 =
        .ok (strict.engine.workflowOf Engine.tagPaid) := rfl
  have hRivals :
      Command.AreProper StepType.IsAny rivalry :=
    ⟨fun _ _ => True.intro, fun _ _ => True.intro,
      True.intro⟩
  have hReached : Reached StepType.IsAny strict
      (strict.after 0 rivalry) :=
    Reached.here.after 0 hRivals
  have hHolds :=
    acceptance_holds hProper rfl hBuilt hReached
  exact ⟨by decide, by decide, congrArg Prod.fst hHolds.1⟩

end Session

end EventFlow
