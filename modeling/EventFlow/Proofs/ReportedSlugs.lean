import EventFlow.Proofs.Identifiers
import EventFlow.Proofs.Siblings
import EventFlow.Proofs.Trimming

/-
  The slugs that types, results and steps are reported by.

  A type is registered under its slug without the blanks
  around it, and definitions and lookups use that slug.  A
  type that describes itself, the result of a run and the
  record of a step tell the slug as the type has it.  So
  what is told is the slug of a definition, but for blanks
  around it, and it is that slug exactly when the type's is
  bare.

  Key definitions include:
    * `Text.Tells`
    * `Engine.registered?`
    * `Engine.Lists`
    * `Engine.KeepsSlugs`
    * `ExecutionResult.Reports`

  Key theorems include:
    * `Engine.registered?_of_act`
    * `Engine.keepsSlugs_of_used`
    * `Engine.reports_of_fire`
    * `Session.reports_of_dispatch`
    * `Session.slugs_are_told`
-/

------------------------------------------------------------
-- Told Slugs
------------------------------------------------------------

namespace EventFlow

namespace Text

/-
  Whether a text that is told stands for a slug: it is the
  slug but for blanks around it, and the slug itself exactly
  when it is bare.
-/
structure Tells (told slug : String) : Prop where
  trimmed : trim told = slug
  same : told = slug ↔ IsBare told

/- A text stands for what it is when it is trimmed. -/
theorem tells_trim (told : String) :
    Tells told (trim told) where
  trimmed := rfl
  same := eq_comm.trans trim_eq_self_iff

end Text

namespace Item

/- What a type tells as its slug when it describes itself. -/
def told? : Item → Option Value
| .trigger type => type.describe.lookup "slug"
| .step type => type.describe.lookup "slug"
| _ => none

/- A type tells its slug as it is written. -/
theorem told?_of_slug?
    {role : Role}
    {i : Item}
    {written : String}
    (hWritten : i.slug? role = some written) :
    i.told? = some (.str written) := by
  cases role <;> cases i <;> cases hWritten <;> rfl

end Item

/- What is registered for a step's slug, if it is a type. -/
def StepEntry.item? : StepEntry → Option Item
| .type t => some (.step t)
| .stale => none

namespace Engine

/- The type of a role that is registered for a slug. -/
def registered? (e : Engine) : Role → String → Option Item
| .trigger, slug => (e.triggerTypes.lookup slug).map .trigger
| .step, slug =>
    (e.stepTypes.lookup slug).bind StepEntry.item?

variable {e e' : Engine}
variable {slug : String}

theorem registered?_trigger_iff {type : TriggerType} :
    e.registered? .trigger slug = some (.trigger type) ↔
      e.triggerTypes.lookup slug = some type := by
  simp [registered?]

theorem registered?_step_iff {type : StepType} :
    e.registered? .step slug = some (.step type) ↔
      e.stepTypes.lookup slug = some (.type type) := by
  rw [registered?, Option.bind_eq_some_iff]
  constructor
  · rintro ⟨entry, hEntry, hItem⟩
    cases entry with
    | type other =>
        cases hItem
        exact hEntry
    | stale => cases hItem
  · intro hEntry
    exact ⟨.type type, hEntry, rfl⟩

end Engine

end EventFlow

------------------------------------------------------------
-- Registered Types
------------------------------------------------------------

namespace EventFlow

namespace Engine

variable {e e' : Engine}

/-
  A call that succeeds registers the type that it identifies
  under the slug of that type without the blanks around it,
  and no other type under any slug.
-/
theorem registered?_of_registers
    [Surroundings]
    {call : Registration}
    {slug : String}
    (hRegisters : Registers e call (.ok slug) e') :
    ∃ item written,
      call.identifier.resolve = .ok (some item) ∧
      item.slug? call.role = some written ∧
      slugOf call.role written = .ok slug ∧
      e'.registered? call.role slug = some item ∧
      ∀ role other,
        ¬ (role = call.role ∧ other = slug) →
          e'.registered? role other =
            e.registered? role other := by
  cases hRegisters with
  | @trigger i type slug hType hSlug hFree =>
      refine ⟨.trigger type, type.slug,
        resolve_of_trigger hType, rfl, hSlug, ?_, ?_⟩
      · exact registered?_trigger_iff.mpr
          (Entries.lookup_put_self slug type e.triggerTypes)
      · intro role other hOther
        cases role with
        | step => rfl
        | trigger =>
            have hNe : other ≠ slug :=
              fun hSame => hOther ⟨rfl, hSame⟩
            exact congrArg (Option.map Item.trigger)
              (Entries.lookup_put_of_ne hNe type
                e.triggerTypes)
  | @step i type slug notices hType hSlug hReplaces =>
      refine ⟨.step type, type.slug, resolve_of_step hType,
        rfl, hSlug, ?_, ?_⟩
      · exact registered?_step_iff.mpr
          (Entries.lookup_put_self slug
            (StepEntry.type type) e.stepTypes)
      · intro role other hOther
        cases role with
        | trigger => rfl
        | step =>
            have hNe : other ≠ slug :=
              fun hSame => hOther ⟨rfl, hSame⟩
            exact congrArg (Option.bind · StepEntry.item?)
              (Entries.lookup_put_of_ne hNe
                (StepEntry.type type) e.stepTypes)

/- Whether every registered type is under its own slug. -/
def KeepsTypes (e : Engine) : Prop :=
  ∀ role slug item,
    e.registered? role slug = some item →
      ∃ written,
        item.slug? role = some written ∧
          slugOf role written = .ok slug

/- Types that are not changed stay under their slugs. -/
theorem registered?_of_types
    (hTriggers : e'.triggerTypes = e.triggerTypes)
    (hSteps : e'.stepTypes = e.stepTypes) :
    e'.registered? = e.registered? := by
  funext role slug
  cases role <;> simp only [registered?, hTriggers, hSteps]

/- No call registers a type under another slug. -/
theorem keepsTypes_of_registers
    [Surroundings]
    {call : Registration}
    {outcome : Except Failure String}
    (hRegisters : Registers e call outcome e')
    (hKeeps : e.KeepsTypes) :
    e'.KeepsTypes := by
  cases outcome with
  | error failure =>
      cases hRegisters
      exact hKeeps
  | ok slug =>
      rcases registered?_of_registers hRegisters with
        ⟨item, written, -, hWritten, hSlug, hNew, hOld⟩
      intro role other registered hRegistered
      by_cases hSame : role = call.role ∧ other = slug
      · rcases hSame with ⟨rfl, rfl⟩
        rw [hNew] at hRegistered
        cases hRegistered
        exact ⟨written, hWritten, hSlug⟩
      · rw [hOld role other hSame] at hRegistered
        exact hKeeps role other registered hRegistered

end Engine

end EventFlow

------------------------------------------------------------
-- Listed Workflows
------------------------------------------------------------

namespace EventFlow

namespace Engine

/-
  Whether the triggers of a workflow have the types that are
  registered for the slugs that its definition lists.
-/
def Lists
    (e : Engine)
    (w : Workflow) : Prop :=
  List.Forall₂
    (fun type slug => e.triggerTypes.lookup slug = some type)
    (w.triggers.map Trigger.type) w.definition.triggers

variable {p : Policy}
variable {e e' : Engine}
variable {w w' : Workflow}

/- A workflow lists the types that it is built with. -/
theorem lists_of_makes
    (hMakes : e.Makes w) :
    e.Lists w := by
  rcases hMakes with ⟨d, hAdmits, rfl⟩
  have hTypes :
      (e.workflowOf d).triggers.map Trigger.type =
        e.typesOf d.triggers := by
    rw [workflowOf, List.map_map]
    exact List.map_id _
  rw [Lists, hTypes]
  change List.Forall₂ _ (e.typesOf d.triggers) d.triggers
  have hKnown := hAdmits.triggers
  generalize d.triggers = slugs at hKnown
  induction slugs with
  | nil => exact .nil
  | cons slug slugs ih =>
      rw [List.forall_mem_cons] at hKnown
      rcases hKnown with ⟨⟨type, hType⟩, hRest⟩
      have hFirst :
          e.typesOf (slug :: slugs) =
            type :: e.typesOf slugs :=
        List.filterMap_cons_some hType
      rw [hFirst]
      exact .cons hType (ih hRest)

/- To bind triggers changes nothing about what is listed. -/
theorem Lists.of_becomes
    (hLists : e.Lists w)
    (hBecomes : w.Becomes w') :
    e.Lists w' := by
  rw [Lists, hBecomes.types, hBecomes.definition]
  exact hLists

/- What is listed stays registered. -/
theorem Lists.of_used
    [Surroundings]
    (hLists : e.Lists w)
    (hUsed : Used p e e') :
    e'.Lists w := by
  refine List.Forall₂.imp ?_ hLists
  intro type slug hType
  exact triggerType_of_evolves
    (evolves_of_lives (lives_of_used hUsed)) hType

/- The trigger at an index has the type that is listed there. -/
theorem Lists.exists_of_trigger
    (hLists : e.Lists w)
    {index : Nat}
    {t : Trigger}
    (hTrigger : w.triggers[index]? = some t) :
    ∃ slug,
      w.definition.triggers[index]? = some slug ∧
        e.triggerTypes.lookup slug = some t.type := by
  have hType :
      (w.triggers.map Trigger.type)[index]? =
        some t.type := by
    rw [List.getElem?_map, hTrigger]
    rfl
  rcases List.getElem?_eq_some_iff.mp hType with
    ⟨hLt, hAt⟩
  have hLt' : index < w.definition.triggers.length := by
    rw [← hLists.length_eq]
    exact hLt
  have hListed := hLists.get hLt hLt'
  refine ⟨w.definition.triggers[index],
    List.getElem?_eq_getElem hLt', ?_⟩
  rw [← hAt]
  exact hListed

end Engine

end EventFlow

------------------------------------------------------------
-- Kept Slugs
------------------------------------------------------------

namespace EventFlow

namespace Engine

/-
  Whether an engine keeps slugs: its types are under their
  own slugs, and its workflows list the types that they
  have.
-/
structure KeepsSlugs (e : Engine) : Prop where
  types : e.KeepsTypes
  built : ∀ w ∈ e.built, e.Lists w

variable {p : Policy}
variable {e e' : Engine}

/- An engine that was just made keeps slugs. -/
theorem IsMade.keepsSlugs
    (hMade : e.IsMade) :
    e.KeepsSlugs := by
  rw [hMade.eq]
  constructor
  · intro role slug item hRegistered
    cases role <;> cases hRegistered
  · intro w hNone
    cases hNone

/- No single use makes an engine lose a slug. -/
theorem keepsSlugs_of_use
    [Surroundings]
    (hUse : Use p e e')
    (hKeeps : e.KeepsSlugs) :
    e'.KeepsSlugs := by
  constructor
  · rcases types_of_use hUse with
      ⟨call, outcome, hRegisters⟩ | ⟨hTriggers, hSteps⟩
    · exact keepsTypes_of_registers hRegisters hKeeps.types
    · rw [KeepsTypes, registered?_of_types hTriggers hSteps]
      exact hKeeps.types
  · intro w' hMem
    have hListed : e.Lists w' := by
      rcases makes_or_becomes_of_use hUse hMem with
        hMakes | ⟨w, hBefore, hBecomes⟩
      · exact lists_of_makes hMakes
      · exact (hKeeps.built w hBefore).of_becomes hBecomes
    exact hListed.of_used hUse.used

/- An engine keeps slugs for as long as it is used. -/
theorem keepsSlugs_of_used
    [Surroundings]
    (hUsed : Used p e e')
    (hKeeps : e.KeepsSlugs) :
    e'.KeepsSlugs := by
  induction hUsed with
  | refl => exact hKeeps
  | tail _ hUse ih => exact keepsSlugs_of_use hUse ih

end Engine

end EventFlow

------------------------------------------------------------
-- Results
------------------------------------------------------------

namespace EventFlow

/-
  Whether a result tells the slugs of a workflow whose
  trigger at an index was fired: its trigger is told as the
  type that the definition lists there tells it, and so is
  every step as the type that the definition gives it.
-/
structure ExecutionResult.Reports
    (e : Engine)
    (w : Workflow)
    (index : Nat)
    (r : ExecutionResult) : Prop where
  workflow : r.workflowId = w.id
  trigger :
    ∃ slug type,
      w.definition.triggers[index]? = some slug ∧
      e.registered? .trigger slug = some (.trigger type) ∧
      r.trigger = type.slug ∧
      Text.Tells r.trigger slug
  steps :
    ∀ o ∈ r.steps,
      ∃ step type,
        w.definition.steps.lookup o.stepId = some step ∧
        e.registered? .step step.slug = some (.step type) ∧
        o.slug = type.slug ∧
        Text.Tells o.slug step.slug

namespace Engine

variable {e e' : Engine}
variable {d : WorkflowDefinition}
variable {trigger : TriggerType}
variable {payload correlationId : Value}

/- A type tells the slug that it is registered under. -/
theorem KeepsSlugs.tells
    (hKeeps : e.KeepsSlugs)
    {role : Role}
    {slug written : String}
    {item : Item}
    (hRegistered : e.registered? role slug = some item)
    (hWritten : item.slug? role = some written) :
    Text.Tells written slug := by
  rcases hKeeps.types role slug item hRegistered with
    ⟨other, hOther, hSlug⟩
  rw [hWritten] at hOther
  cases hOther
  rw [(slugOf_eq_ok_iff.mp hSlug).1]
  exact Text.tells_trim written

/- A text that stands for another slug is not registered. -/
theorem KeepsSlugs.unknown_of_ne
    (hKeeps : e.KeepsSlugs)
    {role : Role}
    {told slug : String}
    (hTells : Text.Tells told slug)
    (hNe : told ≠ slug) :
    e.registered? role told = none := by
  rw [Option.eq_none_iff_forall_ne_some]
  intro item hRegistered
  rcases hKeeps.types role told item hRegistered with
    ⟨written, -, hSlug⟩
  have hBare : Text.IsBare told := by
    rw [(slugOf_eq_ok_iff.mp hSlug).1]
    exact Text.isBare_trim written
  exact hNe (hTells.same.mpr hBare)

variable [Surroundings]

/- A move records a step by the slug of its type. -/
theorem told_of_moves
    {v v' : Value}
    {access access' : DataAccess}
    {o : StepOutcome}
    {ns : List Notice}
    (hMoves :
      (e.walkOf d trigger payload correlationId).Moves
        v access o ns v' access') :
    ∃ step type,
      d.steps.lookup o.stepId = some step ∧
        e.stepTypes.lookup step.slug = some (.type type) ∧
          o.slug = type.slug := by
  cases hMoves with
  | @step id s _ effect next hDefined hEffect _ _ =>
      rcases Outcome.map_eq_ok hEffect with
        ⟨step, hMade, rfl⟩
      refine ⟨s, step.type, hDefined,
        (lookup_of_makeStep hMade).1, ?_⟩
      exact congrArg StepType.slug
        (Step.type_execute access payload)

/- What a run comes to is told by the slugs of its types. -/
theorem told_of_execute
    {r : ExecutionResult}
    (hRan :
      execute d trigger payload correlationId e =
        (.ok r, e')) :
    r.workflowId = d.id ∧
      r.trigger = trigger.slug ∧
        ∀ o ∈ r.steps,
          ∃ step type,
            d.steps.lookup o.stepId = some step ∧
            e.stepTypes.lookup step.slug =
              some (.type type) ∧
            o.slug = type.slug := by
  rw [execute_of_take rfl] at hRan
  rcases Outcome.map_eq_ok (congrArg Prod.fst hRan) with
    ⟨os, hTaken, rfl⟩
  rcases Walk.runs_of_take hTaken with
    ⟨ns, access', hRuns⟩
  exact ⟨rfl, rfl, hRuns.forall_outcomes told_of_moves⟩

/-
  What the firing of a trigger comes to tells the slugs of
  the workflow at its place.
-/
theorem reports_of_fire
    (hKeeps : e.KeepsSlugs)
    {deeds : List Deed}
    (hAccords : e.Accords deeds)
    {place index : Nat}
    {r : ExecutionResult}
    (hFire :
      fire place index payload correlationId e =
        (.ok r, e')) :
    ∃ w, e.workflowAt? place = some w ∧ r.Reports e w index := by
  cases hTrigger : e.triggerAt? place index with
  | none =>
      rw [fire_of_absent hTrigger] at hFire
      cases hFire
  | some t =>
      by_cases hBound : t.isBound
      · rcases Option.bind_eq_some_iff.mp hTrigger with
          ⟨w, hWorkflow, hAt⟩
        have hOwner :=
          (hAccords.triggers place index t hTrigger).owned
            hBound
        rw [fire_of_bound hWorkflow hAt hOwner hBound]
          at hFire
        rcases told_of_execute hFire with
          ⟨hId, hToldTrigger, hToldSteps⟩
        have hListed :=
          hKeeps.built w (List.mem_of_getElem? hWorkflow)
        rcases hListed.exists_of_trigger hAt with
          ⟨slug, hSlug, hType⟩
        have hRegistered := registered?_trigger_iff.mpr hType
        refine ⟨w, hWorkflow, hId,
          ⟨slug, t.type, hSlug, hRegistered, hToldTrigger,
            ?_⟩, ?_⟩
        · rw [hToldTrigger]
          exact hKeeps.tells hRegistered rfl
        · intro o hMem
          rcases hToldSteps o hMem with
            ⟨step, type, hDefined, hEntry, hTold⟩
          have hStep := registered?_step_iff.mpr hEntry
          refine ⟨step, type, hDefined, hStep, hTold, ?_⟩
          rw [hTold]
          exact hKeeps.tells hStep rfl
      · rw [fire_of_unbound hTrigger hBound] at hFire
        cases hFire

end Engine

end EventFlow

------------------------------------------------------------
-- Deliveries
------------------------------------------------------------

namespace EventFlow

namespace Session

variable {s t : Session}
variable {depth : Nat}
variable {event : String}
variable {payload correlationId : Value}

variable [Surroundings]

/- Whatever a handler comes to, it is not a run. -/
theorem callHandler_ensures
    (h : Host Session)
    (handler : Handler)
    (payload correlationId : Value) :
    (callHandler h handler payload correlationId).Ensures
      fun delivery => ∃ v, delivery = .value v := by
  intro s delivery t hCalled
  cases handler with
  | mk label commands raises echoes returns =>
      rcases Act.bind_eq_ok hCalled with
        ⟨-, s₁, -, hCarried⟩
      rcases Act.bind_eq_ok hCarried with ⟨-, s₂, -, hLast⟩
      cases raises with
      | none =>
          cases hLast
          exact ⟨_, rfl⟩
      | some raised => cases hLast

/- A run that a host serves is that of a fired trigger. -/
theorem fire_of_serve
    {listener : Listener}
    {run : ExecutionResult}
    (hServed :
      ((host depth).serve listener payload correlationId
        s).1 = .ok (.run run)) :
    ∃ place index e,
      listener = .trigger place index ∧
        Engine.fire place index payload correlationId
            s.engine = (.ok run, e) := by
  cases depth with
  | zero => cases hServed
  | succ depth =>
      cases listener with
      | trigger place index =>
          rw [serve_trigger] at hServed
          rcases Outcome.map_eq_ok hServed with
            ⟨other, hFire, hSame⟩
          cases hSame
          exact ⟨place, index, _, rfl, Prod.ext hFire rfl⟩
      | handler number =>
          change (serve (host depth) (.handler number) payload
            correlationId s).1 = _ at hServed
          rw [serve, Act.look_bind] at hServed
          cases hHandler : s.handlers[number]? with
          | none =>
              rw [hHandler] at hServed
              cases hServed
          | some handler =>
              rw [hHandler] at hServed
              rcases callHandler_ensures _ _ _ _
                (Prod.ext hServed rfl) with ⟨v, hValue⟩
              cases hValue

/- A run among the results of a dispatch is one of a call. -/
theorem exists_of_mem_runs
    {result : DispatchResult}
    (hDispatch :
      (host depth).dispatch event payload correlationId s =
        (.ok result, t))
    {run : ExecutionResult}
    (hRun : run ∈ result.runs) :
    ∃ call ∈
        (host depth).callsOf event payload correlationId s,
      call.outcome = .ok (.run run) := by
  rcases List.mem_filterMap.mp hRun with
    ⟨delivery, hDelivery, hIs⟩
  cases delivery with
  | value v => cases hIs
  | run other =>
      cases hIs
      rw [Host.results_of_dispatch hDispatch] at hDelivery
      rcases List.mem_filterMap.mp hDelivery with
        ⟨call, hCall, hResult⟩
      refine ⟨call, hCall, ?_⟩
      rw [Served.result?] at hResult
      cases hOutcome : call.outcome with
      | error failure =>
          rw [hOutcome] at hResult
          cases hResult
      | ok delivery =>
          rw [hOutcome] at hResult
          cases hResult
          rfl

/-
  Every run of a dispatch is that of a subscriber, and tells
  the slugs of the workflow of that subscriber.
-/
theorem reports_of_dispatch
    {allowed : StepType → Prop}
    (hSound :
      ∀ u, Reached allowed s u →
        u.engine.KeepsSlugs ∧
          ∃ deeds, u.engine.Accords deeds)
    {result : DispatchResult}
    (hDispatch :
      (host depth).dispatch event payload correlationId s =
        (.ok result, t))
    {run : ExecutionResult}
    (hRun : run ∈ result.runs) :
    ∃ place index u w,
      .trigger place index ∈
          (s.engine.bus.subscribers event).map
            Subscription.listener ∧
        Reached allowed s u ∧
        u.engine.workflowAt? place = some w ∧
        run.Reports u.engine w index := by
  rcases exists_of_mem_runs hDispatch hRun with
    ⟨call, hCall, hOutcome⟩
  rcases Host.request_of_mem_callsOf hCall with
    ⟨sub, hLive, hRequest⟩
  have hListener : sub.listener = call.listener :=
    congrArg Prod.fst hRequest.symm
  rcases Host.served_of_mem_callsOf (P := Reached allowed s)
      (fun listener payload correlationId u hBefore =>
        hBefore.hosted depth listener payload correlationId)
      (fun notice u hBefore => hBefore.told depth notice)
      .here hCall with
    ⟨u, hReached, hServed⟩
  rw [hOutcome] at hServed
  rcases fire_of_serve hServed with
    ⟨place, index, e, hTrigger, hFire⟩
  rcases hSound u hReached with ⟨hKeeps, deeds, hAccords⟩
  rcases Engine.reports_of_fire hKeeps hAccords hFire with
    ⟨w, hWorkflow, hReports⟩
  refine ⟨place, index, u, w, ?_, hReached, hWorkflow,
    hReports⟩
  rw [← hTrigger, ← hListener]
  have hSame : (host depth).engine s = s.engine := by
    cases depth <;> rfl
  rw [hSame] at hLive
  exact List.mem_map_of_mem hLive

end Session

end EventFlow

------------------------------------------------------------
-- Reports
------------------------------------------------------------

namespace EventFlow

namespace Session

/-
  Consider any point of a session that was opened.  A call
  that succeeds registers a type under a slug that the type
  tells as its own, but for blanks around it.  Every type
  that is registered by then tells the slug it is under that
  way; if it tells another text, no type of its role is
  registered under that.  What the firing of a trigger comes
  to, and every run among the results of a dispatch, tells
  the slugs that the definition of its workflow gives the
  trigger and the steps, but for blanks around them.  All of
  this is told exactly where the slug of the type is bare.
-/
theorem slugs_are_told
    [Surroundings]
    {r : EngineRequest}
    {env : List (String × String)}
    {files : Files}
    {level? : Option Value}
    {opened s : Session}
    (hOpened : start r env files level? = .ok opened)
    (hReached : Reached StepType.IsAny opened s) :
    (∀ (call : Registration) slug e,
      call.act s.engine = (.ok slug, e) →
        ∃ item told,
          call.identifier.resolve = .ok (some item) ∧
          e.registered? call.role slug = some item ∧
          item.told? = some (.str told) ∧
          Text.Tells told slug ∧
          slug ≠ "") ∧
    (∀ role slug item,
      s.engine.registered? role slug = some item →
        ∃ told,
          item.told? = some (.str told) ∧
          Text.Tells told slug ∧
          (told ≠ slug →
            s.engine.registered? role told = none)) ∧
    (∀ place index payload correlationId result e,
      Engine.fire place index payload correlationId
          s.engine = (.ok result, e) →
        ∃ w,
          s.engine.workflowAt? place = some w ∧
            result.Reports s.engine w index) ∧
    ∀ depth event payload correlationId result t,
      (host depth).dispatch event payload correlationId s =
          (.ok result, t) →
        ∀ run ∈ result.runs,
          ∃ place index u w,
            .trigger place index ∈
                (s.engine.bus.subscribers event).map
                  Subscription.listener ∧
              Reached StepType.IsAny s u ∧
              u.engine.workflowAt? place = some w ∧
              run.Reports u.engine w index := by
  have hBuiltins :
      (Engine.Policy.only StepType.IsAny).PermitsBuiltins :=
    Engine.Policy.permitsBuiltins_only fun _ _ => trivial
  rcases start_used hBuiltins hOpened with
    ⟨hOpen, e₀, hMade, hFrom⟩
  rcases proceeds_of_reached hReached hOpen with
    ⟨hUntil, hPermitted⟩
  have hSound :
      ∀ u, Reached StepType.IsAny s u →
        u.engine.KeepsSlugs ∧
          ∃ deeds, u.engine.Accords deeds := by
    intro u hSince
    have hUsed := (hFrom.trans hUntil).trans
      (proceeds_of_reached hSince hPermitted).1
    rcases Engine.lives_of_used hUsed with
      ⟨deeds, hChronicle⟩
    exact ⟨Engine.keepsSlugs_of_used hUsed hMade.keepsSlugs,
      deeds,
      Engine.accords_of_chronicle hMade.built_eq hChronicle⟩
  rcases hSound s .here with ⟨hKeeps, deeds, hAccords⟩
  refine ⟨?_, ?_, ?_, ?_⟩
  · intro call slug e hCalled
    have hRegisters :=
      Engine.registers_act (e := s.engine) call
    rw [hCalled] at hRegisters
    rcases Engine.registered?_of_registers hRegisters with
      ⟨item, written, hItem, hWritten, hSlug, hNew, -⟩
    rcases Engine.slugOf_eq_ok_iff.mp hSlug with
      ⟨rfl, hSome⟩
    exact ⟨item, written, hItem, hNew,
      Item.told?_of_slug? hWritten,
      Text.tells_trim written, hSome⟩
  · intro role slug item hRegistered
    rcases hKeeps.types role slug item hRegistered with
      ⟨written, hWritten, hSlug⟩
    have hTells := hKeeps.tells hRegistered hWritten
    exact ⟨written, Item.told?_of_slug? hWritten, hTells,
      hKeeps.unknown_of_ne hTells⟩
  · intro place index payload correlationId result e hFire
    exact Engine.reports_of_fire hKeeps hAccords hFire
  · intro depth event payload correlationId result t
      hDispatch run hRun
    exact reports_of_dispatch hSound hDispatch hRun

/- A type of triggers whose slug has blanks around it. -/
def padded : TriggerType :=
  { name := "Padded"
    slug := " \u3000notes/taken\n"
    event := "note_taken" }

/- A type of steps whose slug has blanks around it. -/
def paddedLog : StepType :=
  { Builtin.addContactLog with
    name := "PaddedLog"
    slug := "  notes/log " }

/- A definition that lists types by their trimmed slugs. -/
def minutes : Value :=
  .object [
    ("id", .str "minutes"),
    ("name", .str "Minutes"),
    ("triggers", .list [.str "notes/taken"]),
    ("initial_step", .str "log"),
    ("steps",
      .object [
        ("log",
          .object [
            ("slug", .str "notes/log"),
            ("attributes", .object [("type", .str "note")])
          ])
      ])
  ]

/- Both types are registered, and a workflow uses them. -/
def meeting : List Command := [
  .registerTrigger (.item (.trigger padded)),
  .registerStep (.item (.step paddedLog)),
  .add minutes true none
]

/- A new session after the meeting. -/
def minuted
    [Surroundings]
    : Session :=
  furnished.after 1 meeting

open scoped Bare in
/-
  The one run of an event tells the slugs of the definition
  but for the blanks, and no definition can use what the
  type of its trigger tells.
-/
theorem slugs_are_told_minuted :
    start {} [] [] none = .ok furnished ∧
      Reached StepType.IsAny furnished minuted ∧
      (∃ told,
        (Item.trigger padded).told? = some (.str told) ∧
        Text.Tells told "notes/taken" ∧
        minuted.engine.registered? .trigger told = none) ∧
      ∃ result t run,
        (host 1).dispatch "note_taken" newcomer .null
            minuted = (.ok result, t) ∧
          result.runs = [run] ∧
          ∃ (index : Nat) (u : Session) (w : Workflow),
            u.engine.workflowAt? 0 = some w ∧
              run.Reports u.engine w index := by
  have hOpened : start {} [] [] none = .ok furnished := rfl
  have hReached : Reached StepType.IsAny furnished minuted := by
    refine .after .here 1 ⟨trivial, ?_, trivial, trivial⟩
    exact fun _ _ => trivial
  have hSeen :
      minuted.engine.registered? .trigger "notes/taken" =
          some (.trigger padded) ∧
        (minuted.engine.bus.subscribers "note_taken").map
            Subscription.listener =
          [.trigger 0 0] ∧
        ((host 1).dispatch "note_taken" newcomer .null
          minuted).1.toOption.map (·.runs.length) =
            some 1 := by
    decide +kernel
  rcases hSeen with ⟨hRegistered, hLive, hTold⟩
  rcases slugs_are_told hOpened hReached with
    ⟨-, hTypes, -, hRuns⟩
  refine ⟨hOpened, hReached, ?_, ?_⟩
  · rcases hTypes .trigger _ _ hRegistered with
      ⟨told, hSlug, hTells, hUnknown⟩
    refine ⟨told, hSlug, hTells, hUnknown ?_⟩
    rintro rfl
    have hSame := Value.str.inj (Option.some.inj hSlug)
    revert hSame
    decide
  · rcases hDispatch :
        (host 1).dispatch "note_taken" newcomer .null minuted
      with ⟨outcome, t⟩
    rw [hDispatch] at hTold
    cases outcome with
    | error failure => cases hTold
    | ok result =>
        have hLength : result.runs.length = 1 :=
          Option.some.inj hTold
        rcases List.length_eq_one_iff.mp hLength with
          ⟨run, hRun⟩
        rcases hRuns 1 _ _ _ result t hDispatch run
            (by rw [hRun]; exact List.mem_singleton_self run)
          with ⟨place, index, u, w, hListener, -, hAt,
            hReports⟩
        rw [hLive, List.mem_singleton] at hListener
        cases hListener
        exact ⟨result, t, run, rfl, hRun, 0, u, w, hAt,
          hReports⟩

open scoped Bare in
/-
  Both types tell their slugs with the blanks.  They are
  accepted under the trimmed slugs, which the definition
  uses, but the result of a run tells the blanks as well, of
  its trigger and of its step.
-/
theorem padded_slugs_are_told :
    (Item.trigger padded).told? =
        some (.str " \u3000notes/taken\n") ∧
      (Item.step paddedLog).told? =
        some (.str "  notes/log ") ∧
      (Engine.registerTrigger (.item (.trigger padded))
        furnished.engine).1.toOption = some "notes/taken" ∧
      (Engine.registerStep (.item (.step paddedLog))
        furnished.engine).1.toOption = some "notes/log" ∧
      minuted.engine.registered? .trigger "notes/taken" =
        some (.trigger padded) ∧
      minuted.engine.registered? .step "notes/log" =
        some (.step paddedLog) ∧
      (minuted.engine.workflowAt? 0).map (fun w =>
          (w.definition.triggers,
            w.definition.steps.map fun (id, s) =>
              (id, s.slug))) =
        some (["notes/taken"], [("log", "notes/log")]) ∧
      ((host 1).dispatch "note_taken" newcomer .null
          minuted).1.toOption.map (fun result =>
            result.runs.map fun run =>
              (run.trigger,
                run.steps.map fun o => (o.stepId, o.slug))) =
        some [
          (" \u3000notes/taken\n",
            [("log", "  notes/log ")])] := by
  refine ⟨rfl, rfl, ?_⟩
  decide +kernel

end Session

end EventFlow
