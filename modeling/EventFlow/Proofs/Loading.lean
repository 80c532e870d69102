import EventFlow.Engine.Creation
import EventFlow.Engine.Loading
import EventFlow.Proofs.Binding
import EventFlow.Proofs.Checks
import EventFlow.Proofs.DefinitionRoundTrip
import EventFlow.Proofs.Validation
import Mathlib.Data.List.Basic

/-
  Loading is all or nothing.

  A file of definitions is loaded in turns: its entries are
  read, every definition is built, the workflows are placed
  and added, and only then are their triggers bound.  When
  one entry is no definition, or one definition is refused,
  the engine is as it was before.  Otherwise every workflow
  joins the engine in the order of the file, and the bus
  gains what their triggers ask for.

  Key definitions include:
    * `Engine.joined`
    * `Engine.IsReady`
    * `Engine.requestsOf`
    * `Engine.arrivals`
    * `Engine.loaded`

  Key theorems include:
    * `Engine.buildAll_of_admits`
    * `Engine.buildAll_of_refused`
    * `Engine.addAll_eq`
    * `Engine.readies_registerTrigger`
    * `Engine.load_of_admits`
    * `Engine.load_of_refused`
    * `Engine.loadFile_all_or_nothing`
-/

------------------------------------------------------------
-- Entries
------------------------------------------------------------

namespace EventFlow

namespace DefinitionStore

/- Entries fail to be read only as invalid workflows. -/
theorem failure_of_readAll
    {entries : List Value}
    {failure : Failure}
    (hFails : readAll entries = .error failure) :
    ∃ id problems, failure = .workflowInvalid id problems := by
  induction entries with
  | nil => cases hFails
  | cons v vs ih =>
      rw [readAll] at hFails
      cases hFirst : WorkflowDefinition.ofValue v with
      | error reason =>
          rw [hFirst] at hFails
          cases hFails
          rcases WorkflowDefinition.problems_of_ofValue hFirst
            with ⟨id, problems, rfl, -⟩
          exact ⟨id, problems, rfl⟩
      | ok d =>
          rw [hFirst] at hFails
          exact ih (Outcome.map_eq_error hFails)

/- Entries that were read have one definition each. -/
theorem length_of_readAll
    {entries : List Value}
    {ds : List WorkflowDefinition}
    (hRead : readAll entries = .ok ds) :
    ds.length = entries.length := by
  induction entries generalizing ds with
  | nil =>
      cases hRead
      rfl
  | cons v vs ih =>
      rw [readAll] at hRead
      cases hFirst : WorkflowDefinition.ofValue v with
      | error reason =>
          rw [hFirst] at hRead
          cases hRead
      | ok d =>
          rw [hFirst] at hRead
          rcases Outcome.map_eq_ok hRead with
            ⟨rest, hRest, rfl⟩
          rw [List.length_cons, List.length_cons, ih hRest]

end DefinitionStore

end EventFlow

------------------------------------------------------------
-- Building in Order
------------------------------------------------------------

namespace EventFlow

namespace Engine

variable {e : Engine}

/- Definitions that are admitted are all built. -/
theorem buildAll_of_admits
    {ds : List WorkflowDefinition}
    (hAdmits : ∀ d ∈ ds, e.Admits d) :
    buildAll ds e = (.ok (ds.map e.workflowOf), e) := by
  induction ds with
  | nil => rfl
  | cons d ds ih =>
      rw [List.forall_mem_cons] at hAdmits
      rw [buildAll,
        Act.bind_of_ok (build_of_admits hAdmits.1),
        Act.bind_of_ok (ih hAdmits.2)]
      rfl

/-
  If a definition is not admitted, the first such definition
  is refused and told of, and nothing else happens.
-/
theorem buildAll_of_refused
    (hTypes :
      ∀ slug, e.stepTypes.lookup slug ≠ some .stale)
    {ds : List WorkflowDefinition}
    (hRefused : ¬ ∀ d ∈ ds, e.Admits d) :
    ∃ d ∈ ds, ∃ problems,
      e.problems d = .ok problems ∧
      buildAll ds e =
        (.error (rejection d problems),
          hear [rejectionNotice d problems] e) := by
  induction ds with
  | nil => exact absurd (by simp) hRefused
  | cons d ds ih =>
      by_cases hAdmits : e.Admits d
      · have hRest : ¬ ∀ d ∈ ds, e.Admits d := by
          intro hAll
          exact hRefused
            (List.forall_mem_cons.mpr ⟨hAdmits, hAll⟩)
        rcases ih hRest with
          ⟨other, hMem, problems, hProblems, hBuildAll⟩
        refine ⟨other, List.mem_cons_of_mem _ hMem, problems,
          hProblems, ?_⟩
        rw [buildAll,
          Act.bind_of_ok (build_of_admits hAdmits),
          Act.bind_of_error hBuildAll]
      · cases hProblems : e.problems d with
        | error failure =>
            exact absurd hProblems
              (problems_ne_error hTypes failure)
        | ok problems =>
            have hSome : problems ≠ [] := by
              rintro rfl
              exact hAdmits
                (problems_eq_nil_iff.mp hProblems)
            refine ⟨d, List.mem_cons_self, problems,
              hProblems, ?_⟩
            rw [buildAll, Act.bind_of_error
              (build_of_problems hProblems hSome)]

end Engine

end EventFlow

------------------------------------------------------------
-- Joining
------------------------------------------------------------

namespace EventFlow

namespace Engine

variable {e : Engine}

/- An engine that workflows joined, in order. -/
def joined
    (ws : List Workflow)
    (e : Engine) : Engine :=
  { e with
    built := e.built ++ ws
    added :=
      e.added ++ List.range' e.built.length ws.length }

/- To join in turn is to join in order. -/
theorem joined_joined
    (ws others : List Workflow)
    (notices : List Notice) :
    joined others (hear notices (joined ws e)) =
      hear notices (joined (ws ++ others) e) := by
  simp [joined, hear, List.range'_append_1]

/- A workflow that has a place is added at its place. -/
theorem add_eq
    {place : Nat}
    {w : Workflow}
    (hFound : e.workflowAt? place = some w) :
    ∃ ns,
      add place false e =
        (.ok (),
          hear ns
            { e with added := e.added ++ [place] }) := by
  have hKept :
      workflowAt? { e with added := e.added ++ [place] }
        place = some w := hFound
  refine
    ⟨[.workflowAdded w.id w.definition.triggers false], ?_⟩
  rw [add, Act.change_bind, Act.look_bind, hKept]
  rfl

/- Workflows are placed and added in order. -/
theorem addAll_eq (ws : List Workflow) :
    ∃ ns,
      addAll ws e =
        (.ok (List.range' e.built.length ws.length),
          hear ns (e.joined ws)) := by
  induction ws generalizing e with
  | nil =>
      refine ⟨[], ?_⟩
      simp [addAll, joined]
  | cons w ws ih =>
      have hPlace :
          place w e =
            (.ok e.built.length,
              { e with built := e.built ++ [w] }) := rfl
      have hFound :
          workflowAt? { e with built := e.built ++ [w] }
            e.built.length = some w := by
        simp [workflowAt?]
      rcases add_eq hFound with ⟨ns, hAdd⟩
      rcases ih (e := hear ns (e.joined [w])) with
        ⟨ms, hRest⟩
      have hLength :
          (hear ns (e.joined [w])).built.length =
            e.built.length + 1 := by
        simp [hear, joined]
      rw [hLength, joined_joined, hear_hear] at hRest
      refine ⟨ns ++ ms, ?_⟩
      rw [addAll, Act.bind_of_ok hPlace,
        Act.bind_of_ok hAdd]
      exact Act.bind_of_ok hRest

end Engine

end EventFlow

------------------------------------------------------------
-- Ready Engines
------------------------------------------------------------

namespace EventFlow

namespace Engine

/-
  Whether an engine is as its own acts leave it: what was
  added has a place, only types are registered for steps,
  and no registered trigger hears a blank event.
-/
structure IsReady (e : Engine) : Prop where
  places : ∀ place ∈ e.added, place < e.built.length
  types : ∀ slug, e.stepTypes.lookup slug ≠ some .stale
  triggers :
    ∀ slug type,
      e.triggerTypes.lookup slug = some type →
        type.IsAudible

variable {e : Engine}

/- A new engine is ready. -/
theorem isReady_of_make
    {limit : Int}
    {isStrict : Bool}
    {access : DataAccess}
    (hMade : make limit isStrict access = .ok e) :
    e.IsReady := by
  rw [make] at hMade
  split at hMade
  · cases hMade
  · cases hMade
    exact {
      places := by simp
      types := by simp
      triggers := by simp
    }

/- Whether an engine stays ready. -/
def Readies (e e' : Engine) : Prop :=
  e.IsReady → e'.IsReady

instance : IsPreorder Engine Readies where
  refl := fun _ => id
  trans := fun _ _ _ hFirst hSecond hReady =>
    hSecond (hFirst hReady)

/- The registered types of slugs can be heard. -/
theorem IsReady.isAudible_of_mem
    (hReady : e.IsReady)
    {slugs : List String}
    {type : TriggerType}
    (hMem : type ∈ e.typesOf slugs) :
    type.IsAudible := by
  rcases List.mem_filterMap.mp hMem with
    ⟨slug, -, hType⟩
  exact hReady.triggers slug type hType

/- The workflow of a definition can be heard. -/
theorem IsReady.isAudible_workflowOf
    (hReady : e.IsReady)
    (d : WorkflowDefinition) :
    (e.workflowOf d).IsAudible := by
  intro t hTrigger
  rcases List.mem_map.mp hTrigger with ⟨type, hType, rfl⟩
  exact hReady.isAudible_of_mem hType

variable [Surroundings]

/- To register a type of triggers that can be heard. -/
theorem readies_registerTrigger
    {i : Identifier}
    (hAudible :
      ∀ type, i.trigger = .ok type → type.IsAudible) :
    (registerTrigger i).Keeps Readies := by
  refine .bind_ensured (P := TriggerType.IsAudible) ?_
    (.ofExcept _) ?_
  · intro e type e' hType
    exact hAudible type (congrArg Prod.fst hType)
  intro type hType
  refine .bind (.ofExcept _) fun slug => ?_
  intro e hReady
  unfold putTriggerType
  rw [Act.look_bind]
  split
  · exact hReady
  · refine ⟨hReady.places, hReady.types, ?_⟩
    intro other found hFound
    by_cases hSame : other = slug
    · subst hSame
      rcases Option.some.inj
        ((Entries.lookup_put_self ..).symm.trans hFound)
      exact hType
    · refine hReady.triggers other found ?_
      exact (Entries.lookup_put_of_ne hSame ..).symm.trans
        hFound

/- To register a type of steps, whichever it is. -/
theorem readies_registerStep (i : Identifier) :
    (registerStep i).Keeps Readies := by
  refine .bind (.ofExcept _) fun type => ?_
  refine .bind (.ofExcept _) fun slug => ?_
  intro e hReady
  unfold putStepType
  rw [Act.look_bind, Act.look_bind]
  cases replacing e.isStrict slug type
      (e.stepTypes.lookup slug) with
  | error failure => exact hReady
  | ok notices =>
      refine ⟨hReady.places, ?_, hReady.triggers⟩
      intro other hStale
      by_cases hSame : other = slug
      · subst hSame
        cases (Entries.lookup_put_self ..).symm.trans hStale
      · refine hReady.types other ?_
        exact (Entries.lookup_put_of_ne hSame ..).symm.trans
          hStale

end Engine

end EventFlow

------------------------------------------------------------
-- Loaded Engines
------------------------------------------------------------

namespace EventFlow

namespace Engine

variable {e : Engine}

/-
  What definitions ask for when the first of them is built
  into the workflow at a place: the triggers of those that
  are active, in order.
-/
def requestsOf
    (e : Engine)
    (place : Nat)
    (ds : List WorkflowDefinition) : List Bus.Request :=
  (ds.zipIdx place).flatMap fun (d, place) =>
    if d.active then
      (e.typesOf d.triggers).zipIdx.flatMap
        fun (type, index) => type.requests place index
    else
      []

/- The workflows that definitions are loaded as. -/
def arrivals
    (shouldInit : Bool)
    (ds : List WorkflowDefinition)
    (e : Engine) : List Workflow :=
  if shouldInit then
    Workflow.boundFrom e.bus.issued e.built.length
      (ds.map e.workflowOf)
  else
    ds.map e.workflowOf

/- An engine that loaded definitions. -/
def loaded
    (shouldInit : Bool)
    (ds : List WorkflowDefinition)
    (e : Engine) : Engine :=
  { e with
    bus :=
      if shouldInit then
        e.bus.extended (e.requestsOf e.built.length ds)
      else
        e.bus
    built := e.built ++ e.arrivals shouldInit ds
    added :=
      e.added ++ List.range' e.built.length ds.length }

/- What built workflows ask for is read off definitions. -/
theorem requestsFrom_map_workflowOf
    (place : Nat)
    (ds : List WorkflowDefinition) :
    Workflow.requestsFrom place (ds.map e.workflowOf) =
      e.requestsOf place ds := by
  have hTriggers (d : WorkflowDefinition) (place : Nat) :
      Trigger.requestsFrom place 0 (e.workflowOf d).triggers =
        (e.typesOf d.triggers).zipIdx.flatMap
          fun (type, index) => type.requests place index := by
    simp [Trigger.requestsFrom, workflowOf, List.zipIdx_map,
      List.flatMap_map]
  simp only [Workflow.requestsFrom, requestsOf,
    List.zipIdx_map, List.flatMap_map, Prod.map,
    Workflow.requests, hTriggers]
  rfl

theorem map_definition_arrivals
    (shouldInit : Bool)
    (ds : List WorkflowDefinition) :
    (e.arrivals shouldInit ds).map Workflow.definition =
      ds := by
  have hBuilt :
      (ds.map e.workflowOf).map Workflow.definition = ds := by
    simp [Function.comp_def, workflowOf]
  cases shouldInit with
  | false => exact hBuilt
  | true =>
      rw [arrivals, if_pos rfl,
        Workflow.map_definition_boundFrom, hBuilt]

theorem length_arrivals
    (shouldInit : Bool)
    (ds : List WorkflowDefinition) :
    (e.arrivals shouldInit ds).length = ds.length := by
  have hSame := map_definition_arrivals (e := e) shouldInit ds
  simpa using congrArg List.length hSame

/- The places behind others hold what is behind them. -/
theorem filterMap_range'_append
    (before ws : List Workflow) :
    (List.range' before.length ws.length).filterMap
        (fun place => (before ++ ws)[place]?) = ws := by
  induction ws generalizing before with
  | nil => rfl
  | cons w ws ih =>
      have hFirst :
          (before ++ w :: ws)[before.length]? = some w := by
        simp
      have hRest := ih (before ++ [w])
      rw [List.length_append, List.append_assoc] at hRest
      rw [List.length_cons, List.range'_succ,
        List.filterMap_cons_some hFirst]
      exact congrArg (w :: ·) hRest

/- The workflows that were added before stay in front. -/
theorem workflows_loaded
    (hReady : e.IsReady)
    (shouldInit : Bool)
    (ds : List WorkflowDefinition) :
    (e.loaded shouldInit ds).workflows =
      e.workflows ++ e.arrivals shouldInit ds := by
  have hOld :
      e.added.filterMap
          (e.loaded shouldInit ds).workflowAt? =
        e.workflows := by
    refine List.filterMap_congr fun place hPlace => ?_
    exact List.getElem?_append_left
      (hReady.places place hPlace)
  have hNew :=
    filterMap_range'_append e.built (e.arrivals shouldInit ds)
  rw [length_arrivals] at hNew
  refine (List.filterMap_append ..).trans ?_
  rw [hOld]
  exact congrArg (e.workflows ++ ·) hNew

/- An engine that loaded definitions is ready for more. -/
theorem isReady_loaded
    (hReady : e.IsReady)
    (shouldInit : Bool)
    (ds : List WorkflowDefinition) :
    (e.loaded shouldInit ds).IsReady where
  places := by
    intro place hPlace
    rw [loaded, List.mem_append, List.mem_range'_1] at hPlace
    rw [loaded, List.length_append, length_arrivals]
    rcases hPlace with hOld | hNew
    · exact Nat.lt_add_right _ (hReady.places place hOld)
    · exact hNew.2
  types := hReady.types
  triggers := hReady.triggers

/- Triggers of types ask for the events of the types. -/
theorem map_event_requests
    (types : List TriggerType)
    (place : Nat) :
    (types.zipIdx.flatMap fun (type, index) =>
        type.requests place index).map Bus.Request.event =
      types.flatMap TriggerType.events := by
  have hEvents (type : TriggerType) (index : Nat) :
      (type.requests place index).map Bus.Request.event =
        type.events := by
    simp [TriggerType.requests, Function.comp_def]
  have hTypes : types.zipIdx.map Prod.fst = types :=
    List.zipIdx_map_fst 0 types
  calc (types.zipIdx.flatMap fun (type, index) =>
          type.requests place index).map Bus.Request.event
    _ = types.zipIdx.flatMap fun entry =>
          entry.1.events := by
        simp only [List.map_flatMap, hEvents]
    _ = (types.zipIdx.map Prod.fst).flatMap
          TriggerType.events := (List.flatMap_map ..).symm
    _ = types.flatMap TriggerType.events := by
        rw [hTypes]

/-
  The events that are asked for are those that the listed
  triggers of the active definitions hear, in order.
-/
theorem map_event_requestsOf
    (place : Nat)
    (ds : List WorkflowDefinition) :
    (e.requestsOf place ds).map Bus.Request.event =
      (ds.filter (·.active)).flatMap fun d =>
        (e.typesOf d.triggers).flatMap
          TriggerType.events := by
  induction ds generalizing place with
  | nil => rfl
  | cons d ds ih =>
      have hRest := ih (place + 1)
      unfold requestsOf at hRest ⊢
      rw [List.zipIdx_cons, List.flatMap_cons,
        List.map_append, hRest]
      by_cases hActive : d.active
      · rw [List.filter_cons_of_pos hActive,
          List.flatMap_cons, ← map_event_requests _ place]
        simp [hActive]
      · rw [List.filter_cons_of_neg hActive]
        simp [hActive]

/- Whether no registered trigger hears more than its event. -/
def IsPlain (e : Engine) : Prop :=
  ∀ slug type,
    e.triggerTypes.lookup slug = some type →
      type.alsoHears = []

/- A trigger that hears its event alone asks once. -/
theorem map_listener_requests
    (hPlain : e.IsPlain)
    {slugs : List String}
    (hKnown :
      ∀ slug ∈ slugs,
        ∃ type, e.triggerTypes.lookup slug = some type)
    (place : Nat) :
    ((e.typesOf slugs).zipIdx.flatMap
        fun (type, index) => type.requests place index).map
        Bus.Request.listener =
      (List.range slugs.length).map
        (Listener.trigger place) := by
  have hOnce :
      ∀ entry ∈ (e.typesOf slugs).zipIdx,
        (entry.1.requests place entry.2).map
            Bus.Request.listener =
          [.trigger place entry.2] := by
    intro entry hEntry
    have hType := List.fst_mem_of_mem_zipIdx hEntry
    rcases List.mem_filterMap.mp hType with
      ⟨slug, -, hFound⟩
    have hAlone := hPlain slug entry.1 hFound
    simp [TriggerType.requests, TriggerType.events, hAlone]
  have hIndices :
      (e.typesOf slugs).zipIdx.map Prod.snd =
        List.range slugs.length := by
    rw [List.zipIdx_map_snd, length_typesOf hKnown,
      List.range_eq_range']
  rw [List.map_flatMap, List.flatMap_congr hOnce,
    ← hIndices, List.map_map]
  exact List.flatMap_pure_eq_map _ _

/-
  When triggers hear their own events alone, every trigger
  that an active definition lists asks once, in order.
-/
theorem map_listener_requestsOf
    (hPlain : e.IsPlain)
    (place : Nat)
    {ds : List WorkflowDefinition}
    (hAdmits : ∀ d ∈ ds, e.Admits d) :
    (e.requestsOf place ds).map Bus.Request.listener =
      (ds.zipIdx place).flatMap fun (d, place) =>
        if d.active then
          (List.range d.triggers.length).map
            (Listener.trigger place)
        else
          [] := by
  rw [requestsOf, List.map_flatMap]
  refine List.flatMap_congr fun entry hEntry => ?_
  have hMem := List.fst_mem_of_mem_zipIdx hEntry
  dsimp only
  split
  · exact map_listener_requests hPlain
      (hAdmits entry.1 hMem).triggers entry.2
  · rfl

/- Workflows that joined an engine are bound if asked. -/
theorem initAll_joined
    (hReady : e.IsReady)
    (ds : List WorkflowDefinition)
    (notices : List Notice) :
    ∃ ns,
      initAll (List.range' e.built.length ds.length)
          (hear notices (e.joined (ds.map e.workflowOf))) =
        (.ok (), hear ns (e.loaded true ds)) := by
  have hAudible :
      ∀ w ∈ ds.map e.workflowOf, w.IsAudible := by
    intro w hMem
    rcases List.mem_map.mp hMem with ⟨d, -, rfl⟩
    exact hReady.isAudible_workflowOf d
  rcases initAll_eq
    (e := hear notices (e.joined (ds.map e.workflowOf)))
    e.built rfl hAudible with ⟨ns, hInit⟩
  refine ⟨notices ++ ns, ?_⟩
  rw [List.length_map, requestsFrom_map_workflowOf] at hInit
  rw [← hear_hear]
  refine hInit.trans ?_
  simp [joined, hear, bound, loaded, arrivals]

/- Definitions that are admitted are loaded. -/
theorem load_of_admits
    (hReady : e.IsReady)
    {entries : List Value}
    {ds : List WorkflowDefinition}
    (hRead : DefinitionStore.readAll entries = .ok ds)
    (hAdmits : ∀ d ∈ ds, e.Admits d)
    (path : Path)
    (shouldInit : Bool) :
    ∃ ns,
      load entries path shouldInit e =
        (.ok entries.length,
          hear ns (e.loaded shouldInit ds)) := by
  have hEntries :
      Act.ofExcept (DefinitionStore.readAll entries) e =
        (.ok ds, e) := congrArg (·, e) hRead
  rcases addAll_eq (e := e) (ds.map e.workflowOf) with
    ⟨ns, hAddAll⟩
  rw [List.length_map] at hAddAll
  rw [← DefinitionStore.length_of_readAll hRead, load,
    Act.bind_of_ok hEntries,
    Act.bind_of_ok (buildAll_of_admits hAdmits),
    Act.bind_of_ok hAddAll, List.length_map]
  cases shouldInit with
  | false =>
      refine ⟨ns ++
        [.workflowsLoaded path.text ds.length false], ?_⟩
      rw [← hear_hear]
      simp [joined, loaded, arrivals, tell]
  | true =>
      rcases initAll_joined hReady ds ns with ⟨ms, hInit⟩
      refine ⟨ms ++
        [.workflowsLoaded path.text ds.length true], ?_⟩
      rw [← hear_hear]
      exact Act.bind_of_ok hInit

/- A value or a definition that is bad leaves the engine. -/
theorem load_of_refused
    (hReady : e.IsReady)
    {entries : List Value}
    (hRefused :
      ¬ ∃ ds,
        DefinitionStore.readAll entries = .ok ds ∧
        ∀ d ∈ ds, e.Admits d)
    (path : Path)
    (shouldInit : Bool) :
    ∃ id problems ns,
      load entries path shouldInit e =
        (.error (.workflowInvalid id problems),
          hear ns e) := by
  cases hRead : DefinitionStore.readAll entries with
  | error failure =>
      rcases DefinitionStore.failure_of_readAll hRead with
        ⟨id, problems, rfl⟩
      refine ⟨id, problems, [], ?_⟩
      rw [hear_nil]
      exact Act.bind_of_error (congrArg (·, e) hRead)
  | ok ds =>
      have hSome : ¬ ∀ d ∈ ds, e.Admits d := by
        intro hAll
        exact hRefused ⟨ds, hRead, hAll⟩
      rcases buildAll_of_refused hReady.types hSome with
        ⟨d, -, problems, -, hBuildAll⟩
      refine ⟨d.id, problems.map Workflow.Problem.text,
        [rejectionNotice d problems], ?_⟩
      refine (Act.bind_of_ok (congrArg (·, e) hRead)).trans ?_
      exact Act.bind_of_error hBuildAll

/- What was told does not matter for being ready. -/
theorem isReady_hear
    (hReady : e.IsReady)
    (notices : List Notice) :
    (hear notices e).IsReady :=
  ⟨hReady.places, hReady.types, hReady.triggers⟩

/- What was told does not matter for what is admitted. -/
theorem admits_hear_iff
    (notices : List Notice)
    (d : WorkflowDefinition) :
    (hear notices e).Admits d ↔ e.Admits d :=
  ⟨fun hAdmits => ⟨hAdmits.triggers, hAdmits.initial,
      hAdmits.steps⟩,
    fun hAdmits => ⟨hAdmits.triggers, hAdmits.initial,
      hAdmits.steps⟩⟩

section

variable [Surroundings]

/- The entries of a file are told with a complaint at most. -/
theorem entriesOf_eq
    {files : Files}
    {path : Path}
    {listing : DefinitionStore.Listing}
    (hListing :
      DefinitionStore.entries files path = .ok listing) :
    ∃ ns,
      entriesOf files path e =
        (.ok listing.entries, hear ns e) :=
  ⟨_, Act.bind_of_ok (congrArg (·, e) hListing)⟩

/- A file of definitions that are admitted is loaded. -/
theorem loadFile_of_admits
    {files : Files}
    {path : Path}
    {listing : DefinitionStore.Listing}
    (hListing :
      DefinitionStore.entries files path = .ok listing)
    (hReady : e.IsReady)
    {ds : List WorkflowDefinition}
    (hRead :
      DefinitionStore.readAll listing.entries = .ok ds)
    (hAdmits : ∀ d ∈ ds, e.Admits d)
    (shouldInit : Bool) :
    ∃ ns,
      loadFile files path shouldInit e =
        (.ok listing.entries.length,
          hear ns (e.loaded shouldInit ds)) := by
  rcases entriesOf_eq (e := e) hListing with ⟨ns, hEntries⟩
  have hHeard : ∀ d ∈ ds, (hear ns e).Admits d := by
    intro d hMem
    exact (admits_hear_iff ns d).mpr (hAdmits d hMem)
  rcases load_of_admits (isReady_hear hReady ns) hRead
    hHeard path shouldInit with ⟨ms, hLoad⟩
  refine ⟨ns ++ ms, ?_⟩
  rw [← hear_hear]
  exact (Act.bind_of_ok hEntries).trans hLoad

/- A file with a bad entry leaves the engine. -/
theorem loadFile_of_refused
    {files : Files}
    {path : Path}
    {listing : DefinitionStore.Listing}
    (hListing :
      DefinitionStore.entries files path = .ok listing)
    (hReady : e.IsReady)
    (hRefused :
      ¬ ∃ ds,
        DefinitionStore.readAll listing.entries = .ok ds ∧
        ∀ d ∈ ds, e.Admits d)
    (shouldInit : Bool) :
    ∃ id problems ns,
      loadFile files path shouldInit e =
        (.error (.workflowInvalid id problems),
          hear ns e) := by
  rcases entriesOf_eq (e := e) hListing with ⟨ns, hEntries⟩
  rcases load_of_refused (isReady_hear hReady ns)
    (by simpa only [admits_hear_iff] using hRefused) path
    shouldInit with ⟨id, problems, ms, hLoad⟩
  refine ⟨id, problems, ns ++ ms, ?_⟩
  rw [← hear_hear]
  exact (Act.bind_of_ok hEntries).trans hLoad

/-
  To load a file whose entries can be read is all or
  nothing.  If every entry is a definition that the engine
  admits, their number is told, and nothing changes but
  this: the workflows of the definitions follow the old ones
  in the order of the file, and if they are to be bound, the
  bus gains one subscription to each event of each trigger
  that an active definition lists, in order.  This is one
  for each listed trigger when triggers hear their own
  events alone.  Otherwise the file is refused as an invalid
  workflow, and nothing changes but what is told.
-/
theorem loadFile_all_or_nothing
    {files : Files}
    {path : Path}
    {listing : DefinitionStore.Listing}
    (hListing :
      DefinitionStore.entries files path = .ok listing)
    {e : Engine}
    (hReady : e.IsReady)
    (shouldInit : Bool) :
    (∀ ds,
      DefinitionStore.readAll listing.entries = .ok ds →
      (∀ d ∈ ds, e.Admits d) →
        (∃ ns,
          loadFile files path shouldInit e =
            (.ok listing.entries.length,
              hear ns (e.loaded shouldInit ds))) ∧
        (∃ ws,
          (e.loaded shouldInit ds).workflows =
              e.workflows ++ ws ∧
            ws.map Workflow.definition = ds) ∧
        (e.loaded false ds).bus = e.bus ∧
        ∃ gained,
          (e.loaded true ds).bus.live =
              e.bus.live ++ gained ∧
            gained.map Subscription.event =
              ((ds.filter (·.active)).flatMap fun d =>
                (e.typesOf d.triggers).flatMap
                  TriggerType.events) ∧
            (e.IsPlain →
              gained.map Subscription.listener =
                (ds.zipIdx e.built.length).flatMap
                  fun (d, place) =>
                    if d.active then
                      (List.range d.triggers.length).map
                        (Listener.trigger place)
                    else
                      [])) ∧
    ((¬ ∃ ds,
      DefinitionStore.readAll listing.entries = .ok ds ∧
      ∀ d ∈ ds, e.Admits d) →
        ∃ id problems ns,
          loadFile files path shouldInit e =
            (.error (.workflowInvalid id problems),
              hear ns e)) := by
  constructor
  · intro ds hRead hAdmits
    refine ⟨?_, ?_, rfl, ?_⟩
    · exact loadFile_of_admits hListing hReady hRead hAdmits
        shouldInit
    · exact ⟨_, workflows_loaded hReady shouldInit ds,
        map_definition_arrivals shouldInit ds⟩
    · refine ⟨Bus.numbered e.bus.issued
        (e.requestsOf e.built.length ds), rfl, ?_, ?_⟩
      · rw [Bus.map_event_numbered]
        exact map_event_requestsOf e.built.length ds
      · intro hPlain
        rw [Bus.map_listener_numbered]
        exact map_listener_requestsOf hPlain _ hAdmits
  · intro hRefused
    exact loadFile_of_refused hListing hReady hRefused
      shouldInit

end

/- Where a file of definitions is. -/
def shelf : Path :=
  { root := "", parts := ["workflows.json"] }

/- The text of a file with one definition. -/
def shelvedText : String :=
  "[\x7b\"id\":\"w\",\"name\":\"W\",\"triggers\":[\"t\"]," ++
    "\"initial_step\":\"s\",\"steps\":" ++
    "\x7b\"s\":\x7b\"slug\":\"s\"\x7d\x7d\x7d]"

/- A file with one definition. -/
def shelved : Files := [
  (["workflows.json"],
    .file (shelvedText.toList.map fun c =>
      UInt8.ofNat c.toNat))
]

/- An engine whose triggers hear more than their event. -/
def hearing (alsoHears : List String) : Engine :=
  { triggerTypes := [
      ("t",
        { name := "T"
          slug := "t"
          event := "first"
          alsoHears := alsoHears })
    ]
    stepTypes := [
      ("s",
        .type
          { Builtin.addContactLog with
            slug := "s"
            requiredAttributes := [] })
    ] }

/- The one type of triggers of the engine. -/
theorem lookup_hearing
    {alsoHears : List String}
    {slug : String}
    {type : TriggerType}
    (hType :
      (hearing alsoHears).triggerTypes.lookup slug =
        some type) :
    type.events = "first" :: alsoHears := by
  have hMem := Entries.mem_of_lookup hType
  rcases List.mem_singleton.mp hMem with ⟨-⟩
  rfl

theorem isReady_hearing
    {alsoHears : List String}
    (hEvents :
      ∀ event ∈ alsoHears, ¬ Text.isBlankText event) :
    (hearing alsoHears).IsReady where
  places := by simp [hearing]
  types := by
    intro slug
    cases hSlug : slug == "s" <;>
      simp [hearing, List.lookup_cons, hSlug]
  triggers := by
    intro slug type hType
    rw [TriggerType.IsAudible, lookup_hearing hType,
      List.forall_mem_cons]
    exact ⟨by decide, hEvents⟩

/- A definition of one step, with triggers. -/
def stackable
    (id : String)
    (active : Bool)
    (triggers : List String) : WorkflowDefinition :=
  { id := id
    name := "W"
    active := active
    triggers := triggers
    initialStep := "s"
    steps := [("s", { slug := "s" })] }

/- Three definitions, the second one inactive. -/
def stack : List WorkflowDefinition := [
  stackable "u" true ["t", "r"],
  stackable "v" false ["t"],
  stackable "w" true ["r"]
]

/- A file with the three definitions. -/
def stacked : Files := [
  (["workflows.json"],
    .file (Utf8.encode (DefinitionStore.render stack)))
]

/- An engine with two types of triggers, both plain. -/
def hearingEach : Engine :=
  { hearing [] with
    triggerTypes := [
      ("t", { name := "T", slug := "t", event := "first" }),
      ("r", { name := "R", slug := "r", event := "second" })
    ] }

/- A type of triggers of the engine is one of the two. -/
theorem lookup_hearingEach
    {slug : String}
    {type : TriggerType}
    (hType :
      hearingEach.triggerTypes.lookup slug = some type) :
    type.events = ["first"] ∨ type.events = ["second"] := by
  have hMem := Entries.mem_of_lookup hType
  simp only [hearingEach, List.mem_cons, Prod.mk.injEq,
    List.not_mem_nil, or_false] at hMem
  rcases hMem with ⟨-, rfl⟩ | ⟨-, rfl⟩
  · exact .inl rfl
  · exact .inr rfl

theorem isReady_hearingEach : hearingEach.IsReady where
  places := by simp [hearingEach, hearing]
  types := by
    have hOther : (hearing []).IsReady :=
      isReady_hearing (List.forall_mem_nil _)
    exact hOther.types
  triggers := by
    intro slug type hType
    rcases lookup_hearingEach hType with hEvents | hEvents
    · rw [TriggerType.IsAudible, hEvents]
      decide
    · rw [TriggerType.IsAudible, hEvents]
      decide

open scoped Bare in
/-
  Of three definitions the two active ones are bound, each of
  their triggers once, in the order of the file.
-/
theorem loadFile_all_or_nothing_shelved :
    ∃ ns gained,
      loadFile stacked shelf true hearingEach =
        (.ok 3, hear ns (hearingEach.loaded true stack)) ∧
      (hearingEach.loaded true stack).bus.live = gained ∧
      gained.map Subscription.event =
        ["first", "second", "second"] ∧
      gained.map Subscription.listener =
        [.trigger 0 0, .trigger 0 1, .trigger 2 0] := by
  have hKeepable : ∀ d ∈ stack, d.IsKeepable := by
    have hAll
        (id : String)
        (active : Bool)
        {triggers : List String}
        (hTriggers : triggers ≠ []) :
        (stackable id active triggers).IsKeepable :=
      { triggers := hTriggers
        ids := List.nodup_singleton _
        steps := List.forall_mem_singleton.mpr
          ⟨List.nodup_nil, trivial⟩ }
    simp only [stack, List.forall_mem_cons]
    exact ⟨hAll _ _ (by decide), hAll _ _ (by decide),
      hAll _ _ (by decide), List.forall_mem_nil _⟩
  have hListing :
      DefinitionStore.entries stacked shelf =
        .ok (.of (stack.map WorkflowDefinition.stored)) :=
    DefinitionStore.entries_of_write (by decide) hKeepable
      (by decide) (rfl : Files.write [] shelf _ = .ok stacked)
  have hPlain : hearingEach.IsPlain := by
    intro slug type hType
    rcases lookup_hearingEach hType with hEvents | hEvents
    · exact (List.cons.inj hEvents).2
    · exact (List.cons.inj hEvents).2
  rcases (loadFile_all_or_nothing hListing
    isReady_hearingEach true).1 stack
    (DefinitionStore.readAll_stored hKeepable) (by decide) with
    ⟨⟨ns, hLoad⟩, -, -, gained, hLive, hEvents, hListeners⟩
  exact ⟨ns, gained, hLoad, hLive, hEvents,
    hListeners hPlain⟩

open scoped Bare in
/-
  A trigger that hears two events is listed once, and begins
  two subscriptions.
-/
theorem loadFile_subscribes_twice :
    (hearing ["second"]).IsReady ∧
      (loadFile shelved shelf true
        (hearing ["second"])).1.toOption = some 1 ∧
      ((loadFile shelved shelf true
        (hearing ["second"])).2.workflows.map fun w =>
          (w.definition.active, w.definition.triggers)) =
        [(true, ["t"])] ∧
      (loadFile shelved shelf true
        (hearing ["second"])).2.bus.live.map
          Subscription.event = ["first", "second"] :=
  ⟨isReady_hearing (by decide), by decide +kernel⟩

end Engine

end EventFlow
