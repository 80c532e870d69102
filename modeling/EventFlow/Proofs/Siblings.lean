import EventFlow.Proofs.Ordinary

/-
  Workflows that hear the same event.

  What a workflow comes to in a dispatch is what it comes to
  alone, in a new engine with an empty store.  Neither the
  others that hear the event, whether they fail or not, nor
  what was dispatched before has a part in it.  So an event
  that is dispatched again has the same result.

  Key definitions include:
    * `Engine.fresh`
    * `Engine.loneRun`
    * `Engine.YieldsAlone`
    * `Subscription.IsOfTrigger`

  Key theorems include:
    * `Host.request_of_mem_callsOf`
    * `Engine.isBound_of_subscriber`
    * `Engine.execute_of_isOrdinary`
    * `Session.outcome_of_call`
    * `Session.workflows_run_as_alone`
-/

------------------------------------------------------------
-- Requests of Calls
------------------------------------------------------------

namespace EventFlow

namespace Host

variable {σ : Type}
variable {h : Host σ}
variable {event : String}
variable {payload correlationId : Value}
variable {s : σ}

/- What a subscriber is called with. -/
def requestOf
    (payload correlationId : Value)
    (sub : Subscription) : Listener × Value × Value :=
  (sub.listener, payload, correlationId)

/-
  A delivery calls subscribers in order, each with what is
  delivered, up to one that asks to stop.
-/
theorem exists_requests_deliver
    (event : String)
    (payload correlationId : Value)
    (subscriptions : List Subscription)
    (s : σ)
    (noted : List Served) :
    ∃ delivered t calls,
      h.watched.deliver event payload correlationId
          subscriptions (s, noted) =
        (delivered, (t, noted ++ calls)) ∧
      calls.map Served.request <+:
        subscriptions.map
          (requestOf payload correlationId) := by
  induction subscriptions generalizing s noted with
  | nil =>
      refine ⟨.ok ([], []), s, [], ?_, List.nil_prefix⟩
      rw [List.append_nil]
      rfl
  | cons sub rest ih =>
      cases hServed :
          h.serve sub.listener payload correlationId s with
      | mk outcome t =>
      let call : Served :=
        ⟨sub.listener, payload, correlationId, outcome⟩
      have hWatched := watched_serve hServed noted
      by_cases hCall : call.IsCaught
      · rcases ih (h.behind event correlationId sub outcome t)
          (noted ++ [call]) with
          ⟨delivered, u, calls, hRest, hRequests⟩
        have hRun := deliver_cons hWatched hCall event rest
        dsimp only at hRun
        rw [behind_watched, hRest, List.append_assoc] at hRun
        refine ⟨_, u, call :: calls, hRun, ?_⟩
        rw [List.map_cons, List.map_cons]
        exact List.cons_prefix_cons.mpr ⟨rfl, hRequests⟩
      · have hStops := hCall
        simp only [Served.IsCaught, not_forall,
          not_not] at hStops
        rcases hStops with ⟨failure, hFailure, hInterrupt⟩
        cases hFailure
        refine ⟨_, t, [call],
          deliver_of_interrupt hWatched hInterrupt, ?_⟩
        rw [List.map_cons, List.map_cons]
        exact List.cons_prefix_cons.mpr
          ⟨rfl, List.nil_prefix⟩

/-
  The calls of a dispatch are those of the subscribers in
  order, up to one that asks to stop.
-/
theorem requests_callsOf
    (h : Host σ)
    (event : String)
    (payload correlationId : Value)
    (s : σ) :
    (h.callsOf event payload correlationId s).map
        Served.request <+:
      ((h.engine s).bus.subscribers event).map
        (requestOf payload correlationId) := by
  rcases exists_requests_deliver (h := h) event payload
      correlationId ((h.engine s).bus.subscribers event) s []
    with ⟨delivered, t, calls, hWatched, hRequests⟩
  rw [List.nil_append] at hWatched
  rw [callsOf_of_deliver hWatched]
  exact hRequests

/- A dispatch calls those only that hear the event. -/
theorem request_of_mem_callsOf
    {call : Served}
    (hCall :
      call ∈ h.callsOf event payload correlationId s) :
    ∃ sub ∈ (h.engine s).bus.subscribers event,
      call.request =
        (sub.listener, payload, correlationId) := by
  have hMem :=
    (h.requests_callsOf event payload correlationId
      s).subset (List.mem_map_of_mem hCall)
  rcases List.mem_map.mp hMem with ⟨sub, hSub, hRequest⟩
  exact ⟨sub, hSub, hRequest.symm⟩

end Host

end EventFlow

------------------------------------------------------------
-- Workflows That Stay
------------------------------------------------------------

namespace EventFlow

namespace Engine

variable {allowed : StepType → Prop}
variable {e e' : Engine}
variable {deeds : List Deed}

/- A turn leaves every workflow at its place. -/
theorem workflowAt?_of_turn
    (hTurn : Turn allowed e deeds e')
    {place : Nat}
    {w : Workflow}
    (hFound : e.workflowAt? place = some w) :
    ∃ w',
      e'.workflowAt? place = some w' ∧ w.Becomes w' := by
  cases hTurn with
  | quiet hChange hBus hBuilt =>
      rcases hBuilt with ⟨ws, -, hBuilt⟩
      exact ⟨w, workflowAt?_append hBuilt hFound, .refl w⟩
  | subscribed event number s bus hBegan =>
      exact ⟨w, hFound, .refl w⟩
  | unsubscribed s => exact ⟨w, hFound, .refl w⟩
  | attempted place' index u t hWorkflow hActive hTrigger =>
      rcases bindTrigger_deeds e place' index t.type with
        ⟨isDone, ns, -, hEngine, -⟩
      rw [hEngine]
      by_cases hPlace : place' = place
      · subst hPlace
        exact ⟨_, workflowAt?_withTrigger hFound index _,
          w.becomes_changeTrigger index fun t =>
            t.attempted_type _ _ _⟩
      · refine ⟨w, ?_, .refl w⟩
        refine Eq.trans ?_ hFound
        exact List.getElem?_modify_ne _ _ hPlace

/- So does whatever an engine lives through. -/
theorem workflowAt?_of_lives
    (hLives : Lives allowed e e')
    {place : Nat}
    {w : Workflow}
    (hFound : e.workflowAt? place = some w) :
    ∃ w',
      e'.workflowAt? place = some w' ∧ w.Becomes w' := by
  rcases hLives with ⟨deeds, hChronicle⟩
  induction hChronicle with
  | here => exact ⟨w, hFound, .refl w⟩
  | turned hBefore hTurn ih =>
      rcases ih with ⟨w', hUntil, hBecomes⟩
      rcases workflowAt?_of_turn hTurn hUntil with
        ⟨w'', hAfter, hThen⟩
      exact ⟨w'', hAfter, hBecomes.trans hThen⟩

/- Every trigger stays at its place, with its type. -/
theorem triggerAt?_of_lives
    (hLives : Lives allowed e e')
    {place index : Nat}
    {t : Trigger}
    (hTrigger : e.triggerAt? place index = some t) :
    ∃ t',
      e'.triggerAt? place index = some t' ∧
        t'.type = t.type := by
  rcases Option.bind_eq_some_iff.mp hTrigger with
    ⟨w, hFound, hAt⟩
  rcases workflowAt?_of_lives hLives hFound with
    ⟨w', hFound', hBecomes⟩
  have hType := congrArg (·[index]?) hBecomes.types
  rw [List.getElem?_map, List.getElem?_map, hAt,
    Option.map_some] at hType
  rcases Option.map_eq_some_iff.mp hType with
    ⟨t', hAt', hSame⟩
  exact ⟨t', Option.bind_eq_some_iff.mpr
    ⟨w', hFound', hAt'⟩, hSame⟩

end Engine

end EventFlow

------------------------------------------------------------
-- Triggers That Hear
------------------------------------------------------------

namespace EventFlow

/- Whether the listener of a subscription is a trigger. -/
def Subscription.IsOfTrigger (s : Subscription) : Prop :=
  ∃ place index, s.listener = .trigger place index

/- A dispatch that only triggers hear calls triggers. -/
theorem Host.request_of_isOfTrigger
    {σ : Type}
    {h : Host σ}
    {event : String}
    {payload correlationId : Value}
    {s : σ}
    (hTriggers :
      ∀ sub ∈ (h.engine s).bus.subscribers event,
        sub.IsOfTrigger)
    {call : Served}
    (hCall :
      call ∈ h.callsOf event payload correlationId s) :
    ∃ place index,
      call.request =
        (.trigger place index, payload, correlationId) := by
  rcases request_of_mem_callsOf hCall with
    ⟨sub, hLive, hRequest⟩
  rcases hTriggers sub hLive with ⟨place, index, hListener⟩
  refine ⟨place, index, ?_⟩
  rw [hRequest, hListener]

namespace Engine

variable {e : Engine}
variable {deeds : List Deed}

/-
  A subscriber that is a trigger of an engine is known to
  that trigger, and was not ended.
-/
theorem mem_subscriptions_of_subscriber
    (hAccords : e.Accords deeds)
    (hBus :
      Bus.History (Deed.allBegun deeds)
        (Deed.allEnded deeds) e.bus)
    {event : String}
    {sub : Subscription}
    (hLive : sub ∈ e.bus.subscribers event)
    {place index : Nat}
    (hListener : sub.listener = .trigger place index) :
    ∃ t,
      e.triggerAt? place index = some t ∧
        sub ∈ t.subscriptions := by
  have hBegun : sub ∈ Deed.begunFor place index deeds := by
    rw [hBus.subscribers_eq] at hLive
    rw [Deed.begunFor, List.mem_filter]
    exact ⟨(List.mem_filter.mp hLive).1,
      decide_eq_true hListener⟩
  cases hTrigger : e.triggerAt? place index with
  | none =>
      have hSpared := hAccords.spared place index hTrigger
      rw [hSpared.1] at hBegun
      exact absurd hBegun List.not_mem_nil
  | some t =>
      refine ⟨t, rfl, ?_⟩
      rw [(hAccords.triggers place index t hTrigger).keeps]
      exact hBegun

/-
  Where all triggers can be heard, the trigger of a live
  subscription is bound: had it been given to be bound in
  vain, nothing would have been begun for it.
-/
theorem isBound_of_subscriber
    (hAccords : e.Accords deeds)
    (hBus :
      Bus.History (Deed.allBegun deeds)
        (Deed.allEnded deeds) e.bus)
    (hAudible : ∀ w ∈ e.built, w.IsAudible)
    {event : String}
    {sub : Subscription}
    (hLive : sub ∈ e.bus.subscribers event)
    {place index : Nat}
    (hListener : sub.listener = .trigger place index) :
    ∃ t,
      e.triggerAt? place index = some t ∧ t.isBound := by
  rcases mem_subscriptions_of_subscriber hAccords hBus hLive
    hListener with ⟨t, hTrigger, hKept⟩
  refine ⟨t, hTrigger, ?_⟩
  have hTold := hAccords.triggers place index t hTrigger
  rcases Option.bind_eq_some_iff.mp hTrigger with
    ⟨w, hWorkflow, hAt⟩
  have hHeard : t.type.IsAudible :=
    hAudible w (List.mem_of_getElem? hWorkflow) t
      (List.mem_of_getElem? hAt)
  have hCounted := hTold.counted hHeard
  by_contra hUnbound
  have hNever : .bound place index ∉ deeds :=
    fun hMem => hUnbound (hTold.isBound.mpr hMem)
  rw [List.count_eq_zero.mpr hNever, List.replicate_zero,
    List.flatten_nil, List.map_eq_nil_iff] at hCounted
  rw [hCounted] at hKept
  exact List.not_mem_nil hKept

/- A bound trigger of a workflow that owns it runs this. -/
theorem fire_of_bound
    [Surroundings]
    {place index : Nat}
    {w : Workflow}
    {t : Trigger}
    (hWorkflow : e.workflowAt? place = some w)
    (hTrigger : w.triggers[index]? = some t)
    (hOwner : t.owner? = some place)
    (hBound : t.isBound)
    (payload correlationId : Value) :
    fire place index payload correlationId e =
      execute w.definition t.type payload correlationId e := by
  have hFound :
      ((e.workflowAt? place).bind fun w =>
        w.triggers[index]?) = some t := by
    rw [hWorkflow]
    exact hTrigger
  have hOwns : t.owner?.bind e.workflowAt? = some w := by
    rw [hOwner]
    exact hWorkflow
  rw [fire, Act.look_bind, hFound]
  dsimp only
  rw [fireTrigger, Act.look_bind, hOwns, hBound]

end Engine

end EventFlow

------------------------------------------------------------
-- Lone Runs
------------------------------------------------------------

namespace EventFlow

namespace Engine

variable [Surroundings]

/-
  A new engine with the built-in types, a limit, and a store
  that is empty.
-/
def fresh (limit : Int) : Engine :=
  (registerBuiltins
    { limit := limit
      access := .contacts {} }).2

/- What a workflow comes to when it is alone. -/
def loneRun
    (limit : Int)
    (d : WorkflowDefinition)
    (trigger : TriggerType)
    (payload correlationId : Value) :
    Except Failure ExecutionResult :=
  (execute d trigger payload correlationId (fresh limit)).1

/-
  Whether an outcome is the one of a lone run of the workflow
  whose trigger listens.
-/
def YieldsAlone
    (e : Engine)
    (payload correlationId : Value)
    (listener : Listener)
    (outcome : Except Failure ExecutionResult) : Prop :=
  ∃ place index d t,
    listener = .trigger place index ∧
      e.definitionAt? place = some d ∧
        e.triggerAt? place index = some t ∧
          outcome =
            loneRun e.limit d t.type payload correlationId

variable {limit : Int}
variable {e : Engine}

theorem isOrdinary_fresh (limit : Int) :
    (fresh limit).IsOrdinary limit := by
  rw [fresh, registerBuiltins_eq]
  exact isOrdinary_stocked limit false (.contacts {})
    ContactStore.isTidy_empty

/- Ordinary engines of one limit take one walk. -/
theorem walkOf_of_isOrdinary
    {e' : Engine}
    (hOrdinary : e.IsOrdinary limit)
    (hOrdinary' : e'.IsOrdinary limit)
    (d : WorkflowDefinition)
    (trigger : TriggerType)
    (payload correlationId : Value) :
    e.walkOf d trigger payload correlationId =
      e'.walkOf d trigger payload correlationId := by
  have hMake : e.makeStep = e'.makeStep := by
    funext slug data
    unfold makeStep stepEntry
    rw [hOrdinary.steps, hOrdinary'.steps]
  unfold walkOf
  rw [hMake, hOrdinary.limit, hOrdinary'.limit]

/- In an ordinary engine a workflow runs as it does alone. -/
theorem execute_of_isOrdinary
    (hOrdinary : e.IsOrdinary limit)
    (d : WorkflowDefinition)
    (trigger : TriggerType)
    (payload correlationId : Value) :
    (execute d trigger payload correlationId e).1 =
      loneRun limit d trigger payload correlationId := by
  have hFresh := isOrdinary_fresh limit
  have hWalk :=
    walkOf_of_isOrdinary hOrdinary hFresh d trigger payload
      correlationId
  have hTaken :=
    Walk.take_matches
      (hFresh.hasOwnSteps.isOwn_walkOf d trigger payload
        correlationId)
      hOrdinary.access hFresh.access
  change (((e.walkOf d trigger payload correlationId).take
    e.access).outcome.map _) = _
  rw [hWalk, hTaken.outcome]
  rfl

/- A lone run never asks to stop. -/
theorem isInterrupt_of_loneRun
    {d : WorkflowDefinition}
    {trigger : TriggerType}
    {payload correlationId : Value}
    {failure : Failure}
    (hFailure :
      loneRun limit d trigger payload correlationId =
        .error failure) :
    failure.isInterrupt = false :=
  isInterrupt_of_execute (isOrdinary_fresh limit).hasOwnSteps
    hFailure

end Engine

end EventFlow

------------------------------------------------------------
-- Calls of Orderly Sessions
------------------------------------------------------------

namespace EventFlow

namespace Session

variable {opened s t u : Session}

variable [Surroundings]

/- What is attained from what is attained. -/
theorem Attains.trans
    (hFirst : Attains s t)
    (hThen : Attains t u) :
    Attains s u := by
  induction hThen with
  | here => exact hFirst
  | settled _ ih => exact ih.settled
  | carriedOut _ depth c hOrderly ih =>
      exact ih.carriedOut depth c hOrderly
  | served _ depth listener payload correlationId ih =>
      exact ih.served depth listener payload correlationId
  | told _ depth notice ih => exact ih.told depth notice
  | noted _ call ih => exact ih.noted call

instance : IsPreorder Session Attains where
  refl := fun _ => .here
  trans := fun _ _ _ => .trans

/- What a dispatch leaves is attained. -/
theorem attains_dispatch
    (s : Session)
    (depth : Nat)
    (event : String)
    (payload correlationId : Value) :
    Attains s
      ((host (depth + 1)).dispatch event payload
        correlationId s).2 := by
  have hKeeps :
      ((host (depth + 1)).dispatch event payload
        correlationId).Keeps Attains := by
    refine Host.keeps_dispatch ?_ ?_ event payload
      correlationId
    · intro listener payload correlationId u
      exact Attains.here.served depth listener payload
        correlationId
    · intro notice u
      exact Attains.here.told (depth + 1) notice
  exact hKeeps s

/-
  Whether a session was opened with the built-in types and a
  store of contacts, and came to where it is by orderly
  commands.
-/
structure IsOrdinary
    (s : Session) : Prop where
  attained :
    ∃ r env files level? opened,
      r.withBuiltins = true ∧
        r.access = .contacts ∧
          start r env files level? = .ok opened ∧
            Attains opened s

/- It then goes on so. -/
theorem IsOrdinary.attains
    (hOrdinary : s.IsOrdinary)
    (hAttains : Attains s t) :
    t.IsOrdinary := by
  rcases hOrdinary.attained with
    ⟨r, env, files, level?, opened, hBuiltins, hContacts,
      hOpened, hBefore⟩
  exact ⟨r, env, files, level?, opened, hBuiltins, hContacts,
    hOpened, hBefore.trans hAttains⟩

theorem IsOrdinary.engine
    (hOrdinary : s.IsOrdinary) :
    s.engine.IsOrdinary s.engine.limit := by
  rcases hOrdinary.attained with
    ⟨r, env, files, level?, opened, hBuiltins, hContacts,
      hOpened, hBefore⟩
  have hEngine :=
    (isOrderly_of_attains hBefore
      (isOrderly_of_start hBuiltins hContacts
        hOpened)).engine
  rw [hEngine.limit]
  exact hEngine

/- What lives on keeps its limit. -/
theorem IsOrdinary.limit_eq
    (hOrdinary : s.IsOrdinary)
    (hAttains : Attains s t) :
    t.engine.limit = s.engine.limit := by
  rcases hOrdinary.attained with
    ⟨r, env, files, level?, opened, hBuiltins, hContacts,
      hOpened, hBefore⟩
  have hStart :=
    isOrderly_of_start hBuiltins hContacts hOpened
  have hNow := isOrderly_of_attains hBefore hStart
  have hLater :=
    isOrderly_of_attains (hBefore.trans hAttains) hStart
  rw [hLater.engine.limit, hNow.engine.limit]

theorem IsOrdinary.lives
    (hOrdinary : s.IsOrdinary)
    (hAttains : Attains s t) :
    Engine.Lives StepType.IsAny s.engine t.engine := by
  rcases hOrdinary.attained with
    ⟨r, env, files, level?, opened, -, -, hOpened, hBefore⟩
  rcases start_lives (fun _ _ => trivial) hOpened with
    ⟨hOpen, -, -, -⟩
  have hProper :=
    (continues_of_reached (reached_of_attains hBefore)
      hOpen).2
  exact (continues_of_reached (reached_of_attains hAttains)
    hProper).1

/- Its triggers and its bus accord with its deeds. -/
theorem IsOrdinary.exists_deeds
    (hOrdinary : s.IsOrdinary) :
    ∃ deeds,
      s.engine.Accords deeds ∧
        Bus.History (Deed.allBegun deeds)
          (Deed.allEnded deeds) s.engine.bus := by
  rcases hOrdinary.attained with
    ⟨r, env, files, level?, opened, -, -, hOpened, hBefore⟩
  rcases start_lives (fun _ _ => trivial) hOpened with
    ⟨hOpen, e₀, hMade, hFrom⟩
  rcases hFrom.trans
    (continues_of_reached (reached_of_attains hBefore)
      hOpen).1 with ⟨deeds, hChronicle⟩
  exact ⟨deeds,
    Engine.accords_of_chronicle hMade.built_eq hChronicle,
    Engine.history_of_chronicle hMade.bus_eq hChronicle⟩

/-
  A trigger that hears an event is fired as what it was when
  the event was dispatched, however much later this is.
-/
theorem IsOrdinary.fire_eq
    (hOrdinary : s.IsOrdinary)
    {event : String}
    {sub : Subscription}
    (hLive : sub ∈ s.engine.bus.subscribers event)
    {place index : Nat}
    (hListener : sub.listener = .trigger place index)
    (payload correlationId : Value) :
    ∃ run,
      s.engine.YieldsAlone payload correlationId
          (.trigger place index) run ∧
        ∀ t, Attains s t →
          (Engine.fire place index payload correlationId
            t.engine).1 = run := by
  rcases hOrdinary.exists_deeds with
    ⟨deeds, hAccords, hBus⟩
  rcases Engine.isBound_of_subscriber hAccords hBus
    hOrdinary.engine.built hLive hListener with
    ⟨trigger, hTrigger, hBound⟩
  rcases Option.bind_eq_some_iff.mp hTrigger with
    ⟨w, hWorkflow, hAt⟩
  have hDefinition :
      s.engine.definitionAt? place = some w.definition :=
    Option.map_eq_some_iff.mpr ⟨w, hWorkflow, rfl⟩
  refine ⟨_, ⟨place, index, w.definition, trigger, rfl,
    hDefinition, hTrigger, rfl⟩, ?_⟩
  intro t hAttains
  have hThen := hOrdinary.attains hAttains
  have hLives := hOrdinary.lives hAttains
  have hRetains := Engine.retains_of_lives hLives
  rcases Engine.triggerAt?_of_lives hLives hTrigger with
    ⟨later, hLater, hType⟩
  rcases hRetains.bound place index trigger hTrigger hBound
    with ⟨same, hSame, hStill⟩
  rw [hLater] at hSame
  cases hSame
  rcases Option.bind_eq_some_iff.mp hLater with
    ⟨v, hThere, hThereAt⟩
  have hKept :=
    hRetains.definitions place w.definition hDefinition
  rcases Option.map_eq_some_iff.mp hKept with
    ⟨v', hThere', hSameDefinition⟩
  rw [hThere] at hThere'
  cases hThere'
  rcases hThen.exists_deeds with ⟨deeds', hAccords', -⟩
  have hOwner :=
    (hAccords'.triggers place index later hLater).owned
      hStill
  rw [Engine.fire_of_bound hThere hThereAt hOwner hStill,
    hSameDefinition, hType,
    Engine.execute_of_isOrdinary hThen.engine,
    hOrdinary.limit_eq hAttains]

/- To serve a trigger is to fire it. -/
theorem serve_trigger
    (depth place index : Nat)
    (payload correlationId : Value)
    (s : Session) :
    ((host (depth + 1)).serve (.trigger place index) payload
      correlationId s).1 =
        (Engine.fire place index payload correlationId
          s.engine).1.map .run := by
  have hFire :
      (onEngine
        (Engine.fire place index payload correlationId) s).1 =
        (Engine.fire place index payload correlationId
          s.engine).1 := rfl
  rw [← hFire]
  exact congrArg Prod.fst
    (Act.bind_pure_apply
      (onEngine
        (Engine.fire place index payload correlationId))
      Delivery.run s)

/- A call of a trigger comes to what a lone run comes to. -/
theorem outcome_of_call
    (hOrdinary : s.IsOrdinary)
    {depth : Nat}
    {event : String}
    {payload correlationId : Value}
    {call : Served}
    (hCall :
      call ∈ (host (depth + 1)).callsOf event payload
        correlationId s)
    {place index : Nat}
    (hListener : call.listener = .trigger place index) :
    ∃ run,
      s.engine.YieldsAlone payload correlationId
          call.listener run ∧
        call.outcome = run.map .run := by
  rcases Host.request_of_mem_callsOf hCall with
    ⟨sub, hLive, hRequest⟩
  rcases Host.served_of_mem_callsOf (P := Attains s)
      (fun listener payload correlationId u hBefore =>
        hBefore.served depth listener payload correlationId)
      (fun notice u hBefore =>
        hBefore.told (depth + 1) notice)
      .here hCall with
    ⟨u, hUntil, hServed⟩
  rw [Served.request, Prod.mk.injEq, Prod.mk.injEq]
    at hRequest
  rcases hRequest with ⟨hSame, hPayload, hCorrelation⟩
  have hIs : sub.listener = .trigger place index :=
    hSame.symm.trans hListener
  rcases hOrdinary.fire_eq hLive hIs payload correlationId
    with ⟨run, hYields, hFire⟩
  refine ⟨run, ?_, ?_⟩
  · rw [hListener]
    exact hYields
  · rw [← hServed, hListener, hPayload, hCorrelation,
      serve_trigger, hFire u hUntil]

end Session

end EventFlow

------------------------------------------------------------
-- Dispatches to Workflows
------------------------------------------------------------

namespace EventFlow

/- The result of an event with what its workflows came to. -/
def DispatchResult.ofRuns
    (event : String)
    (runs : List (Except Failure ExecutionResult)) :
    DispatchResult :=
  { event := event
    results := (runs.filterMap Except.toOption).map .run
    errors := runs.filterMap Outcome.failure? }

namespace Session

variable {s t : Session}
variable {event : String}
variable {payload correlationId : Value}

/- Outcomes of calls that are those of runs are collected. -/
theorem collected_of_runs
    {calls : List Served}
    {runs : List (Except Failure ExecutionResult)}
    (hOutcomes :
      calls.map Served.outcome =
        runs.map (Except.map .run)) :
    calls.filterMap Served.result? =
        (runs.filterMap Except.toOption).map .run ∧
      calls.filterMap Served.failure? =
        runs.filterMap Outcome.failure? := by
  have hResults :
      calls.filterMap Served.result? =
        (calls.map Served.outcome).filterMap
          Except.toOption := by
    rw [List.filterMap_map]
    rfl
  have hFailures :
      calls.filterMap Served.failure? =
        (calls.map Served.outcome).filterMap
          Outcome.failure? := by
    rw [List.filterMap_map]
    rfl
  rw [hResults, hFailures, hOutcomes, List.filterMap_map,
    List.filterMap_map, List.map_filterMap]
  constructor
  · refine List.filterMap_congr fun run _ => ?_
    cases run with
    | ok result => rfl
    | error failure => rfl
  · refine List.filterMap_congr fun run _ => ?_
    exact Outcome.failure?_map

variable [Surroundings]

/- Each workflow that hears an event has a lone run. -/
theorem exists_runs
    (hOrdinary : s.IsOrdinary)
    (payload correlationId : Value)
    {subs : List Subscription}
    (hLive :
      ∀ sub ∈ subs, sub ∈ s.engine.bus.subscribers event)
    (hTriggers : ∀ sub ∈ subs, sub.IsOfTrigger) :
    ∃ runs,
      List.Forall₂
        (fun sub run =>
          s.engine.YieldsAlone payload correlationId
            sub.listener run) subs runs := by
  induction subs with
  | nil => exact ⟨[], .nil⟩
  | cons sub rest ih =>
      rw [List.forall_mem_cons] at hLive hTriggers
      rcases ih hLive.2 hTriggers.2 with ⟨runs, hRuns⟩
      rcases hTriggers.1 with ⟨place, index, hListener⟩
      rcases hOrdinary.fire_eq hLive.1 hListener payload
        correlationId with ⟨run, hYields, -⟩
      refine ⟨run :: runs, .cons ?_ hRuns⟩
      rw [hListener]
      exact hYields

/- A listener has one lone run. -/
theorem yieldsAlone_unique
    {e : Engine}
    {listener : Listener}
    {run run' : Except Failure ExecutionResult}
    (hYields :
      e.YieldsAlone payload correlationId listener run)
    (hYields' :
      e.YieldsAlone payload correlationId listener run') :
    run = run' := by
  rcases hYields with
    ⟨place, index, d, t, hListener, hDefinition, hTrigger,
      rfl⟩
  rcases hYields' with
    ⟨place', index', d', t', hListener', hDefinition',
      hTrigger', rfl⟩
  rw [hListener] at hListener'
  cases hListener'
  rw [hDefinition] at hDefinition'
  cases hDefinition'
  rw [hTrigger] at hTrigger'
  cases hTrigger'
  rfl

/- A lone run stays what it is. -/
theorem yieldsAlone_of_attains
    (hOrdinary : s.IsOrdinary)
    (hAttains : Attains s t)
    {listener : Listener}
    {run : Except Failure ExecutionResult}
    (hYields :
      s.engine.YieldsAlone payload correlationId listener
        run) :
    t.engine.YieldsAlone payload correlationId listener
      run := by
  rcases hYields with
    ⟨place, index, d, trigger, hListener, hDefinition,
      hTrigger, rfl⟩
  have hLives := hOrdinary.lives hAttains
  rcases Engine.triggerAt?_of_lives hLives hTrigger with
    ⟨later, hLater, hType⟩
  have hKept :=
    (Engine.retains_of_lives hLives).definitions place d
      hDefinition
  refine ⟨place, index, d, later, hListener, hKept, hLater,
    ?_⟩
  rw [hType, hOrdinary.limit_eq hAttains]

/- A listener that has a lone run is a trigger. -/
theorem isOfTrigger_of_runs
    {e : Engine}
    {subs : List Subscription}
    {runs : List (Except Failure ExecutionResult)}
    (hRuns :
      List.Forall₂
        (fun sub run =>
          e.YieldsAlone payload correlationId sub.listener
            run) subs runs) :
    ∀ sub ∈ subs, sub.IsOfTrigger := by
  induction hRuns with
  | nil => exact List.forall_mem_nil _
  | cons hFirst hRest ih =>
      rcases hFirst with ⟨place, index, -, -, hListener, -⟩
      rw [List.forall_mem_cons]
      exact ⟨⟨place, index, hListener⟩, ih⟩

/- Calls that come to lone runs have their outcomes. -/
theorem outcomes_of_runs
    {e : Engine}
    {subs : List Subscription}
    {runs : List (Except Failure ExecutionResult)}
    (hRuns :
      List.Forall₂
        (fun sub run =>
          e.YieldsAlone payload correlationId sub.listener
            run) subs runs)
    {calls : List Served}
    (hRequests :
      calls.map Served.request =
        subs.map fun sub =>
          (sub.listener, payload, correlationId))
    (hYields :
      ∀ call ∈ calls,
        ∃ run,
          e.YieldsAlone payload correlationId call.listener
              run ∧
            call.outcome = run.map .run) :
    calls.map Served.outcome =
      runs.map (Except.map .run) := by
  induction hRuns generalizing calls with
  | nil =>
      rw [List.map_eq_nil_iff.mp hRequests]
      rfl
  | cons hFirst hRest ih =>
      rcases List.map_eq_cons_iff.mp hRequests with
        ⟨call, rest, rfl, hSame, hOthers⟩
      rw [List.forall_mem_cons] at hYields
      rcases hYields.1 with ⟨run, hRun, hOutcome⟩
      have hListener := congrArg Prod.fst hSame
      change call.listener = _ at hListener
      rw [hListener] at hRun
      rw [List.map_cons, List.map_cons, hOutcome,
        yieldsAlone_unique hRun hFirst,
        ih hOthers hYields.2]

/- A call that comes to a lone run does not ask to stop. -/
theorem isCaught_of_run
    {e : Engine}
    {call : Served}
    {run : Except Failure ExecutionResult}
    (hYields :
      e.YieldsAlone payload correlationId call.listener run)
    (hOutcome : call.outcome = run.map .run) :
    call.IsCaught := by
  intro failure hFailure
  rcases hYields with ⟨-, -, d, t, -, -, -, rfl⟩
  rw [hFailure] at hOutcome
  have hRun := Outcome.map_eq_error hOutcome.symm
  rw [Engine.isInterrupt_of_loneRun hRun]
  exact Bool.false_ne_true

/-
  A dispatch that only workflows hear has the result of their
  lone runs.
-/
theorem dispatch_of_runs
    (hOrdinary : s.IsOrdinary)
    {runs : List (Except Failure ExecutionResult)}
    (hRuns :
      List.Forall₂
        (fun sub run =>
          s.engine.YieldsAlone payload correlationId
            sub.listener run)
        (s.engine.bus.subscribers event) runs)
    (depth : Nat) :
    ((host (depth + 1)).dispatch event payload correlationId
      s).1 = .ok (.ofRuns event runs) := by
  have hYields :
      ∀ call ∈ (host (depth + 1)).callsOf event payload
          correlationId s,
        ∃ run,
          s.engine.YieldsAlone payload correlationId
              call.listener run ∧
            call.outcome = run.map .run := by
    intro call hCall
    rcases Host.request_of_isOfTrigger
        (isOfTrigger_of_runs hRuns) hCall with
      ⟨place, index, hRequest⟩
    exact outcome_of_call hOrdinary hCall
      (congrArg Prod.fst hRequest)
  have hCaught :
      ∀ call ∈ (host (depth + 1)).callsOf event payload
          correlationId s,
        call.IsCaught := by
    intro call hCall
    rcases hYields call hCall with ⟨run, hRun, hOutcome⟩
    exact isCaught_of_run hRun hOutcome
  rcases Host.dispatch_of_caught hCaught with
    ⟨hRequests, t, hDispatch, -⟩
  rcases collected_of_runs
      (outcomes_of_runs hRuns hRequests hYields) with
    ⟨hResults, hErrors⟩
  rw [hDispatch, hResults, hErrors]
  rfl

end Session

end EventFlow

------------------------------------------------------------
-- The Bus Behind a Dispatch
------------------------------------------------------------

namespace EventFlow

namespace Engine

/- Whether the buses of two engines are the same. -/
def SharesBus (e e' : Engine) : Prop :=
  e'.bus = e.bus

instance : IsPreorder Engine SharesBus where
  refl := fun _ => rfl
  trans := fun _ _ _ hFirst hThen => hThen.trans hFirst

/- To fire a trigger leaves the bus. -/
theorem sharesBus_fire
    [Surroundings]
    (place index : Nat)
    (payload correlationId : Value) :
    (fire place index payload correlationId).Keeps
      SharesBus := by
  refine .bind (.look _) fun trigger? => ?_
  cases trigger? with
  | none => exact .fail _
  | some t =>
      refine .bind (.look _) fun owner? => ?_
      cases owner? with
      | none => exact .fail _
      | some w =>
          cases t.isBound with
          | false => exact .fail _
          | true => exact .bind (.look _) fun walk e => rfl

end Engine

namespace Session

/- Whether the buses of two sessions are the same. -/
def SharesBus (s t : Session) : Prop :=
  t.engine.bus = s.engine.bus

instance : IsPreorder Session SharesBus where
  refl := fun _ => rfl
  trans := fun _ _ _ hFirst hThen => hThen.trans hFirst

variable {s : Session}
variable {event : String}

/- A dispatch that only workflows hear leaves the bus. -/
theorem sharesBus_dispatch
    [Surroundings]
    (hTriggers :
      ∀ sub ∈ s.engine.bus.subscribers event,
        sub.IsOfTrigger)
    (depth : Nat)
    (payload correlationId : Value) :
    SharesBus s
      ((host (depth + 1)).dispatch event payload
        correlationId s).2 := by
  have hKeeps :
      ((host (depth + 1)).deliver event payload correlationId
        (s.engine.bus.subscribers event)).Keeps SharesBus := by
    refine Host.keeps_deliver event payload correlationId ?_
      fun notice u => rfl
    intro sub hMem
    rcases hTriggers sub hMem with ⟨place, index, hListener⟩
    rw [hListener]
    have hFire : (onEngine (Engine.fire place index payload
        correlationId)).Keeps SharesBus :=
      fun u => Engine.sharesBus_fire place index payload
        correlationId u.engine
    exact .bind hFire fun _ => .pure _
  have hAfter := hKeeps s
  rcases hRun :
      (host (depth + 1)).deliver event payload correlationId
        (s.engine.bus.subscribers event) s with ⟨delivered, t⟩
  rw [hRun] at hAfter
  cases delivered with
  | error failure =>
      rw [Host.dispatch_of_stopped hRun]
      exact hAfter
  | ok delivered =>
      rw [Host.dispatch_of_delivered hRun]
      exact hAfter

end Session

end EventFlow

------------------------------------------------------------
-- Runs As Alone
------------------------------------------------------------

namespace EventFlow

namespace Session

/-
  Consider a session that was opened with the built-in types
  and a store of contacts, at any point that orderly commands
  led to: whatever was loaded, dispatched and written before.
  When an event is dispatched there, every call of a trigger,
  among whichever others, comes to what the workflow of the
  trigger comes to alone, in a new engine with an empty store
  and on the same payload and correlation id.

  If only workflows hear the event, the dispatch has the
  result of their lone runs, in the order of subscription.
  It has this result once more when it is repeated at once,
  and at every later point at which the same hear the event.
-/
theorem workflows_run_as_alone
    [Surroundings]
    {r : EngineRequest}
    {env : List (String × String)}
    {files : Files}
    {level? : Option Value}
    {opened s : Session}
    (hBuiltins : r.withBuiltins = true)
    (hContacts : r.access = .contacts)
    (hOpened : start r env files level? = .ok opened)
    (hAttains : Attains opened s)
    (event : String)
    (payload correlationId : Value) :
    (∀ depth,
      ∀ call ∈ (host (depth + 1)).callsOf event payload
          correlationId s,
        ∀ place index,
          call.listener = .trigger place index →
            ∃ run,
              s.engine.YieldsAlone payload correlationId
                  call.listener run ∧
                call.outcome = run.map .run) ∧
    ((∀ sub ∈ s.engine.bus.subscribers event,
        sub.IsOfTrigger) →
      ∃ runs,
        List.Forall₂
          (fun sub run =>
            s.engine.YieldsAlone payload correlationId
              sub.listener run)
          (s.engine.bus.subscribers event) runs ∧
        (∀ depth,
          ((host (depth + 1)).dispatch event payload
            correlationId s).1 = .ok (.ofRuns event runs)) ∧
        (∀ depth again,
          ((host (again + 1)).dispatch event payload
            correlationId
            ((host (depth + 1)).dispatch event payload
              correlationId s).2).1 =
                .ok (.ofRuns event runs)) ∧
        ∀ t,
          Attains s t →
            t.engine.bus.subscribers event =
                s.engine.bus.subscribers event →
              ∀ depth,
                ((host (depth + 1)).dispatch event payload
                  correlationId t).1 =
                    .ok (.ofRuns event runs)) := by
  have hOrdinary : s.IsOrdinary :=
    ⟨r, env, files, level?, opened, hBuiltins, hContacts,
      hOpened, hAttains⟩
  constructor
  · intro depth call hCall place index hListener
    exact outcome_of_call hOrdinary hCall hListener
  intro hTriggers
  rcases exists_runs hOrdinary payload correlationId
    (fun sub hMem => hMem) hTriggers with ⟨runs, hRuns⟩
  have hLater (t : Session)
      (hUntil : Attains s t)
      (hSame :
        t.engine.bus.subscribers event =
          s.engine.bus.subscribers event)
      (depth : Nat) :
      ((host (depth + 1)).dispatch event payload
        correlationId t).1 = .ok (.ofRuns event runs) := by
    refine dispatch_of_runs (hOrdinary.attains hUntil) ?_
      depth
    rw [hSame]
    exact hRuns.imp fun sub run hYields =>
      yieldsAlone_of_attains hOrdinary hUntil hYields
  refine ⟨runs, hRuns, dispatch_of_runs hOrdinary hRuns, ?_,
    hLater⟩
  intro depth again
  have hBus :=
    sharesBus_dispatch hTriggers depth payload correlationId
  refine hLater _
    (attains_dispatch s depth event payload correlationId) ?_
    again
  rw [hBus]

/- A definition that logs contacts with a type of its own. -/
def logging (id : String) (type : Value) : Value :=
  .object [
    ("id", .str id),
    ("name", .str id),
    ("triggers", .list [.str "crm/contact_created"]),
    ("initial_step", .str "log"),
    ("steps",
      .object [
        ("log",
          .object [
            ("slug", .str "crm/add_contact_log"),
            ("attributes", .object [("type", type)])
          ])
      ])
  ]

/- A new contact. -/
def newcomer : Value :=
  .object [("id", .int 5), ("data", .object [])]

/-
  Two workflows hear of new contacts, the first of which
  always fails; the contact has a tag and was told of before.
-/
def bustle : List Command := [
  .add (logging "broken" (.int 7)) true none,
  .add (logging "sound" (.str "call")) true none,
  .updateTags (.int 5) (.list [.str "old"]) (.str "append"),
  .dispatch "contact_created" newcomer .null false
]

/- A new session after the bustle. -/
def bustled
    [Surroundings]
    : Session :=
  furnished.after 1 bustle

open scoped Bare in
/-
  Behind the workflow that fails the other runs as it would
  alone, also when the event is dispatched once more.
-/
theorem workflows_run_as_alone_bustled :
    start {} [] [] none = .ok furnished ∧
      Attains furnished bustled ∧
      (bustled.engine.bus.subscribers
        "contact_created").map Subscription.listener =
          [.trigger 0 0, .trigger 1 0] ∧
      ∃ failure run,
        ((host 1).dispatch "contact_created" newcomer .null
          bustled).1 =
            .ok
              { event := "contact_created"
                results := [.run run]
                errors := [failure] } ∧
        ((host 1).dispatch "contact_created" newcomer .null
          ((host 1).dispatch "contact_created" newcomer .null
            bustled).2).1 =
            .ok
              { event := "contact_created"
                results := [.run run]
                errors := [failure] } ∧
        run.stepIds = ["log"] := by
  have hOpened : start {} [] [] none = .ok furnished := rfl
  have hAttains : Attains furnished bustled :=
    .after .here 1 ⟨trivial, trivial, trivial, trivial, trivial⟩
  have hSeen :
      bustled.engine.bus.subscribers "contact_created" =
        [⟨1, "contact_created", .trigger 0 0⟩,
          ⟨2, "contact_created", .trigger 1 0⟩] := by
    decide +kernel
  have hTold :
      ((host 1).dispatch "contact_created" newcomer .null
        bustled).1.toOption.map
          (fun result =>
            (result.errors.length,
              result.runs.map ExecutionResult.stepIds)) =
        some (1, [["log"]]) := by
    decide +kernel
  have hTriggers :
      ∀ sub ∈ bustled.engine.bus.subscribers
          "contact_created",
        sub.IsOfTrigger := by
    rw [hSeen, List.forall_mem_cons,
      List.forall_mem_singleton]
    exact ⟨⟨0, 0, rfl⟩, ⟨1, 0, rfl⟩⟩
  have hAlone :=
    workflows_run_as_alone rfl rfl hOpened hAttains
      "contact_created" newcomer .null
  rcases hAlone.2 hTriggers with
    ⟨runs, hRuns, hNow, hAgain, -⟩
  refine ⟨hOpened, hAttains, by rw [hSeen]; rfl, ?_⟩
  rw [hSeen] at hRuns
  rw [hNow 0] at hTold
  have hBoth := hAgain 0 0
  rw [hNow 0, hBoth]
  rcases hRuns with _ | ⟨-, _ | ⟨-, _ | -⟩⟩
  next first second =>
    simp only [DispatchResult.ofRuns, DispatchResult.runs,
      Except.toOption, Option.map_some, Option.some.injEq,
      Prod.mk.injEq] at hTold
    -- One of the two fails, whichever it is.
    cases first with
    | error failure =>
        cases second with
        | error other => cases hTold.1
        | ok run =>
            refine ⟨failure, run, rfl, rfl, ?_⟩
            exact (List.cons.inj hTold.2).1
    | ok run =>
        cases second with
        | error failure =>
            refine ⟨failure, run, rfl, rfl, ?_⟩
            exact (List.cons.inj hTold.2).1
        | ok other => cases hTold.1

end Session

end EventFlow
