import EventFlow.Proofs.Accords
import EventFlow.Proofs.Delivery
import EventFlow.Proofs.Sessions

/-
  The triggers of a session.

  A plain trigger is in order when all that tells whether it
  is bound tells the same: its state, its subscriptions and
  the bus.  At every point of a session its triggers are in
  order after the deeds of its engine.  A bound trigger stays
  bound, and a workflow that is not active is never run.

  Key definitions include:
    * `TriggerType.IsPlain`
    * `Trigger.IsInOrder`
    * `Engine.Retains`
    * `Session.IsIdleAt`

  Key theorems include:
    * `Engine.isInOrder_of_accords`
    * `Engine.retains_of_lives`
    * `Engine.fire_of_idle`
    * `Session.triggers_stay_in_order`
-/

------------------------------------------------------------
-- Plain Triggers
------------------------------------------------------------

namespace EventFlow

namespace TriggerType

/- Whether a trigger hears its own event only. -/
def IsPlain (type : TriggerType) : Prop :=
  type.alsoHears = []

/- What a plain trigger hears. -/
theorem IsPlain.events_eq
    {type : TriggerType}
    (hPlain : type.IsPlain) :
    type.events = [type.event] :=
  congrArg (type.event :: ·) hPlain

/- A plain trigger hears its event or nothing. -/
theorem IsPlain.heard_eq_nil
    {type : TriggerType}
    (hPlain : type.IsPlain)
    (hBlank : ¬ type.IsAudible) :
    type.heard = [] := by
  rw [IsAudible, hPlain.events_eq,
    List.forall_mem_singleton, not_not] at hBlank
  rw [heard, hPlain.events_eq,
    List.takeWhile_cons_of_neg (by simpa using hBlank)]

end TriggerType

namespace Trigger

variable {place index : Nat}
variable {deeds : List Deed}
variable {t : Trigger}

/- A plain trigger heard its event each time it was bound. -/
theorem Accords.map_event_of_isPlain
    (hAccords : t.Accords place index deeds)
    (hPlain : t.type.IsPlain) :
    t.subscriptions.map Subscription.event =
      List.replicate (deeds.count (.bound place index))
        t.type.event := by
  by_cases hAudible : t.type.IsAudible
  · rw [hAccords.counted hAudible, hPlain.events_eq,
      List.flatten_replicate_singleton]
  · have hUnbound : .bound place index ∉ deeds := by
      intro hMem
      exact hAudible
        (hAccords.audible (hAccords.isBound.mpr hMem))
    have hNone : t.subscriptions = [] := by
      rw [List.eq_nil_iff_forall_not_mem]
      intro s hMem
      have hHeard := hAccords.heard s hMem
      rw [hPlain.heard_eq_nil hAudible] at hHeard
      exact List.not_mem_nil hHeard
    rw [hNone, List.count_eq_zero.mpr hUnbound]
    rfl

end Trigger

end EventFlow

------------------------------------------------------------
-- Order
------------------------------------------------------------

namespace EventFlow

/-
  Whether a trigger of an engine is in order after deeds.
  Bound or not, its subscriptions and the bus tell the same:
  it is bound when it has a subscription, it then belongs to
  the workflow at its place, which is active, and it has one
  subscription to its event for each time that it was bound.
  Nobody else has a subscription of the same id, and what is
  live of its subscriptions is what was not ended.
-/
structure Trigger.IsInOrder
    (deeds : List Deed)
    (e : Engine)
    (place index : Nat)
    (t : Trigger) : Prop where
  isBound : t.isBound ↔ t.subscriptions ≠ []
  owned :
    t.isBound →
      t.owner? = some place ∧
        ∃ w, e.workflowAt? place = some w ∧
          w.definition.active
  counted :
    t.subscriptions.length =
      deeds.count (.bound place index)
  events : ∀ s ∈ t.subscriptions, s.event = t.type.event
  increasing :
    t.subscriptions.Pairwise fun s later => s.id < later.id
  unshared :
    ∀ s ∈ t.subscriptions, ∀ other ∈ Deed.allBegun deeds,
      other.id = s.id → other = s
  apart :
    ∀ place' index' t',
      e.triggerAt? place' index' = some t' →
        ∀ s ∈ t.subscriptions, ∀ s' ∈ t'.subscriptions,
          s'.id = s.id → place' = place ∧ index' = index
  live :
    (e.bus.live.filter fun s =>
      s.listener = .trigger place index) =
        t.subscriptions.filter fun s =>
          s ∉ Deed.allEnded deeds

namespace Engine

variable {e : Engine}
variable {deeds : List Deed}

/- A trigger that accords with deeds kept what they began. -/
theorem mem_subscriptions_iff
    {place index : Nat}
    {t : Trigger}
    (hAccords : t.Accords place index deeds)
    (s : Subscription) :
    s ∈ t.subscriptions ↔
      s ∈ Deed.allBegun deeds ∧
        s.listener = .trigger place index := by
  rw [hAccords.keeps, Deed.begunFor, List.mem_filter,
    decide_eq_true_iff]

/- Plain triggers that accord with deeds are in order. -/
theorem isInOrder_of_accords
    (hAccords : e.Accords deeds)
    (hBus :
      Bus.History (Deed.allBegun deeds)
        (Deed.allEnded deeds) e.bus)
    {place index : Nat}
    {t : Trigger}
    (hTrigger : e.triggerAt? place index = some t)
    (hPlain : t.type.IsPlain) :
    t.IsInOrder deeds e place index := by
  have hTold := hAccords.triggers place index t hTrigger
  have hEvents := hTold.map_event_of_isPlain hPlain
  have hCounted :
      t.subscriptions.length =
        deeds.count (.bound place index) := by
    have hLength := congrArg List.length hEvents
    rw [List.length_map, List.length_replicate] at hLength
    exact hLength
  have hBegun :
      ∀ s ∈ t.subscriptions, s ∈ Deed.allBegun deeds :=
    fun s hMem => ((mem_subscriptions_iff hTold s).mp hMem).1
  constructor
  · rw [hTold.isBound, ← List.count_pos_iff, ← hCounted,
      List.length_pos_iff]
  · intro hBound
    rcases hAccords.isActiveAt hTrigger hBound with
      ⟨d, hFound, hActive⟩
    rcases Option.map_eq_some_iff.mp hFound with
      ⟨w, hWorkflow, rfl⟩
    exact ⟨hTold.owned hBound, w, hWorkflow, hActive⟩
  · exact hCounted
  · intro s hMem
    have hEvent := List.mem_map_of_mem
      (f := Subscription.event) hMem
    rw [hEvents] at hEvent
    exact List.eq_of_mem_replicate hEvent
  · rw [hTold.keeps]
    exact hBus.pairwise_id.filter _
  · intro s hMem other hOther hId
    exact hBus.eq_of_id_eq hOther (hBegun s hMem) hId
  · intro place' index' t' hOther s hMem s' hMem' hId
    have hTold' := hAccords.triggers place' index' t' hOther
    rcases (mem_subscriptions_iff hTold s).mp hMem with
      ⟨hFirst, hListener⟩
    rcases (mem_subscriptions_iff hTold' s').mp hMem' with
      ⟨hSecond, hListener'⟩
    rw [hBus.eq_of_id_eq hSecond hFirst hId,
      hListener] at hListener'
    cases hListener'
    exact ⟨rfl, rfl⟩
  · rw [hBus.live_eq, hTold.keeps, Deed.begunFor,
      List.filter_filter, List.filter_filter]
    refine List.filter_congr fun s _ => ?_
    exact Bool.and_comm _ _

end Engine

end EventFlow

------------------------------------------------------------
-- What Stays
------------------------------------------------------------

namespace EventFlow

namespace Engine

/-
  Whether an engine retains what another has built: the
  definition of each workflow, and each bound trigger as a
  bound one.
-/
structure Retains (e e' : Engine) : Prop where
  definitions :
    ∀ place d,
      e.definitionAt? place = some d →
        e'.definitionAt? place = some d
  bound :
    ∀ place index t,
      e.triggerAt? place index = some t →
        t.isBound →
          ∃ t',
            e'.triggerAt? place index = some t' ∧
              t'.isBound

variable {allowed : StepType → Prop}
variable {e e' e'' : Engine}
variable {deeds : List Deed}

theorem Retains.refl (e : Engine) : e.Retains e where
  definitions := fun _ _ hFound => hFound
  bound := fun _ _ t hTrigger hBound =>
    ⟨t, hTrigger, hBound⟩

theorem Retains.trans
    (hFirst : e.Retains e')
    (hThen : e'.Retains e'') :
    e.Retains e'' where
  definitions := fun place d hFound =>
    hThen.definitions place d
      (hFirst.definitions place d hFound)
  bound := by
    intro place index t hTrigger hBound
    rcases hFirst.bound place index t hTrigger hBound with
      ⟨t', hTrigger', hBound'⟩
    exact hThen.bound place index t' hTrigger' hBound'

/- What was built is retained when more is built. -/
theorem retains_of_built
    {ws : List Workflow}
    (hBuilt : e'.built = e.built ++ ws) :
    e.Retains e' := by
  constructor
  · intro place d hFound
    rcases Option.map_eq_some_iff.mp hFound with
      ⟨w, hWorkflow, hDefinition⟩
    exact Option.map_eq_some_iff.mpr
      ⟨w, workflowAt?_append hBuilt hWorkflow, hDefinition⟩
  · intro place index t hTrigger hBound
    rcases Option.bind_eq_some_iff.mp hTrigger with
      ⟨w, hWorkflow, hAt⟩
    refine ⟨t, ?_, hBound⟩
    exact Option.bind_eq_some_iff.mpr
      ⟨w, workflowAt?_append hBuilt hWorkflow, hAt⟩

/- A trigger that is bound once more stays bound. -/
theorem retains_of_attempt
    (e : Engine)
    (place index : Nat)
    (begun : List Subscription)
    (isDone : Bool) :
    e.Retains
      (withTrigger place index
        (Trigger.attempted place begun isDone) e) := by
  constructor
  · intro place' d hFound
    rw [definitionAt?_withTrigger]
    exact hFound
  · intro place' index' t hTrigger hBound
    rw [triggerAt?_withTrigger]
    split
    · next hSame =>
        rcases hSame with ⟨rfl, rfl⟩
        rw [hTrigger]
        refine ⟨_, rfl, ?_⟩
        rw [Trigger.attempted_isBound, hBound, Bool.or_true]
    · exact ⟨t, hTrigger, hBound⟩

/- A turn retains what was built. -/
theorem retains_of_turn
    (hTurn : Turn allowed e deeds e') :
    e.Retains e' := by
  cases hTurn with
  | quiet hChange hBus hBuilt =>
      rcases hBuilt with ⟨ws, -, hBuilt⟩
      exact retains_of_built hBuilt
  | attempted place index w t hWorkflow hActive hTrigger =>
      rcases bindTrigger_deeds e place index t.type with
        ⟨isDone, ns, -, hEngine, -⟩
      rw [hEngine]
      have hAttempt :=
        retains_of_attempt e place index
          (Bus.numbered e.bus.issued
            (t.type.heardRequests place index)) isDone
      exact ⟨hAttempt.definitions, hAttempt.bound⟩
  | subscribed event number s bus hBegan =>
      exact retains_of_built (List.append_nil e.built).symm
  | unsubscribed s =>
      exact retains_of_built (List.append_nil e.built).symm

/- Whatever an engine lives through, it retains. -/
theorem retains_of_lives
    (hLives : Lives allowed e e') :
    e.Retains e' := by
  rcases hLives with ⟨deeds, hChronicle⟩
  induction hChronicle with
  | here => exact .refl e
  | turned hBefore hTurn ih =>
      exact ih.trans (retains_of_turn hTurn)

end Engine

end EventFlow

------------------------------------------------------------
-- Idle Workflows
------------------------------------------------------------

namespace EventFlow

namespace Engine

variable {e : Engine}
variable {deeds : List Deed}
variable {place index : Nat}
variable {t : Trigger}

variable [Surroundings]

/- To fire a trigger that is not bound is refused. -/
theorem fire_of_unbound
    (hTrigger : e.triggerAt? place index = some t)
    (hUnbound : ¬ t.isBound)
    (payload correlationId : Value) :
    fire place index payload correlationId e =
      (.error (.triggerUnbound t.type.slug), e) := by
  rw [triggerAt?] at hTrigger
  rw [fire, Act.look_bind, hTrigger]
  dsimp only
  rw [fireTrigger, Act.look_bind,
    Bool.eq_false_iff.mpr hUnbound]
  cases t.owner?.bind e.workflowAt? with
  | none => rfl
  | some w => rfl

/- What is not there cannot be fired. -/
theorem fire_of_absent
    (hNone : e.triggerAt? place index = none)
    (payload correlationId : Value) :
    fire place index payload correlationId e =
      (.error .indexOutOfRange, e) := by
  rw [triggerAt?] at hNone
  rw [fire, Act.look_bind, hNone]
  rfl

/- A workflow that is not active is never run. -/
theorem fire_of_idle
    (hAccords : e.Accords deeds)
    (hIdle : ¬ e.IsActiveAt place)
    (index : Nat)
    (payload correlationId : Value) :
    ∃ failure,
      fire place index payload correlationId e =
        (.error failure, e) := by
  cases hTrigger : e.triggerAt? place index with
  | none =>
      exact ⟨_, fire_of_absent hTrigger payload
        correlationId⟩
  | some t =>
      have hUnbound : ¬ t.isBound := fun hBound =>
        hIdle (hAccords.isActiveAt hTrigger hBound)
      exact ⟨_, fire_of_unbound hTrigger hUnbound payload
        correlationId⟩

omit [Surroundings] in
/- A workflow stays as active as it was. -/
theorem Retains.isActiveAt_iff
    {e' : Engine}
    (hRetains : e.Retains e')
    {w : Workflow}
    (hFound : e.workflowAt? place = some w) :
    e'.IsActiveAt place ↔ w.definition.active := by
  have hDefinition :
      e'.definitionAt? place = some w.definition :=
    hRetains.definitions place w.definition
      (Option.map_eq_some_iff.mpr ⟨w, hFound, rfl⟩)
  constructor
  · rintro ⟨d, hSame, hActive⟩
    rw [hDefinition] at hSame
    cases hSame
    exact hActive
  · intro hActive
    exact ⟨w.definition, hDefinition, hActive⟩

end Engine

end EventFlow

------------------------------------------------------------
-- Sessions
------------------------------------------------------------

namespace EventFlow

/- Any type of steps. -/
def StepType.IsAny (_ : StepType) : Prop := True

namespace Session

variable [Surroundings]

/-
  Whether the workflow at a place is idle: its triggers
  refuse to be fired, and no call of a dispatch to one of
  them completes, so that no result is one of its own.
-/
structure IsIdleAt
    (s : Session)
    (place : Nat) : Prop where
  refuses :
    ∀ index t payload correlationId,
      s.engine.triggerAt? place index = some t →
        Engine.fire place index payload correlationId
            s.engine =
          (.error (.triggerUnbound t.type.slug), s.engine)
  incomplete :
    ∀ depth event payload correlationId,
      ∀ call ∈ (host depth).callsOf event payload
        correlationId s,
        ∀ index,
          call.listener = .trigger place index →
            call.result? = none
  results :
    ∀ depth event payload correlationId result t,
      (host depth).dispatch event payload correlationId s =
          (.ok result, t) →
        result.results =
          ((host depth).callsOf event payload correlationId
            s).filterMap Served.result?

variable {allowed : StepType → Prop}
variable {s t : Session}

/- A host serves no trigger that cannot be fired. -/
theorem serve_of_unfired
    {place index : Nat}
    {payload correlationId : Value}
    {failure : Failure}
    {e : Engine}
    (hFire :
      Engine.fire place index payload correlationId
        s.engine = (.error failure, e))
    (depth : Nat) :
    ∃ other,
      ((host depth).serve (.trigger place index) payload
        correlationId s).1 = .error other := by
  cases depth with
  | zero => exact ⟨_, rfl⟩
  | succ depth =>
      have hOn :
          onEngine
              (Engine.fire place index payload
                correlationId) s =
            (.error failure, { s with engine := e }) := by
        simp only [onEngine, Act.on, hFire]
      refine ⟨failure, ?_⟩
      exact congrArg Prod.fst (Act.bind_of_error hOn)

/- No call to a trigger of an idle workflow completes. -/
theorem result?_of_idle
    {opened : Session}
    {place : Nat}
    (hAccords :
      ∀ u, Reached allowed opened u →
        ∃ deeds, u.engine.Accords deeds)
    (hIdle :
      ∀ u, Reached allowed s u → ¬ u.engine.IsActiveAt place)
    (hReached : Reached allowed opened s)
    {depth : Nat}
    {event : String}
    {payload correlationId : Value}
    {call : Served}
    (hCall :
      call ∈ (host depth).callsOf event payload
        correlationId s)
    {index : Nat}
    (hListener : call.listener = .trigger place index) :
    call.result? = none := by
  rcases Host.served_of_mem_callsOf
      (P := fun u =>
        Reached allowed opened u ∧ Reached allowed s u)
      (fun listener payload correlationId u hBoth =>
        ⟨hBoth.1.hosted depth listener payload correlationId,
          hBoth.2.hosted depth listener payload
            correlationId⟩)
      (fun notice u hBoth =>
        ⟨hBoth.1.told depth notice,
          hBoth.2.told depth notice⟩)
      ⟨hReached, .here⟩ hCall with
    ⟨u, ⟨hUntil, hSince⟩, hServed⟩
  rcases hAccords u hUntil with ⟨deeds, hTold⟩
  rcases Engine.fire_of_idle hTold (hIdle u hSince) index
    call.payload call.correlationId with ⟨failure, hFire⟩
  rcases serve_of_unfired hFire depth with ⟨other, hFailed⟩
  rw [hListener, hFailed] at hServed
  rw [Served.result?, ← hServed]
  rfl

end Session

end EventFlow

------------------------------------------------------------
-- Triggers In Order
------------------------------------------------------------

namespace EventFlow

namespace Session

section

variable [Surroundings]

/-
  Consider any point of a session that was opened.  The deeds
  of its engine since it was made are known, and whatever
  they are, every plain trigger of a workflow is in order
  after them.  A bound trigger is bound at every later point,
  and a workflow that is not active is idle.
-/
theorem triggers_stay_in_order
    {r : EngineRequest}
    {env : List (String × String)}
    {files : Files}
    {level? : Option Value}
    {opened s : Session}
    (hOpened : start r env files level? = .ok opened)
    (hReached : Reached StepType.IsAny opened s) :
    ∃ e₀ : Engine,
      e₀.IsMade ∧
      (∃ deeds,
        Engine.Chronicle StepType.IsAny e₀ deeds s.engine) ∧
      (∀ deeds place index t,
        Engine.Chronicle StepType.IsAny e₀ deeds s.engine →
          s.engine.triggerAt? place index = some t →
            t.type.IsPlain →
              t.IsInOrder deeds s.engine place index) ∧
      (∀ later place index t,
        Reached StepType.IsAny s later →
          s.engine.triggerAt? place index = some t →
            t.isBound →
              ∃ t',
                later.engine.triggerAt? place index =
                    some t' ∧
                  t'.isBound) ∧
      ∀ place w,
        s.engine.workflowAt? place = some w →
          ¬ w.definition.active →
            s.IsIdleAt place := by
  rcases start_lives
      (fun _ _ => trivial) hOpened with
    ⟨hOpen, e₀, hMade, hFrom⟩
  have hBus := hMade.bus_eq
  have hBuilt := hMade.built_eq
  rcases continues_of_reached hReached hOpen with
    ⟨hUntil, hProper⟩
  have hAccords :
      ∀ u, Reached StepType.IsAny opened u →
        ∃ deeds, u.engine.Accords deeds := by
    intro u hSince
    rcases hFrom.trans (continues_of_reached hSince hOpen).1
      with ⟨deeds, hChronicle⟩
    exact ⟨deeds,
      Engine.accords_of_chronicle hBuilt hChronicle⟩
  refine ⟨e₀, hMade, hFrom.trans hUntil, ?_, ?_, ?_⟩
  · intro deeds place index t hChronicle hTrigger hPlain
    exact Engine.isInOrder_of_accords
      (Engine.accords_of_chronicle hBuilt hChronicle)
      (Engine.history_of_chronicle hBus hChronicle) hTrigger
      hPlain
  · intro later place index t hLater hTrigger hBound
    have hRetains := Engine.retains_of_lives
      (continues_of_reached hLater hProper).1
    exact hRetains.bound place index t hTrigger hBound
  · intro place w hFound hIdle
    have hNever :
        ∀ u, Reached StepType.IsAny s u →
          ¬ u.engine.IsActiveAt place := by
      intro u hSince
      have hRetains := Engine.retains_of_lives
        (continues_of_reached hSince hProper).1
      rw [hRetains.isActiveAt_iff hFound]
      exact hIdle
    constructor
    · intro index t payload correlationId hTrigger
      rcases hAccords s hReached with ⟨deeds, hTold⟩
      have hUnbound : ¬ t.isBound := fun hBound =>
        hNever s .here (hTold.isActiveAt hTrigger hBound)
      exact Engine.fire_of_unbound hTrigger hUnbound payload
        correlationId
    · intro depth event payload correlationId call hCall
        index hListener
      exact result?_of_idle hAccords hNever hReached hCall
        hListener
    · intro depth event payload correlationId result t
        hDispatch
      exact Host.results_of_dispatch hDispatch

end

open scoped Bare

/- A new session with the built-in types. -/
def furnished : Session :=
  settle
    { engine :=
        (Engine.registerBuiltins { access := .contacts {} }).2 }

/- A definition that listens to new contacts. -/
def greeting (id : String) (isActive : Bool) : Value :=
  .object [
    ("id", .str id),
    ("name", .str id),
    ("active", .bool isActive),
    ("triggers", .list [.str "crm/contact_created"]),
    ("initial_step", .str "greet"),
    ("steps",
      .object [
        ("greet",
          .object [
            ("slug", .str "crm/add_contact_log"),
            ("attributes", .object [("type", .str "call")])
          ])
      ])
  ]

/-
  Two workflows are added, of which only the first is active;
  its trigger is bound twice, and loses a subscription.
-/
def errands : List Command := [
  .add (greeting "busy" true) true none,
  .add (greeting "idle" false) true none,
  .init (.index 0),
  .unsubscribeTrigger { workflow := .index 0 }
]

/- A new session in which the errands were run. -/
def greeted : Session :=
  furnished.after 0 errands

/-
  A trigger that was bound twice keeps both subscriptions,
  one of which is live; the other workflow is idle.
-/
theorem triggers_stay_in_order_greeted :
    start {} [] [] none = .ok furnished ∧
      Reached StepType.IsAny furnished greeted ∧
      greeted.engine.bus.live =
        [⟨2, "contact_created", .trigger 0 0⟩] ∧
      (∃ e₀ deeds t,
        Engine.Chronicle StepType.IsAny e₀ deeds
            greeted.engine ∧
          greeted.engine.triggerAt? 0 0 = some t ∧
          t.isBound ∧
          t.IsInOrder deeds greeted.engine 0 0 ∧
          deeds.count (.bound 0 0) = 2) ∧
      greeted.IsIdleAt 1 := by
  have hOpened : start {} [] [] none = .ok furnished := rfl
  have hReached : Reached StepType.IsAny furnished greeted :=
    .after .here 0 ⟨trivial, trivial, trivial, trivial, trivial⟩
  have hSeen :
      greeted.engine.bus.live =
          [⟨2, "contact_created", .trigger 0 0⟩] ∧
        (greeted.engine.triggerAt? 0 0).map
            (fun t =>
              (t.isBound, t.type.alsoHears,
                t.subscriptions.length)) =
          some (true, [], 2) ∧
        (greeted.engine.workflowAt? 1).map
            (fun w => w.definition.active) =
          some false := by
    decide +kernel
  rcases hSeen with ⟨hLive, hTrigger, hWorkflow⟩
  rcases Option.map_eq_some_iff.mp hTrigger with
    ⟨t, hFound, hTold⟩
  rcases Option.map_eq_some_iff.mp hWorkflow with
    ⟨w, hIdleAt, hIdle⟩
  simp only [Prod.mk.injEq] at hTold
  rcases hTold with ⟨hBound, hPlain, hLength⟩
  rcases triggers_stay_in_order hOpened hReached with
    ⟨e₀, -, ⟨deeds, hChronicle⟩, hOrder, -, hRests⟩
  have hIsInOrder :=
    hOrder deeds 0 0 t hChronicle hFound hPlain
  refine ⟨hOpened, hReached, hLive, ?_, ?_⟩
  · exact ⟨e₀, deeds, t, hChronicle, hFound, hBound,
      hIsInOrder, hIsInOrder.counted.symm.trans hLength⟩
  · refine hRests 1 w hIdleAt ?_
    rw [hIdle]
    exact Bool.false_ne_true

end Session

end EventFlow
