import EventFlow.Engine.Binding
import EventFlow.Proofs.Acts
import Mathlib.Data.List.TakeWhile

/-
  What binding does to an engine.

  A bus that is asked for subscriptions begins them in order
  and numbers them on from the last one that it began.  To
  bind a workflow that is active asks for one subscription
  to every event of every trigger, in order; each trigger
  keeps its own, and nothing else changes.

  Key definitions include:
    * `Bus.Request`
    * `Bus.extended`
    * `Workflow.requests`
    * `Workflow.bound`

  Key theorems include:
    * `Engine.listen_eq`
    * `Engine.bindTriggers_eq`
    * `Engine.init_eq`
    * `Engine.initAll_eq`
-/

------------------------------------------------------------
-- Requests of a Bus
------------------------------------------------------------

namespace EventFlow

namespace Bus

/- What a listener asks for. -/
structure Request where
  event : String
  listener : Listener

/- The subscriptions that are begun behind a number of others. -/
def numbered (issued : Nat) :
    List Request → List Subscription
| [] => []
| request :: requests =>
    { id := issued + 1
      event := request.event
      listener := request.listener } ::
    numbered (issued + 1) requests

/- A bus that was asked for subscriptions. -/
def extended
    (b : Bus)
    (requests : List Request) : Bus :=
  { issued := b.issued + requests.length
    live := b.live ++ numbered b.issued requests }

variable {b : Bus}
variable {issued : Nat}
variable {requests : List Request}

theorem numbered_append (others : List Request) :
    numbered issued (requests ++ others) =
      numbered issued requests ++
        numbered (issued + requests.length) others := by
  induction requests generalizing issued with
  | nil => rfl
  | cons request requests ih =>
      rw [List.cons_append, numbered, ih, numbered,
        List.length_cons, Nat.add_assoc issued 1,
        Nat.add_comm 1]
      rfl

@[simp] theorem map_event_numbered :
    (numbered issued requests).map Subscription.event =
      requests.map Request.event := by
  induction requests generalizing issued with
  | nil => rfl
  | cons request requests ih => simp [numbered, ih]

@[simp] theorem map_listener_numbered :
    (numbered issued requests).map Subscription.listener =
      requests.map Request.listener := by
  induction requests generalizing issued with
  | nil => rfl
  | cons request requests ih => simp [numbered, ih]

@[simp] theorem extended_nil : b.extended [] = b := by
  simp [extended, numbered]

@[simp] theorem extended_extended (others : List Request) :
    (b.extended requests).extended others =
      b.extended (requests ++ others) := by
  simp [extended, numbered_append, Nat.add_assoc]

theorem extended_cons
    (request : Request)
    (requests : List Request) :
    b.extended (request :: requests) =
      (b.extended [request]).extended requests := by
  rw [extended_extended, List.singleton_append]

/- A bus takes the request of an event that is not blank. -/
theorem subscribe_of_event
    {event : String}
    (hEvent : ¬ Text.isBlankText event)
    (listener : Listener) :
    b.subscribe event listener =
      .ok (b.next event listener,
        b.extended [⟨event, listener⟩]) := by
  rw [subscribe, if_neg hEvent]
  rfl

end Bus

end EventFlow

------------------------------------------------------------
-- Bound Workflows
------------------------------------------------------------

namespace EventFlow

namespace TriggerType

/- Whether no event that a trigger hears is blank. -/
def IsAudible (type : TriggerType) : Prop :=
  ∀ event ∈ type.events, ¬ Text.isBlankText event

instance (type : TriggerType) : Decidable type.IsAudible :=
  inferInstanceAs <| Decidable <|
    ∀ event ∈ type.events, ¬ Text.isBlankText event

/-
  The events that a trigger of a type comes to hear: the
  ones before the first that is blank.
-/
def heard (type : TriggerType) : List String :=
  type.events.takeWhile fun event => !Text.isBlankText event

/- A type that can be heard is heard as a whole. -/
theorem heard_eq_events_iff (type : TriggerType) :
    type.heard = type.events ↔ type.IsAudible := by
  rw [heard, List.takeWhile_eq_self_iff]
  simp [IsAudible]

/- What a trigger of a type asks for. -/
def requests
    (type : TriggerType)
    (place index : Nat) : List Bus.Request :=
  type.events.map fun event =>
    ⟨event, .trigger place index⟩

end TriggerType

namespace Trigger

/- A trigger with more subscriptions. -/
def listening
    (subscriptions : List Subscription)
    (t : Trigger) : Trigger :=
  { t with
    subscriptions := t.subscriptions ++ subscriptions }

/- To listen to more in turn is to listen to all of it. -/
theorem listening_comp
    (s : Subscription)
    (subscriptions : List Subscription) :
    listening subscriptions ∘ listening [s] =
      listening (s :: subscriptions) := by
  funext t
  simp [listening]

/- A trigger of a workflow with more subscriptions. -/
def claimed
    (place : Nat)
    (subscriptions : List Subscription)
    (t : Trigger) : Trigger :=
  { t with
    owner? := some place
    subscriptions := t.subscriptions ++ subscriptions }

/- A trigger that was bound with more subscriptions. -/
def bound
    (place : Nat)
    (subscriptions : List Subscription)
    (t : Trigger) : Trigger :=
  { t with
    owner? := some place
    isBound := true
    subscriptions := t.subscriptions ++ subscriptions }

/- What triggers from an index on ask for. -/
def requestsFrom
    (place index : Nat)
    (ts : List Trigger) : List Bus.Request :=
  (ts.zipIdx index).flatMap fun (t, index) =>
    t.type.requests place index

/- Triggers from an index on that were bound in order. -/
def boundFrom (issued place index : Nat) :
    List Trigger → List Trigger
| [] => []
| t :: ts =>
    let requests := t.type.requests place index
    t.bound place (Bus.numbered issued requests) ::
      boundFrom (issued + requests.length) place
        (index + 1) ts

end Trigger

namespace Workflow

/- Whether no trigger of a workflow hears a blank event. -/
def IsAudible (w : Workflow) : Prop :=
  ∀ t ∈ w.triggers, t.type.IsAudible

/- What the triggers of a workflow ask for. -/
def requests
    (w : Workflow)
    (place : Nat) : List Bus.Request :=
  if w.definition.active then
    Trigger.requestsFrom place 0 w.triggers
  else
    []

/- A workflow whose triggers were bound. -/
def bound
    (w : Workflow)
    (issued place : Nat) : Workflow :=
  if w.definition.active then
    { w with
      triggers :=
        Trigger.boundFrom issued place 0 w.triggers }
  else
    w

/- What workflows from a place on ask for. -/
def requestsFrom
    (place : Nat)
    (ws : List Workflow) : List Bus.Request :=
  (ws.zipIdx place).flatMap fun (w, place) =>
    w.requests place

/- Workflows from a place on that were bound in order. -/
def boundFrom (issued place : Nat) :
    List Workflow → List Workflow
| [] => []
| w :: ws =>
    w.bound issued place ::
      boundFrom (issued + (w.requests place).length)
        (place + 1) ws

/- To bind workflows changes none of their definitions. -/
theorem map_definition_boundFrom
    (issued place : Nat)
    (ws : List Workflow) :
    (boundFrom issued place ws).map definition =
      ws.map definition := by
  induction ws generalizing issued place with
  | nil => rfl
  | cons w ws ih =>
      have hFirst :
          (w.bound issued place).definition =
            w.definition := by
        unfold bound
        split <;> rfl
      simp [boundFrom, hFirst, ih]

end Workflow

end EventFlow

------------------------------------------------------------
-- Binding Triggers
------------------------------------------------------------

namespace EventFlow

namespace Engine

variable {e : Engine}

@[simp] theorem hear_nil : hear [] e = e := by
  simp [hear]

/- Notices that are told in turn are told in order. -/
@[simp] theorem hear_hear
    (notices others : List Notice) :
    hear others (hear notices e) =
      hear (notices ++ others) e := by
  simp [hear]

/- Change a trigger of the workflow at a place. -/
def withTrigger
    (place index : Nat)
    (f : Trigger → Trigger) : Engine → Engine :=
  changeWorkflow place (·.changeTrigger index f)

/- Changes of one trigger in turn are one change. -/
theorem withTrigger_withTrigger
    (place index : Nat)
    (f g : Trigger → Trigger) :
    withTrigger place index g
        (withTrigger place index f e) =
      withTrigger place index (g ∘ f) e := by
  have hWorkflow :
      (fun w => Workflow.changeTrigger w index g) ∘
          (fun w => Workflow.changeTrigger w index f) =
        fun w => Workflow.changeTrigger w index (g ∘ f) := by
    funext w
    simp [Workflow.changeTrigger, List.modify_modify_eq]
  simp [withTrigger, changeWorkflow, List.modify_modify_eq,
    hWorkflow]

theorem withTrigger_id (place index : Nat) :
    withTrigger place index id e = e := by
  have hWorkflow :
      (fun w => Workflow.changeTrigger w index id) = id := by
    funext w
    simp [Workflow.changeTrigger]
  simp [withTrigger, changeWorkflow, hWorkflow]

/- An event that is not blank is subscribed to. -/
theorem subscribe_eq
    {event : String}
    (hEvent : ¬ Text.isBlankText event)
    (listener : Listener) :
    ∃ ns,
      subscribe event listener e =
        (.ok (e.bus.next event listener),
          hear ns
            { e with
              bus := e.bus.extended [⟨event, listener⟩] }) := by
  refine ⟨[.subscribed event (e.bus.issued + 1)], ?_⟩
  rw [subscribe, Act.look_bind,
    Bus.subscribe_of_event hEvent]
  rfl

/- A blank event is not subscribed to. -/
theorem subscribe_of_blank
    {event : String}
    (hBlank : Text.isBlankText event)
    (listener : Listener) :
    subscribe event listener e = (.error .eventBlank, e) := by
  rw [subscribe, Act.look_bind, Bus.subscribe,
    if_pos hBlank, Act.ofExcept_bind_of_error rfl]

/-
  A trigger that listens to events asks for each of them up
  to a blank one, at which it fails, and keeps the
  subscriptions.
-/
theorem listen_heard
    (place index : Nat)
    (events : List String) :
    let heard :=
      events.takeWhile fun event => !Text.isBlankText event
    let requests : List Bus.Request :=
      heard.map fun event => ⟨event, .trigger place index⟩
    ∃ ns,
      listen place index events e =
        (if heard = events then
            .ok ()
          else
            .error .eventBlank,
          hear ns <|
            withTrigger place index
              (Trigger.listening
                (Bus.numbered e.bus.issued requests))
              { e with bus := e.bus.extended requests }) := by
  have hNothing : Trigger.listening [] = id := by
    funext t
    simp [Trigger.listening]
  induction events generalizing e with
  | nil =>
      refine ⟨[], ?_⟩
      simp [listen, Bus.numbered, hNothing, withTrigger_id,
        hear]
  | cons event events ih =>
      by_cases hEvent : Text.isBlankText event
      · refine ⟨[], ?_⟩
        rw [listen,
          Act.bind_of_error (subscribe_of_blank hEvent _)]
        simp [hEvent, Bus.numbered, hNothing,
          withTrigger_id, hear]
      · rcases subscribe_eq (e := e) hEvent
          (.trigger place index) with ⟨ns, hSubscribe⟩
        rcases ih (e := withTrigger place index _ (hear ns _))
          with ⟨ms, hRest⟩
        refine ⟨ns ++ ms, ?_⟩
        have hHeard :
            (event :: events).takeWhile
                (fun event => !Text.isBlankText event) =
              event ::
                events.takeWhile
                  fun event => !Text.isBlankText event := by
          simp [hEvent]
        rw [listen, Act.bind_of_ok hSubscribe]
        refine Eq.trans hRest (Prod.ext ?_ ?_)
        · simp only [hHeard, List.cons_inj_right]
        · rw [hHeard, ← hear_hear, List.map_cons,
            Bus.numbered, ← Trigger.listening_comp,
            ← withTrigger_withTrigger,
            Bus.extended_cons _ (List.map _ _)]
          rfl

/-
  A trigger that listens to events none of which is blank
  asks for each of them, and keeps the subscriptions.
-/
theorem listen_eq
    {events : List String}
    (hEvents : ∀ event ∈ events, ¬ Text.isBlankText event)
    (place index : Nat) :
    let requests : List Bus.Request :=
      events.map fun event => ⟨event, .trigger place index⟩
    ∃ ns,
      listen place index events e =
        (.ok (),
          hear ns <|
            withTrigger place index
              (Trigger.listening
                (Bus.numbered e.bus.issued requests))
              { e with bus := e.bus.extended requests }) := by
  have hHeard :
      events.takeWhile
          (fun event => !Text.isBlankText event) =
        events := by
    rw [List.takeWhile_eq_self_iff]
    intro event hMem
    simp [hEvents event hMem]
  rcases listen_heard (e := e) place index events with
    ⟨ns, hListen⟩
  rw [hHeard, if_pos rfl] at hListen
  exact ⟨ns, hListen⟩

/-
  A trigger that hears a blank event is given to the
  workflow at the place and asks for the events before the
  blank one, but is not bound.
-/
theorem bindTrigger_of_blank
    {type : TriggerType}
    (hBlank : ¬ type.IsAudible)
    (place index : Nat) :
    let requests : List Bus.Request :=
      type.heard.map fun event =>
        ⟨event, .trigger place index⟩
    ∃ ns,
      bindTrigger place index type e =
        (.error .eventBlank,
          hear ns <|
            withTrigger place index
              (Trigger.claimed place
                (Bus.numbered e.bus.issued requests))
              { e with bus := e.bus.extended requests }) := by
  rcases listen_heard
    (e := withTrigger place index
      (fun t => { t with owner? := some place }) e)
    place index type.events with
    ⟨ns, hListen⟩
  have hPart : ¬ type.heard = type.events := fun hWhole =>
    hBlank (type.heard_eq_events_iff.mp hWhole)
  have hClaimed (subscriptions : List Subscription) :
      Trigger.claimed place subscriptions =
        Trigger.listening subscriptions ∘
          fun t => { t with owner? := some place } := rfl
  refine ⟨ns, ?_⟩
  rw [hClaimed, ← withTrigger_withTrigger, bindTrigger,
    changeTrigger, Act.change_bind]
  exact Act.bind_of_error
    (hListen.trans (Prod.ext (if_neg hPart) rfl))

/-
  A trigger that is bound asks for each of its events, and
  is bound to the workflow at the place.
-/
theorem bindTrigger_eq
    {type : TriggerType}
    (hAudible : type.IsAudible)
    (place index : Nat) :
    ∃ ns,
      bindTrigger place index type e =
        (.ok (),
          hear ns <|
            withTrigger place index
              (Trigger.bound place
                (Bus.numbered e.bus.issued
                  (type.requests place index)))
              { e with
                bus :=
                  e.bus.extended
                    (type.requests place index) }) := by
  rcases listen_eq
    (e := withTrigger place index
      (fun t => { t with owner? := some place }) e)
    hAudible place index with ⟨ns, hListen⟩
  have hTold (e' : Engine) :
      ∃ ms,
        tellBound place index e' = (.ok (), hear ms e') := by
    unfold tellBound
    split
    · exact ⟨_, rfl⟩
    · exact ⟨[], by simp [hear]⟩
  rcases hTold
    (withTrigger place index
      (fun t => { t with isBound := true })
      (hear ns _)) with ⟨ms, hTell⟩
  refine ⟨ns ++ ms, ?_⟩
  have hBound :
      Trigger.bound place
          (Bus.numbered e.bus.issued
            (type.requests place index)) =
        (fun t => { t with isBound := true }) ∘
          Trigger.listening
            (Bus.numbered e.bus.issued
              (type.requests place index)) ∘
            fun t => { t with owner? := some place } := rfl
  rw [hBound, ← withTrigger_withTrigger,
    ← withTrigger_withTrigger, ← hear_hear, bindTrigger,
    changeTrigger, Act.change_bind]
  refine Eq.trans (Act.bind_of_ok hListen) ?_
  exact hTell

end Engine

end EventFlow

------------------------------------------------------------
-- Binding Workflows
------------------------------------------------------------

namespace EventFlow

namespace Engine

variable {e : Engine}
variable {before after : List Workflow}

/- An engine whose bus took requests, with workflows. -/
def bound
    (requests : List Bus.Request)
    (built : List Workflow)
    (e : Engine) : Engine :=
  { e with
    bus := e.bus.extended requests
    built := built }

/- To bind without a request leaves the engine. -/
theorem bound_nil
    {built : List Workflow}
    (hBuilt : e.built = built) :
    e.bound [] built = e := by
  simp [bound, ← hBuilt]

/- To bind in turn is to take the requests in order. -/
theorem bound_bound
    (requests others : List Bus.Request)
    (built rebuilt : List Workflow)
    (notices : List Notice) :
    bound others rebuilt
        (hear notices (bound requests built e)) =
      hear notices
        (bound (requests ++ others) rebuilt e) := by
  simp [bound, hear]

/- The trigger that stands behind others is changed. -/
theorem withTrigger_of_built
    {d : WorkflowDefinition}
    {done ts : List Trigger}
    {t : Trigger}
    (hBuilt :
      e.built = before ++ ⟨d, done ++ t :: ts⟩ :: after)
    (f : Trigger → Trigger)
    (requests : List Bus.Request) :
    withTrigger before.length done.length f
        { e with bus := e.bus.extended requests } =
      e.bound requests
        (before ++ ⟨d, done ++ f t :: ts⟩ :: after) := by
  simp [withTrigger, changeWorkflow, hBuilt, bound,
    Workflow.changeTrigger, List.modify_eq_take_drop]

/-
  Triggers that stand between others are bound in order, and
  the others are left as they are.
-/
theorem bindTriggers_eq
    {d : WorkflowDefinition}
    (done rest : List Trigger)
    {ts : List Trigger}
    (hBuilt :
      e.built = before ++ ⟨d, done ++ (ts ++ rest)⟩ :: after)
    (hAudible : ∀ t ∈ ts, t.type.IsAudible) :
    ∃ ns,
      bindTriggers before.length done.length
          (ts.map Trigger.type) e =
        (.ok (),
          hear ns <|
            e.bound
              (Trigger.requestsFrom before.length
                done.length ts)
              (before ++
                ⟨d, done ++
                  (Trigger.boundFrom e.bus.issued
                    before.length done.length ts ++
                  rest)⟩ ::
                after)) := by
  induction ts generalizing e done with
  | nil =>
      refine ⟨[], ?_⟩
      rw [hear_nil]
      exact congrArg (Except.ok (), ·)
        (bound_nil hBuilt).symm
  | cons t ts ih =>
      rw [List.forall_mem_cons] at hAudible
      rcases bindTrigger_eq (e := e) hAudible.1
        before.length done.length with ⟨ns, hFirst⟩
      rw [withTrigger_of_built hBuilt] at hFirst
      rcases ih (e := hear ns (e.bound _ _)) (done ++ [_])
        (congrArg (before ++ ⟨d, ·⟩ :: after)
          (List.append_cons _ _ _)) hAudible.2 with
        ⟨ms, hRest⟩
      refine ⟨ns ++ ms, ?_⟩
      rw [bound_bound, hear_hear, List.length_append,
        List.append_assoc done] at hRest
      rw [List.map_cons, bindTriggers, Act.bind_of_ok hFirst]
      exact hRest

/-
  To bind the workflow that stands behind others binds its
  triggers if it is active, and leaves it if it is not.
-/
theorem init_eq
    {w : Workflow}
    (hBuilt : e.built = before ++ w :: after)
    (hAudible : w.IsAudible) :
    ∃ ns,
      init before.length e =
        (.ok (),
          hear ns <|
            e.bound (w.requests before.length)
              (before ++
                w.bound e.bus.issued before.length ::
                after)) := by
  have hFound : e.workflowAt? before.length = some w := by
    simp [workflowAt?, hBuilt]
  rw [init, Act.look_bind, hFound]
  dsimp only
  cases hActive : w.definition.active with
  | true =>
      have hWhole :
          e.built =
            before ++ ⟨w.definition, [] ++ (w.triggers ++ [])⟩
              :: after := by
        rw [List.append_nil]
        exact hBuilt
      rcases bindTriggers_eq [] [] hWhole hAudible with
        ⟨ns, hBind⟩
      refine ⟨ns, ?_⟩
      rw [List.append_nil] at hBind
      rw [if_pos rfl, Workflow.requests, if_pos hActive,
        Workflow.bound, if_pos hActive]
      exact hBind
  | false =>
      refine ⟨[.bindingSkipped w.id], ?_⟩
      have hIdle : ¬ w.definition.active = true := by
        rw [hActive]
        exact Bool.false_ne_true
      rw [if_neg Bool.false_ne_true, Workflow.requests,
        if_neg hIdle, Workflow.bound, if_neg hIdle,
        bound_nil hBuilt]
      rfl

/- Workflows that stand behind others are bound in order. -/
theorem initAll_eq
    (before : List Workflow)
    {ws : List Workflow}
    (hBuilt : e.built = before ++ ws)
    (hAudible : ∀ w ∈ ws, w.IsAudible) :
    ∃ ns,
      initAll (List.range' before.length ws.length) e =
        (.ok (),
          hear ns <|
            e.bound
              (Workflow.requestsFrom before.length ws)
              (before ++
                Workflow.boundFrom e.bus.issued
                  before.length ws)) := by
  induction ws generalizing e before with
  | nil =>
      refine ⟨[], ?_⟩
      rw [hear_nil]
      exact congrArg (Except.ok (), ·)
        (bound_nil hBuilt).symm
  | cons w ws ih =>
      rw [List.forall_mem_cons] at hAudible
      rcases init_eq hBuilt hAudible.1 with ⟨ns, hFirst⟩
      rcases ih (e := hear ns (e.bound _ _))
        (before ++ [_]) (List.append_cons _ _ _)
        hAudible.2 with ⟨ms, hRest⟩
      refine ⟨ns ++ ms, ?_⟩
      rw [bound_bound, hear_hear, List.length_append,
        List.append_assoc before] at hRest
      rw [List.length_cons, List.range'_succ, initAll,
        Act.bind_of_ok hFirst]
      exact hRest

end Engine

end EventFlow
