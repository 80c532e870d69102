import EventFlow.Proofs.Subscriptions
import EventFlow.Session.Perform

/-
  The delivery of events.

  A host that notes each of its calls delivers an event as
  the host itself does.  What it has noted behind a dispatch
  are the calls that the dispatch made: one for each
  subscription that was live when the dispatch began, in
  order, whatever the callers did to the bus meanwhile.

  Key definitions include:
    * `Served`
    * `Host.watched`
    * `Host.callsOf`

  Key theorems include:
    * `Host.keeps_dispatch`
    * `Host.exists_calls_deliver`
    * `Host.dispatch_serves_snapshot`
-/

------------------------------------------------------------
-- Calls
------------------------------------------------------------

namespace EventFlow

/- A call of a listener, and what came of it. -/
structure Served where
  listener : Listener
  payload : Value
  correlationId : Value
  outcome : Except Failure Delivery

namespace Served

/- What a listener was called with. -/
def request (c : Served) : Listener × Value × Value :=
  (c.listener, c.payload, c.correlationId)

/- What a call that completed has returned. -/
def result? (c : Served) : Option Delivery :=
  c.outcome.toOption

/- The failure of a call that did not complete. -/
def failure? (c : Served) : Option Failure :=
  Outcome.failure? c.outcome

/- Whether a call did not ask to stop. -/
def IsCaught (c : Served) : Prop :=
  ∀ failure,
    c.outcome = .error failure → ¬ failure.isInterrupt

/- What a call came to, before what others came to. -/
def collect :
    Except Failure Delivery →
      List Delivery × List Failure →
        List Delivery × List Failure
| .ok result, (results, errors) =>
    (result :: results, errors)
| .error failure, (results, errors) =>
    (results, failure :: errors)

/- What calls came to, in their order. -/
def collected
    (calls : List Served) :
    List Delivery × List Failure :=
  (calls.filterMap result?, calls.filterMap failure?)

theorem collected_cons
    (c : Served)
    (calls : List Served) :
    collected (c :: calls) =
      collect c.outcome (collected calls) := by
  rcases c with ⟨listener, payload, correlationId, outcome⟩
  cases outcome with
  | ok result => rfl
  | error failure => rfl

/- A call completes or fails. -/
theorem length_results_add_length_failures
    (calls : List Served) :
    (calls.filterMap result?).length +
      (calls.filterMap failure?).length = calls.length := by
  have hOutcomes :=
    Outcome.length_results_add_length_failures
      (calls.map outcome)
  rw [List.filterMap_map, List.filterMap_map,
    List.length_map] at hOutcomes
  exact hOutcomes

end Served

namespace Host

variable {σ : Type}

/- A host that notes its calls beside its state. -/
def watched (h : Host σ) : Host (σ × List Served) :=
  { engine := fun s => h.engine s.1
    setEngine := fun e s => (h.setEngine e s.1, s.2)
    serve := fun listener payload correlationId s =>
      let (outcome, t) :=
        h.serve listener payload correlationId s.1
      (outcome,
        (t, s.2 ++
          [⟨listener, payload, correlationId, outcome⟩])) }

/- The calls that a dispatch makes, in order. -/
def callsOf
    (h : Host σ)
    (event : String)
    (payload correlationId : Value)
    (s : σ) : List Served :=
  (h.watched.dispatch event payload correlationId
    (s, [])).2.2

end Host

end EventFlow

------------------------------------------------------------
-- Single Deliveries
------------------------------------------------------------

namespace EventFlow

namespace Host

variable {σ : Type}
variable {h : Host σ}
variable {event : String}
variable {payload correlationId : Value}
variable {sub : Subscription}
variable {rest : List Subscription}
variable {s t : σ}

/- To tell a notice does nothing but that. -/
theorem tell_apply (notice : Notice) :
    h.tell notice s =
      (.ok (),
        h.setEngine (Engine.hear [notice] (h.engine s)) s) :=
  rfl

/- The state in which the others are served after a call. -/
def behind
    (h : Host σ)
    (event : String)
    (correlationId : Value)
    (sub : Subscription)
    (outcome : Except Failure Delivery)
    (s : σ) : σ :=
  match outcome with
  | .ok _ => s
  | .error failure =>
      (h.tell
        (.subscriberFailed event sub.id correlationId
          failure) s).2

/- A request to stop ends the delivery. -/
theorem deliver_of_interrupt
    {failure : Failure}
    (hServed :
      h.serve sub.listener payload correlationId s =
        (.error failure, t))
    (hInterrupt : failure.isInterrupt) :
    h.deliver event payload correlationId (sub :: rest) s =
      (.error failure, t) := by
  rw [deliver, Act.attempt_bind _ hServed]
  dsimp only
  rw [if_pos hInterrupt]
  rfl

/-
  What any other call came to is collected before what the
  calls of the others come to.
-/
theorem deliver_cons
    {outcome : Except Failure Delivery}
    (hServed :
      h.serve sub.listener payload correlationId s =
        (outcome, t))
    (hCaught :
      ∀ failure,
        outcome = .error failure → ¬ failure.isInterrupt)
    (event : String)
    (rest : List Subscription) :
    let u := h.behind event correlationId sub outcome t
    h.deliver event payload correlationId (sub :: rest) s =
      ((h.deliver event payload correlationId rest u).1.map
          (Served.collect outcome),
        (h.deliver event payload correlationId rest u).2) := by
  intro u
  rw [deliver, Act.attempt_bind _ hServed]
  cases outcome with
  | ok result =>
      exact Act.bind_pure_apply _
        (Served.collect (.ok result)) u
  | error failure =>
      dsimp only
      rw [if_neg (hCaught failure rfl),
        Act.bind_of_ok (tell_apply _)]
      exact Act.bind_pure_apply _
        (Served.collect (.error failure)) u

end Host

end EventFlow

------------------------------------------------------------
-- Kept Relations
------------------------------------------------------------

namespace EventFlow

namespace Host

variable {σ : Type}
variable {h : Host σ}
variable {R : σ → σ → Prop} [IsPreorder σ R]

/-
  A delivery keeps what serving its subscribers and telling
  keep.
-/
theorem keeps_deliver
    (event : String)
    (payload correlationId : Value)
    {subscriptions : List Subscription}
    (hServes :
      ∀ sub ∈ subscriptions,
        (h.serve sub.listener payload correlationId).Keeps R)
    (hTells : ∀ notice, (h.tell notice).Keeps R) :
    (h.deliver event payload correlationId
      subscriptions).Keeps R := by
  induction subscriptions with
  | nil => exact .pure _
  | cons sub rest ih =>
      rw [List.forall_mem_cons] at hServes
      have hRest := ih hServes.2
      refine .bind (.attempt hServes.1) fun outcome => ?_
      cases outcome with
      | ok result => exact .bind hRest fun _ => .pure _
      | error failure =>
          change Act.Keeps _ (if _ then _ else _)
          split
          · exact .fail _
          · exact .bind (hTells _) fun _ =>
              .bind hRest fun _ => .pure _

/- A dispatch keeps what serving and telling keep. -/
theorem keeps_dispatch
    (hServes :
      ∀ listener payload correlationId,
        (h.serve listener payload correlationId).Keeps R)
    (hTells : ∀ notice, (h.tell notice).Keeps R)
    (event : String)
    (payload correlationId : Value) :
    (h.dispatch event payload correlationId).Keeps R := by
  refine .bind (.look _) fun subscriptions => ?_
  refine .bind (keeps_deliver _ _ _
    (fun sub _ => hServes sub.listener _ _) hTells)
      fun delivered => ?_
  exact .bind (hTells _) fun _ => .pure _

end Host

end EventFlow

------------------------------------------------------------
-- Watched Deliveries
------------------------------------------------------------

namespace EventFlow

namespace Host

variable {σ : Type}
variable {h : Host σ}

/- A watched host serves as the host, and notes the call. -/
theorem watched_serve
    {listener : Listener}
    {payload correlationId : Value}
    {s t : σ}
    {outcome : Except Failure Delivery}
    (hServed :
      h.serve listener payload correlationId s =
        (outcome, t))
    (noted : List Served) :
    h.watched.serve listener payload correlationId
        (s, noted) =
      (outcome,
        (t, noted ++
          [⟨listener, payload, correlationId, outcome⟩])) := by
  simp only [watched, hServed]

/- To tell a failure notes no call. -/
theorem behind_watched
    (event : String)
    (correlationId : Value)
    (sub : Subscription)
    (outcome : Except Failure Delivery)
    (s : σ)
    (noted : List Served) :
    h.watched.behind event correlationId sub outcome
        (s, noted) =
      (h.behind event correlationId sub outcome s,
        noted) := by
  cases outcome with
  | ok result => rfl
  | error failure => rfl

/-
  A watched host delivers an event as the host does.  If no
  call asks to stop, it makes one call for each of the
  subscriptions in order, and the delivery yields what the
  calls came to; if one does, the delivery fails.
-/
theorem exists_calls_deliver
    (event : String)
    (payload correlationId : Value)
    (subscriptions : List Subscription)
    (s : σ)
    (noted : List Served) :
    ∃ delivered t calls,
      h.deliver event payload correlationId subscriptions s =
        (delivered, t) ∧
      h.watched.deliver event payload correlationId
          subscriptions (s, noted) =
        (delivered, (t, noted ++ calls)) ∧
      ((∀ call ∈ calls, call.IsCaught) →
        calls.map Served.request =
            subscriptions.map
              (fun sub =>
                (sub.listener, payload, correlationId)) ∧
          delivered = .ok (Served.collected calls)) ∧
      (delivered.isOk → ∀ call ∈ calls, call.IsCaught) := by
  induction subscriptions generalizing s noted with
  | nil =>
      refine ⟨.ok ([], []), s, [], rfl, ?_, ?_, ?_⟩
      · rw [List.append_nil]
        rfl
      · intro _
        exact ⟨rfl, rfl⟩
      · intro _ call hCall
        cases hCall
  | cons sub rest ih =>
      cases hServed :
          h.serve sub.listener payload correlationId s with
      | mk outcome t =>
      let call : Served :=
        ⟨sub.listener, payload, correlationId, outcome⟩
      have hWatched := watched_serve hServed noted
      by_cases hCall : call.IsCaught
      · rcases ih (h.behind event correlationId sub outcome t)
          (noted ++ [call]) with
          ⟨delivered, u, calls, hRest, hRestWatched, hCalls,
            hOk⟩
        have hFirst := deliver_cons hServed hCall event rest
        have hFirstWatched :=
          deliver_cons hWatched hCall event rest
        dsimp only at hFirst hFirstWatched
        rw [hRest] at hFirst
        rw [behind_watched, hRestWatched,
          List.append_assoc] at hFirstWatched
        refine ⟨_, u, call :: calls, hFirst, hFirstWatched,
          ?_, ?_⟩
        · intro hCaught
          rw [List.forall_mem_cons] at hCaught
          rcases hCalls hCaught.2 with
            ⟨hRequests, hDelivered⟩
          rw [hDelivered, Served.collected_cons,
            List.map_cons, hRequests]
          exact ⟨rfl, rfl⟩
        · intro hDone
          rw [List.forall_mem_cons]
          refine ⟨hCall, hOk ?_⟩
          cases delivered with
          | ok collected => rfl
          | error failure => exact hDone
      · -- The call asked to stop, so that no other follows.
        have hStops := hCall
        simp only [Served.IsCaught, not_forall,
          not_not] at hStops
        rcases hStops with ⟨failure, hFailure, hInterrupt⟩
        cases hFailure
        refine ⟨_, t, [call],
          deliver_of_interrupt hServed hInterrupt,
          deliver_of_interrupt hWatched hInterrupt, ?_, ?_⟩
        · intro hCaught
          rw [List.forall_mem_singleton] at hCaught
          exact absurd hCaught hCall
        · intro hDone
          exact absurd hDone Bool.false_ne_true

end Host

end EventFlow

------------------------------------------------------------
-- Calls of a Dispatch
------------------------------------------------------------

namespace EventFlow

namespace Host

variable {σ : Type}
variable {h : Host σ}
variable {event : String}
variable {payload correlationId : Value}
variable {s : σ}

/- A dispatch tells what was delivered, and yields it. -/
theorem dispatch_of_delivered
    {delivered : List Delivery × List Failure}
    {t : σ}
    (hDelivered :
      h.deliver event payload correlationId
          ((h.engine s).bus.subscribers event) s =
        (.ok delivered, t)) :
    h.dispatch event payload correlationId s =
      (.ok
          { event := event
            results := delivered.1
            errors := delivered.2 },
        (h.tell
          (.dispatched event
            ((h.engine s).bus.subscribers event).length
            delivered.1.length delivered.2.length
            correlationId) t).2) := by
  rw [dispatch, Act.look_bind, Act.bind_of_ok hDelivered]
  exact Act.bind_of_ok (tell_apply _)

/- A dispatch that is stopped yields nothing. -/
theorem dispatch_of_stopped
    {failure : Failure}
    {t : σ}
    (hStopped :
      h.deliver event payload correlationId
          ((h.engine s).bus.subscribers event) s =
        (.error failure, t)) :
    h.dispatch event payload correlationId s =
      (.error failure, t) := by
  rw [dispatch, Act.look_bind]
  exact Act.bind_of_error hStopped

/- The calls of a dispatch are those of its delivery. -/
theorem callsOf_of_deliver
    {delivered :
      Except Failure (List Delivery × List Failure)}
    {t : σ}
    {calls : List Served}
    (hWatched :
      h.watched.deliver event payload correlationId
          ((h.engine s).bus.subscribers event) (s, []) =
        (delivered, (t, calls))) :
    h.callsOf event payload correlationId s = calls := by
  unfold callsOf
  cases delivered with
  | ok delivered => rw [dispatch_of_delivered hWatched]; rfl
  | error failure => rw [dispatch_of_stopped hWatched]

/-
  A dispatch none of whose calls asks to stop calls for each
  subscriber that there was when it began, and its result is
  what the calls came to.
-/
theorem dispatch_of_caught
    (hCaught :
      ∀ call ∈ h.callsOf event payload correlationId s,
        call.IsCaught) :
    let calls := h.callsOf event payload correlationId s
    let result : DispatchResult :=
      { event := event
        results := calls.filterMap Served.result?
        errors := calls.filterMap Served.failure? }
    calls.map Served.request =
        ((h.engine s).bus.subscribers event).map
          (fun sub =>
            (sub.listener, payload, correlationId)) ∧
      ∃ t,
        h.dispatch event payload correlationId s =
          (.ok result, t) ∧
        h.watched.dispatch event payload correlationId
            (s, []) =
          (.ok result, (t, calls)) := by
  rcases exists_calls_deliver (h := h) event payload
      correlationId ((h.engine s).bus.subscribers event) s []
    with ⟨delivered, t, calls, hRun, hWatched, hCalls, -⟩
  rw [List.nil_append] at hWatched
  have hNoted := callsOf_of_deliver hWatched
  rw [hNoted] at hCaught ⊢
  rcases hCalls hCaught with ⟨hRequests, rfl⟩
  refine ⟨hRequests, _, dispatch_of_delivered hRun, ?_⟩
  exact dispatch_of_delivered (h := h.watched)
    (s := (s, [])) hWatched

/- The results of a dispatch are those of its calls. -/
theorem results_of_dispatch
    {result : DispatchResult}
    {t : σ}
    (hDispatch :
      h.dispatch event payload correlationId s =
        (.ok result, t)) :
    result.results =
      (h.callsOf event payload correlationId s).filterMap
        Served.result? := by
  rcases exists_calls_deliver (h := h) event payload
      correlationId ((h.engine s).bus.subscribers event) s []
    with ⟨delivered, u, calls, hRun, hWatched, -, hOk⟩
  rw [List.nil_append] at hWatched
  cases delivered with
  | error failure =>
      rw [dispatch_of_stopped hRun] at hDispatch
      cases hDispatch
  | ok collected =>
      have hCaught := hOk rfl
      rw [← callsOf_of_deliver hWatched] at hCaught
      rcases dispatch_of_caught hCaught with
        ⟨-, v, hSame, -⟩
      rw [hSame] at hDispatch
      cases hDispatch
      rfl

end Host

end EventFlow

------------------------------------------------------------
-- States of Calls
------------------------------------------------------------

namespace EventFlow

namespace Host

variable {σ : Type}
variable {h : Host σ}
variable {P : σ → Prop}

/-
  Whether a watched host that starts where a property holds
  ends where it holds, and has served the calls that it noted
  in between where it holds.
-/
def ServesWithin
    (h : Host σ)
    (P : σ → Prop)
    (a b : σ × List Served) : Prop :=
  P a.1 →
    P b.1 ∧
      ∃ calls,
        b.2 = a.2 ++ calls ∧
          ∀ call ∈ calls, ∃ t,
            P t ∧
              (h.serve call.listener call.payload
                call.correlationId t).1 = call.outcome

instance : IsPreorder (σ × List Served) (ServesWithin h P) where
  refl := fun a hStart => ⟨hStart, [], by simp⟩
  trans := by
    intro a b c hFirst hThen hStart
    rcases hFirst hStart with ⟨hBetween, calls, hNoted, hCalls⟩
    rcases hThen hBetween with ⟨hEnd, others, hMore, hOthers⟩
    refine ⟨hEnd, calls ++ others, ?_, ?_⟩
    · rw [hMore, hNoted, List.append_assoc]
    · intro call hCall
      rcases List.mem_append.mp hCall with hOld | hNew
      · exact hCalls call hOld
      · exact hOthers call hNew

/-
  Each call of a dispatch is served in a state of which holds
  what serving and telling preserve.
-/
theorem served_of_mem_callsOf
    (hServes :
      ∀ listener payload correlationId s,
        P s → P (h.serve listener payload correlationId s).2)
    (hTells : ∀ notice s, P s → P (h.tell notice s).2)
    {event : String}
    {payload correlationId : Value}
    {s : σ}
    (hStart : P s)
    {call : Served}
    (hCall : call ∈ h.callsOf event payload correlationId s) :
    ∃ t,
      P t ∧
        (h.serve call.listener call.payload
          call.correlationId t).1 = call.outcome := by
  have hKeeps :
      (h.watched.dispatch event payload correlationId).Keeps
        (ServesWithin h P) := by
    refine keeps_dispatch ?_ ?_ event payload correlationId
    · intro listener payload correlationId a hBefore
      refine ⟨hServes _ _ _ _ hBefore, [_], rfl, ?_⟩
      rw [List.forall_mem_singleton]
      exact ⟨a.1, hBefore, rfl⟩
    · intro notice a hBefore
      refine ⟨hTells notice a.1 hBefore, [], ?_, by simp⟩
      exact (List.append_nil a.2).symm
  rcases hKeeps (s, []) hStart with ⟨-, calls, hNoted, hCalls⟩
  refine hCalls call ?_
  rw [callsOf, hNoted] at hCall
  exact hCall

end Host

end EventFlow

------------------------------------------------------------
-- Snapshots
------------------------------------------------------------

namespace EventFlow

namespace DispatchResult

/- A result fails with its first failure, if there is one. -/
theorem raiseForErrors_eq_error_iff
    (r : DispatchResult)
    (failure : Failure) :
    r.raiseForErrors = .error failure ↔
      r.errors.head? = some failure := by
  unfold raiseForErrors
  cases r.errors with
  | nil => simp
  | cons first errors => simp

theorem raiseForErrors_eq_ok_iff (r : DispatchResult) :
    r.raiseForErrors = .ok () ↔ r.errors = [] := by
  unfold raiseForErrors
  cases r.errors with
  | nil => simp
  | cons first errors => simp

end DispatchResult

namespace Host

variable {σ : Type}

/-
  A dispatch calls for each subscription that was live for
  the event when it began, once and in the order in which
  they were begun, whatever its calls do to the bus; its
  result is what the calls came to.
-/
theorem dispatch_serves_snapshot
    (h : Host σ)
    (s : σ)
    {begun ended : List Subscription}
    (hBus : Bus.History begun ended (h.engine s).bus)
    (event : String)
    (payload correlationId : Value)
    (hCaught :
      ∀ call ∈ h.callsOf event payload correlationId s,
        call.IsCaught) :
    let snapshot :=
      begun.filter fun sub =>
        sub.event = event ∧ sub ∉ ended
    let calls := h.callsOf event payload correlationId s
    snapshot.Pairwise (fun sub later => sub.id < later.id) ∧
      calls.map Served.request =
        snapshot.map
          (fun sub =>
            (sub.listener, payload, correlationId)) ∧
      ∃ result t,
        h.dispatch event payload correlationId s =
          (.ok result, t) ∧
        h.watched.dispatch event payload correlationId
            (s, []) =
          (.ok result, (t, calls)) ∧
        result.event = event ∧
        result.results = calls.filterMap Served.result? ∧
        result.errors = calls.filterMap Served.failure? ∧
        result.delivered = result.results.length ∧
        result.delivered + result.errors.length =
          snapshot.length ∧
        (∀ failure,
          result.raiseForErrors = .error failure ↔
            result.errors.head? = some failure) ∧
        (result.raiseForErrors = .ok () ↔
          result.errors = []) := by
  intro snapshot calls
  rcases dispatch_of_caught hCaught with
    ⟨hRequests, t, hDispatch, hWatched⟩
  rw [hBus.subscribers_eq] at hRequests
  refine ⟨hBus.pairwise_id.filter _, hRequests, _, t,
    hDispatch, hWatched, rfl, rfl, rfl, rfl, ?_, ?_, ?_⟩
  · have hLength := congrArg List.length hRequests
    rw [List.length_map, List.length_map] at hLength
    rw [← hLength]
    exact Served.length_results_add_length_failures calls
  · exact DispatchResult.raiseForErrors_eq_error_iff _
  · exact DispatchResult.raiseForErrors_eq_ok_iff _

end Host

namespace Session

/- A handler that returns what it is called with. -/
def echo : Handler :=
  .mk (.str "echo") [] none true .null

/-
  A handler that ends the subscription of another, begins a
  new one to the same event, and fails.
-/
def meddler : Handler :=
  .mk (.str "meddler")
    [.unsubscribe "other", .subscribe "ping" none echo]
    (some ("ValueError", "no")) false .null

/- A session in which a meddler was subscribed first. -/
def meddled : Session :=
  { engine :=
      { bus :=
          { issued := 3
            live := [
              ⟨1, "ping", .handler 0⟩,
              ⟨3, "ping", .handler 1⟩
            ] } }
    subscriptions := [("other", ⟨3, "ping", .handler 1⟩)]
    handlers := [meddler, echo] }

open scoped Bare in
/-
  The handler whose subscription is ended meanwhile is
  called, and the one that is subscribed meanwhile is not.
-/
theorem dispatch_serves_snapshot_meddled :
    Bus.History
        [ ⟨1, "ping", .handler 0⟩,
          ⟨2, "ping", .handler 1⟩,
          ⟨3, "ping", .handler 1⟩ ]
        [⟨2, "ping", .handler 1⟩] meddled.engine.bus ∧
      ∃ result t,
        (host 1).dispatch "ping" (.str "hello") .null
            meddled = (.ok result, t) ∧
        result.results.length = 1 ∧
        result.raiseForErrors =
          .error (.raised "ValueError" "no") ∧
        t.engine.bus.subscribers "ping" =
          [⟨1, "ping", .handler 0⟩,
            ⟨4, "ping", .handler 2⟩] := by
  have hBus :
      Bus.History
        [ ⟨1, "ping", .handler 0⟩,
          ⟨2, "ping", .handler 1⟩,
          ⟨3, "ping", .handler 1⟩ ]
        [⟨2, "ping", .handler 1⟩] meddled.engine.bus :=
    (((Bus.History.new.began "ping" (.handler 0)
      rfl).began "ping" (.handler 1) rfl).began "ping"
        (.handler 1) rfl).ended ⟨2, "ping", .handler 1⟩
  have hCalls :
      (host 1).callsOf "ping" (.str "hello") .null meddled =
        [ ⟨.handler 0, .str "hello", .null,
            .error (.raised "ValueError" "no")⟩,
          ⟨.handler 1, .str "hello", .null,
            .ok (.value (.str "hello"))⟩ ] := by
    rfl
  have hCaught :
      ∀ call ∈ (host 1).callsOf "ping" (.str "hello") .null
        meddled, call.IsCaught := by
    rw [hCalls, List.forall_mem_cons,
      List.forall_mem_singleton]
    constructor
    · intro failure hFailure
      cases hFailure
      decide
    · intro failure hFailure
      cases hFailure
  rcases Host.dispatch_serves_snapshot (host 1) meddled hBus
      "ping" (.str "hello") .null hCaught with
    ⟨-, -, result, t, hDispatch, -, -, hResults, hErrors, -,
      -, hRaises, -⟩
  rw [hCalls] at hResults hErrors
  refine ⟨hBus, result, t, hDispatch, ?_, ?_, ?_⟩
  · rw [hResults]
    rfl
  · rw [hRaises, hErrors]
    rfl
  · have hBehind :
        t =
          ((host 1).dispatch "ping" (.str "hello") .null
            meddled).2 := by
      rw [hDispatch]
    rw [hBehind]
    rfl

end Session

end EventFlow
