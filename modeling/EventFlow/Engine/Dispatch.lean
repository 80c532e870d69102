import EventFlow.Engine.Binding
import EventFlow.Engine.Running

/-
  The delivery of events.

  An event is delivered to the subscriptions that were live
  when the delivery began, in their order.  The failure of a
  subscriber is collected and does not keep the event from
  the others; only a request to stop ends the delivery.

  How a subscriber is served is left open: a host may have
  handlers of its own whose state lies around the engine.

  Key definitions include:
    * `Host`
    * `Delivery`
    * `DispatchResult`
    * `Host.deliver`
    * `Host.dispatch`
    * `Engine.dispatch`
-/

------------------------------------------------------------
-- Hosts
------------------------------------------------------------

namespace EventFlow

/- What a subscriber that completed has returned. -/
inductive Delivery where
| value (v : Value)
| run (r : ExecutionResult)

/- What came of an event. -/
structure DispatchResult where
  event : String
  results : List Delivery
  errors : List Failure

namespace DispatchResult

/- How many subscribers completed. -/
def delivered (r : DispatchResult) : Nat :=
  r.results.length

/- Whether no subscriber failed. -/
def isOk (r : DispatchResult) : Bool :=
  r.errors.isEmpty

/- Fail with the first failure of a subscriber. -/
def raiseForErrors
    (r : DispatchResult) : Except Failure Unit :=
  match r.errors with
  | [] => .ok ()
  | failure :: _ => .error failure

/- The walks among the results, in order. -/
def runs (r : DispatchResult) : List ExecutionResult :=
  r.results.filterMap fun
    | .run run => some run
    | .value _ => none

end DispatchResult

/-
  A host: a state around an engine, and the way in which it
  serves a listener with a payload and a correlation id.
-/
structure Host (σ : Type) where
  engine : σ → Engine
  setEngine : Engine → σ → σ
  serve : Listener → Value → Value → Act σ Delivery

end EventFlow

------------------------------------------------------------
-- Delivery
------------------------------------------------------------

namespace EventFlow

namespace Host

variable {σ α : Type}

/- An act of the engine as an act of the host. -/
def onEngine
    (h : Host σ)
    (a : Act Engine α) : Act σ α :=
  Act.on h.engine h.setEngine a

/- Tell a notice. -/
def tell
    (h : Host σ)
    (notice : Notice) : Act σ Unit :=
  h.onEngine (Engine.tell notice)

/- Deliver an event to subscriptions in order. -/
def deliver
    (h : Host σ)
    (event : String)
    (payload correlationId : Value) :
    List Subscription →
      Act σ (List Delivery × List Failure)
| [] => return ([], [])
| s :: rest => do
    match ← Act.attempt
        (h.serve s.listener payload correlationId) with
    | .ok result =>
        let (results, errors) ←
          h.deliver event payload correlationId rest
        return (result :: results, errors)
    | .error failure =>
        if failure.isInterrupt then
          Act.fail failure
        else
          h.tell
            (.subscriberFailed event s.id correlationId
              failure)
          let (results, errors) ←
            h.deliver event payload correlationId rest
          return (results, failure :: errors)

/- Deliver an event to the subscriptions that are live. -/
def dispatch
    (h : Host σ)
    (event : String)
    (payload correlationId : Value) :
    Act σ DispatchResult := do
  let subscriptions ← Act.look fun s =>
    (h.engine s).bus.subscribers event
  let (results, errors) ←
    h.deliver event payload correlationId subscriptions
  h.tell
    (.dispatched event subscriptions.length results.length
      errors.length correlationId)
  return {
    event := event
    results := results
    errors := errors
  }

end Host

end EventFlow

------------------------------------------------------------
-- Engines as Hosts
------------------------------------------------------------

namespace EventFlow

namespace Engine

variable [Surroundings]

/- Serve a listener by firing triggers only. -/
def serve
    (listener : Listener)
    (payload correlationId : Value) : Act Engine Delivery :=
  match listener with
  | .trigger place index => do
      let run ← fire place index payload correlationId
      return .run run
  | .handler _ => return .value .null

/- An engine on its own, without handlers. -/
def host : Host Engine :=
  { engine := id
    setEngine := fun e _ => e
    serve := serve }

/- Deliver an event to the triggers that are bound to it. -/
def dispatch
    (event : String)
    (payload correlationId : Value) :
    Act Engine DispatchResult :=
  host.dispatch event payload correlationId

end Engine

end EventFlow
