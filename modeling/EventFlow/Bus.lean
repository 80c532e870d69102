import EventFlow.Act
import EventFlow.Text.Blank

/-
  The event bus.

  A subscription is live from its beginning until it is
  ended.  The live subscriptions stand in the order in which
  they began, and every one has an id that is issued once.

  Key definitions include:
    * `Listener`
    * `Subscription`
    * `Bus.subscribe`
    * `Bus.unsubscribe`
    * `Bus.subscribers`
-/

------------------------------------------------------------
-- Subscriptions
------------------------------------------------------------

namespace EventFlow

/-
  Who listens: a trigger of a workflow, or a handler of the
  host.
-/
inductive Listener where
| trigger (workflow : Nat) (index : Nat)
| handler (number : Nat)
deriving DecidableEq, Repr

/- A subscription of a listener to an event. -/
structure Subscription where
  id : Nat
  event : String
  listener : Listener
deriving DecidableEq, Repr

/- The last id that was issued, and what is live. -/
structure Bus where
  issued : Nat := 0
  live : List Subscription := []
deriving DecidableEq, Repr

end EventFlow

------------------------------------------------------------
-- Operations
------------------------------------------------------------

namespace EventFlow

namespace Bus

/- The live subscriptions to an event. -/
def subscribers
    (b : Bus)
    (event : String) : List Subscription :=
  b.live.filter (·.event == event)

/- The next subscription that the bus begins. -/
def next
    (b : Bus)
    (event : String)
    (listener : Listener) : Subscription :=
  { id := b.issued + 1
    event := event
    listener := listener }

/- Begin a subscription; a blank event has none. -/
def subscribe
    (b : Bus)
    (event : String)
    (listener : Listener) :
    Except Failure (Subscription × Bus) :=
  if Text.isBlankText event then
    .error .eventBlank
  else
    let s := b.next event listener
    .ok (s, { issued := s.id, live := b.live ++ [s] })

/- Whether a subscription is live. -/
def isLive
    (b : Bus)
    (s : Subscription) : Bool :=
  b.live.any fun t => t.event == s.event && t.id == s.id

/- End a subscription, and tell whether it was live. -/
def unsubscribe
    (b : Bus)
    (s : Subscription) : Bool × Bus :=
  (b.isLive s,
    { b with
      live := b.live.filter fun t =>
        !(t.event == s.event && t.id == s.id) })

end Bus

end EventFlow
