import EventFlow.Engine.Building

/-
  Adding workflows and binding their triggers.

  A trigger that is bound subscribes to each of its events,
  also when it was bound before.  The triggers of a workflow
  that is not active are not bound.  A failure to subscribe
  leaves everything as it is at that point.

  Key definitions include:
    * `Engine.subscribe`
    * `Engine.bindTrigger`
    * `Engine.init`
    * `Engine.add`
-/

------------------------------------------------------------
-- Subscriptions
------------------------------------------------------------

namespace EventFlow

namespace Engine

/- Begin a subscription. -/
def subscribe
    (event : String)
    (listener : Listener) : Act Engine Subscription := do
  let bus ← Act.look bus
  let (subscription, bus) ←
    Act.ofExcept (bus.subscribe event listener)
  Act.change fun e => { e with bus := bus }
  tell (.subscribed event subscription.id)
  return subscription

/- End a subscription, and tell whether it was live. -/
def unsubscribe (s : Subscription) : Act Engine Bool :=
  fun e =>
    let (wasLive, bus) := e.bus.unsubscribe s
    (.ok wasLive, { e with bus := bus })

end Engine

end EventFlow

------------------------------------------------------------
-- Binding
------------------------------------------------------------

namespace EventFlow

namespace Engine

/- Change a trigger of the workflow at a place. -/
def changeTrigger
    (place index : Nat)
    (f : Trigger → Trigger) : Act Engine Unit :=
  Act.change
    (changeWorkflow place (·.changeTrigger index f))

/- Subscribe a trigger to events in order. -/
def listen
    (place index : Nat) : List String → Act Engine Unit
| [] => return
| event :: events => do
    let s ← subscribe event (.trigger place index)
    changeTrigger place index fun t =>
      { t with subscriptions := t.subscriptions ++ [s] }
    listen place index events

/- The trigger of the workflow at a place. -/
def triggerAt?
    (e : Engine)
    (place index : Nat) : Option Trigger :=
  (e.workflowAt? place).bind fun w => w.triggers[index]?

/- The notice about a bound trigger. -/
def bindingNotice
    (w : Workflow)
    (t : Trigger) : Notice :=
  .triggerBound t.type.slug t.type.event w.id
    t.subscriptions.length

/- Tell that a trigger is bound. -/
def tellBound (place index : Nat) : Act Engine Unit :=
  fun e =>
    match e.workflowAt? place, e.triggerAt? place index with
    | some w, some t => tell (bindingNotice w t) e
    | _, _ => (.ok (), e)

/- Bind a trigger of the workflow at a place. -/
def bindTrigger
    (place index : Nat)
    (type : TriggerType) : Act Engine Unit := do
  changeTrigger place index fun t =>
    { t with owner? := some place }
  listen place index type.events
  changeTrigger place index fun t =>
    { t with isBound := true }
  tellBound place index

/- Bind triggers from an index on. -/
def bindTriggers
    (place index : Nat) :
    List TriggerType → Act Engine Unit
| [] => return
| type :: types => do
    bindTrigger place index type
    bindTriggers place (index + 1) types

/- Bind the triggers of a workflow, if it is active. -/
def init (place : Nat) : Act Engine Unit := do
  match ← Act.look (·.workflowAt? place) with
  | none => return
  | some w =>
      if w.definition.active then
        bindTriggers place 0 (w.triggers.map Trigger.type)
      else
        tell (.bindingSkipped w.id)

/- Bind the triggers of workflows in order. -/
def initAll : List Nat → Act Engine Unit
| [] => return
| place :: places => do
    init place
    initAll places

/- Bind the triggers of all workflows that were added. -/
def initAdded : Act Engine Unit := do
  let places ← Act.look added
  initAll places

end Engine

end EventFlow

------------------------------------------------------------
-- Adding
------------------------------------------------------------

namespace EventFlow

namespace Engine

/- Add a workflow, and bind its triggers if asked to. -/
def add
    (place : Nat)
    (shouldInit : Bool) : Act Engine Unit := do
  Act.change fun e => { e with added := e.added ++ [place] }
  match ← Act.look (·.workflowAt? place) with
  | some w =>
      tell
        (.workflowAdded w.id w.definition.triggers shouldInit)
  | none => return
  if shouldInit then
    init place

/- Build a value into a workflow and add it. -/
def buildAndAdd
    (v : Value)
    (shouldInit : Bool) : Act Engine Nat := do
  let w ← buildValue v
  let place ← place w
  add place shouldInit
  return place

end Engine

end EventFlow
