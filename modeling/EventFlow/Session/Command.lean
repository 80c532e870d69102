import EventFlow.Engine.Basic

/-
  Commands to an engine.

  A session is a list of commands.  A command may subscribe
  a scripted handler, which is itself made of commands: when
  it is called it notes the call, carries its commands out,
  and then fails or returns as its script says.

  Key definitions include:
    * `WorkflowRef`
    * `StepSource`
    * `AccessKind`
    * `Handler`
    * `Command`
-/

------------------------------------------------------------
-- Arguments
------------------------------------------------------------

namespace EventFlow

/-
  A reference to a workflow: an index among those that were
  added, counted from the end if negative, or a name.
-/
inductive WorkflowRef where
| index (i : Int)
| name (s : String)

/- Where the type of a single step comes from. -/
inductive StepSource where
| slug (slug : String)
| type (i : Item)

/- The kinds of data access that a session can use. -/
inductive AccessKind where
| none
| contacts
| recorder
| refusing
deriving DecidableEq, Repr

/- A new data access of a kind. -/
def AccessKind.open : AccessKind → DataAccess
| .none => .none
| .contacts => .contacts {}
| .recorder => .recorder []
| .refusing => .refusing

/- A change to one subscription of a trigger. -/
structure TriggerRef where
  workflow : WorkflowRef
  index : Int := 0
  subscription : Int := 0

end EventFlow

------------------------------------------------------------
-- Commands
------------------------------------------------------------

namespace EventFlow

mutual

/- A scripted handler. -/
inductive Handler where
| mk
    (label : Value)
    (commands : List Command)
    (raises : Option (String × String))
    (echoes : Bool)
    (returns : Value)
deriving Inhabited

/- A command of a session. -/
inductive Command where
-- Types.
| registerTrigger (i : Identifier)
| registerStep (i : Identifier)
| makeStale (slug : String)
| types
| describeTrigger (slug : String)
| describeStep (slug : String)
| allows (slug trigger : String)
-- Triggers and steps.
| createTrigger (slug : String) (payload? : Option Value)
| runStep
    (source : StepSource)
    (data : Value)
    (preset? : Option Value)
    (payloads : List Value)
-- Workflows.
| build (definition : Value) (name? : Option String)
| add
    (definition : Value)
    (shouldInit : Bool)
    (name? : Option String)
| addBuilt (name : String) (shouldInit : Bool)
| load (path : String) (shouldInit : Bool)
| initAll
| init (workflow : WorkflowRef)
| workflows
| workflow (id : String)
| getStep (workflow : WorkflowRef) (stepId : String)
| stepData (workflow : WorkflowRef) (stepId : String)
| fire
    (workflow : WorkflowRef)
    (index : Int)
    (payload correlationId : Value)
-- Events.
| dispatch
    (event : String)
    (payload correlationId : Value)
    (shouldRaise : Bool)
| subscribe
    (event : String)
    (name? : Option String)
    (handler : Handler)
| unsubscribe (name : String)
| unsubscribeTrigger (trigger : TriggerRef)
| subscribers (event : String)
-- Contacts.
| addLog
    (contact : Value)
    (log : List (String × Value))
| updateTags (contact tags mode : Value)
| contact (contact : Value)
-- Settings and traces.
| setAccess (kind : AccessKind)
| setTrail (isKept : Bool)
| resetTrail
| defaultTrail
| setLimit (limit : Int)
deriving Inhabited

end

namespace Command

/- The word for a command. -/
def word : Command → String
| .registerTrigger _ => "register_trigger"
| .registerStep _ => "register_step"
| .makeStale _ => "stale_step"
| .types => "types"
| .describeTrigger _ => "trigger_class"
| .describeStep _ => "step_class"
| .allows _ _ => "allows"
| .createTrigger _ _ => "create_trigger"
| .runStep _ _ _ _ => "run_step"
| .build _ _ => "build"
| .add _ _ _ => "add"
| .addBuilt _ _ => "add_built"
| .load _ _ => "load"
| .initAll => "init_workflows"
| .init _ => "init_workflow"
| .workflows => "workflows"
| .workflow _ => "workflow"
| .getStep _ _ => "get_step"
| .stepData _ _ => "step_data"
| .fire _ _ _ _ => "fire"
| .dispatch _ _ _ _ => "dispatch"
| .subscribe _ _ _ => "subscribe"
| .unsubscribe _ => "unsubscribe"
| .unsubscribeTrigger _ => "unsubscribe"
| .subscribers _ => "subscribers"
| .addLog _ _ => "add_log"
| .updateTags _ _ _ => "tags"
| .contact _ => "contact"
| .setAccess _ => "set_data_access"
| .setTrail _ => "set_logger"
| .resetTrail => "reset_log"
| .defaultTrail => "default_trace"
| .setLimit _ => "set_limit"

end Command

end EventFlow
