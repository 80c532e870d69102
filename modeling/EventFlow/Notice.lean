import EventFlow.Log.Level
import EventFlow.Trace

/-
  What an engine tells about its work.

  A notice is told by the engine and read by whoever keeps
  logs and traces; nothing that the engine does depends on
  it.  Every notice belongs to a channel and has a level, a
  message, fields, and the failure that it is about if it is
  about one.

  Key definitions include:
    * `Run`
    * `Notice`
    * `Notice.channel`
    * `Notice.level`
    * `Notice.message`
    * `Notice.fields`
    * `Notice.failure?`
-/

------------------------------------------------------------
-- Notices
------------------------------------------------------------

namespace EventFlow

/- What identifies one walk through a workflow. -/
structure Run where
  workflowId : String
  trigger : String
  correlationId : Value

/- The fields of a notice about a walk. -/
def Run.fields (r : Run) : List (String × Value) := [
  ("workflow_id", .str r.workflowId),
  ("trigger", .str r.trigger),
  ("correlation_id", r.correlationId)
]

/- Something worth telling. -/
inductive Notice where
-- Types.
| triggerRegistered (slug : String)
| stepRegistered (slug : String)
| stepReplaced (slug previous replacement : String)
-- Events.
| subscribed (event : String) (subscription : Nat)
| subscriberFailed
    (event : String)
    (subscription : Nat)
    (correlationId : Value)
    (failure : Failure)
| dispatched
    (event : String)
    (subscribers delivered failed : Nat)
    (correlationId : Value)
-- Workflows.
| definitionRejected (id : String) (problems : List String)
| workflowAdded
    (id : String)
    (triggers : List String)
    (init : Bool)
| bindingSkipped (id : String)
| triggerBound
    (trigger event workflowId : String)
    (subscriptions : Nat)
-- Walks.
| walkStarted (run : Run)
| stepFailed
    (run : Run)
    (stepId slug : String)
    (failure : Failure)
| limitReached (run : Run) (limit : Int)
| walkFinished (run : Run) (steps : Nat)
-- Engines and files.
| engineCreated (triggers steps : Nat) (limit : Int)
| workflowsLoaded (path : String) (count : Nat) (init : Bool)
| fileNotJson (path : String)
| fileNotList (path : String)
-- Traces.
| traced (target : TraceTarget) (entry : TraceEntry)
| untraceable (failure : Failure)

end EventFlow

------------------------------------------------------------
-- Channels and Levels
------------------------------------------------------------

namespace EventFlow

/- The parts of the engine that tell notices. -/
inductive Channel where
| engine
| events
| workflow
| triggers
| bootstrap
| definitions
| logger
| trace
deriving DecidableEq, Repr

namespace Channel

/- The name of a channel. -/
def name : Channel → String
| .engine => "crm_automation.automation.engine"
| .events => "crm_automation.automation.events"
| .workflow => "crm_automation.automation.workflow"
| .triggers => "crm_automation.automation.triggers"
| .bootstrap => "crm_automation.automation.bootstrap"
| .definitions => "crm_automation.automation.definitions"
| .logger => "crm_automation.automation.logger"
| .trace => "crm_automation.automation.trace"

end Channel

namespace Notice

/- The channel that a notice belongs to. -/
def channel : Notice → Channel
| .triggerRegistered _ => .engine
| .stepRegistered _ => .engine
| .stepReplaced _ _ _ => .engine
| .subscribed _ _ => .events
| .subscriberFailed _ _ _ _ => .events
| .dispatched _ _ _ _ _ => .events
| .definitionRejected _ _ => .workflow
| .workflowAdded _ _ _ => .engine
| .bindingSkipped _ => .workflow
| .triggerBound _ _ _ _ => .triggers
| .walkStarted _ => .workflow
| .stepFailed _ _ _ _ => .workflow
| .limitReached _ _ => .workflow
| .walkFinished _ _ => .workflow
| .engineCreated _ _ _ => .bootstrap
| .workflowsLoaded _ _ _ => .bootstrap
| .fileNotJson _ => .definitions
| .fileNotList _ => .definitions
| .traced _ _ => .trace
| .untraceable _ => .logger

/- How important a notice is. -/
def level : Notice → Level
| .triggerRegistered _ => Level.debug
| .stepRegistered _ => Level.debug
| .stepReplaced _ _ _ => Level.warning
| .subscribed _ _ => Level.debug
| .subscriberFailed _ _ _ _ => Level.error
| .dispatched _ _ _ _ _ => Level.info
| .definitionRejected _ _ => Level.warning
| .workflowAdded _ _ _ => Level.info
| .bindingSkipped _ => Level.info
| .triggerBound _ _ _ _ => Level.info
| .walkStarted _ => Level.info
| .stepFailed _ _ _ _ => Level.error
| .limitReached _ _ => Level.error
| .walkFinished _ _ => Level.info
| .engineCreated _ _ _ => Level.info
| .workflowsLoaded _ _ _ => Level.info
| .fileNotJson _ => Level.warning
| .fileNotList _ => Level.warning
| .traced _ _ => Level.debug
| .untraceable _ => Level.debug

end Notice

end EventFlow

------------------------------------------------------------
-- Contents
------------------------------------------------------------

namespace EventFlow

namespace Notice

/- The message of a notice. -/
def message : Notice → String
| .triggerRegistered _ => "Trigger registered"
| .stepRegistered _ => "Step registered"
| .stepReplaced _ _ _ =>
    "Step slug already registered; replacing"
| .subscribed _ _ => "Subscribed to event"
| .subscriberFailed _ _ _ _ => "Event subscriber failed"
| .dispatched _ _ _ _ _ => "Event dispatched"
| .definitionRejected _ _ => "Workflow definition rejected"
| .workflowAdded _ _ _ => "Workflow added"
| .bindingSkipped _ =>
    "Skipping trigger init for inactive workflow"
| .triggerBound _ _ _ _ => "Trigger bound"
| .walkStarted _ => "Workflow execution started"
| .stepFailed _ _ _ _ => "Workflow step failed"
| .limitReached _ _ => "Workflow exceeded step limit"
| .walkFinished _ _ => "Workflow execution finished"
| .engineCreated _ _ _ => "Automation engine created"
| .workflowsLoaded _ _ _ => "Workflows loaded"
| .fileNotJson _ =>
    "Workflow definitions file is not valid JSON; " ++
      "treating as empty"
| .fileNotList _ =>
    "Workflow definitions file has unexpected shape; " ++
      "treating as empty"
| .traced _ entry => entry.message
| .untraceable _ =>
    "Failed to record automation trace message"

/- Texts as a list of values. -/
def texts (ss : List String) : Value :=
  .list (ss.map .str)

/- A count as a value. -/
def count (n : Nat) : Value :=
  .int n

/- The fields of a notice. -/
def fields : Notice → List (String × Value)
| .triggerRegistered slug => [("slug", .str slug)]
| .stepRegistered slug => [("slug", .str slug)]
| .stepReplaced slug previous replacement => [
    ("slug", .str slug),
    ("previous", .str previous),
    ("replacement", .str replacement)
  ]
| .subscribed event subscription => [
    ("event", .str event),
    ("subscription", count subscription)
  ]
| .subscriberFailed event subscription correlationId _ => [
    ("event", .str event),
    ("subscription", count subscription),
    ("correlation_id", correlationId)
  ]
| .dispatched event subscribers delivered failed id => [
    ("event", .str event),
    ("subscribers", count subscribers),
    ("delivered", count delivered),
    ("failed", count failed),
    ("correlation_id", id)
  ]
| .definitionRejected id problems => [
    ("workflow_id", .str id),
    ("problems", texts problems)
  ]
| .workflowAdded id triggers init => [
    ("workflow_id", .str id),
    ("triggers", texts triggers),
    ("init", .bool init)
  ]
| .bindingSkipped id => [("workflow_id", .str id)]
| .triggerBound trigger event workflowId subscriptions => [
    ("trigger", .str trigger),
    ("event", .str event),
    ("workflow_id", .str workflowId),
    ("subscriptions", count subscriptions)
  ]
| .walkStarted run => run.fields
| .stepFailed run stepId slug _ =>
    run.fields ++ [
      ("step_id", .str stepId),
      ("step", .str slug)
    ]
| .limitReached run limit =>
    run.fields ++ [("limit", .int limit)]
| .walkFinished run steps =>
    run.fields ++ [("steps", count steps)]
| .engineCreated triggers steps limit => [
    ("triggers", count triggers),
    ("steps", count steps),
    ("max_workflow_steps", .int limit)
  ]
| .workflowsLoaded path number init => [
    ("path", .str path),
    ("count", count number),
    ("init", .bool init)
  ]
| .fileNotJson path => [("path", .str path)]
| .fileNotList path => [("path", .str path)]
| .traced _ entry =>
    match entry.shownContext with
    | some context => [("context", context.toValue)]
    | none => []
| .untraceable _ => []

/- The failure that a notice is about. -/
def failure? : Notice → Option Failure
| .subscriberFailed _ _ _ failure => some failure
| .stepFailed _ _ _ failure => some failure
| .untraceable failure => some failure
| _ => none

end Notice

end EventFlow
