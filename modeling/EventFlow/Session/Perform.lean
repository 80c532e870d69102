import EventFlow.Engine.Dispatch
import EventFlow.Engine.Loading
import EventFlow.Engine.Registration
import EventFlow.Session.State

/-
  Carrying out commands.

  A command is carried out with a host, which says how the
  handlers of the session are served.  Handlers carry out
  commands in turn; a host of a given depth serves handlers
  with a host of a smaller depth.

  Key definitions include:
    * `Session.perform`
    * `Session.callHandler`
    * `Session.host`
    * `Session.run`
-/

------------------------------------------------------------
-- Types and Steps
------------------------------------------------------------

namespace EventFlow

namespace Session

/- Change the session itself. -/
def changing (f : Session → Session) : Act Session Reply :=
  fun s => (.ok .null, f s)

/- Answer from what the session holds. -/
def answering
    (f : Session → Except Failure Reply) :
    Act Session Reply :=
  fun s => (f s, s)

/- Put something that is no type under a slug of a step. -/
def makeStale (slug : String) : Act Session Reply :=
  onEngine do
    Act.change fun e =>
      { e with
        stepTypes := Entries.put slug .stale e.stepTypes }
    return .null

/- The type of steps under a slug of which a member is used. -/
def stepTypeFor
    (s : Session)
    (slug member : String) : Except Failure StepType :=
  match s.engine.stepEntry slug with
  | .error failure => .error failure
  | .ok (.type type) => .ok type
  | .ok .stale => .error (.memberMissing "object" member)

variable [Surroundings]

/- Make a trigger, and fire it if there is a payload. -/
def createTrigger
    (slug : String)
    (payload? : Option Value) : Act Session Reply := do
  let trigger ← onEngine fun e => (e.makeTrigger slug, e)
  let fields : List (String × Reply) := [
    ("class", .text trigger.type.name),
    ("state", .text trigger.state),
    ("bound", .truth trigger.isBound)
  ]
  match payload? with
  | none => return .record fields
  | some payload =>
      let outcome ← Act.attempt
        (onEngine (Engine.fireTrigger trigger payload .null))
      let reply :=
        Reply.ofOutcome
          (outcome.map fun run => .value run.toValue) []
      return .record (fields ++ [("executed", reply)])

/- Make a single step. -/
def makeStep
    (s : Session)
    (source : StepSource)
    (data : Value) : Except Failure Step :=
  match source with
  | .slug slug => s.engine.makeStep slug data
  | .type (.step type) => Step.makeDetached type data
  | .type (.unfinished name missing) =>
      .error (.typeAbstract name missing)
  | .type (.trigger _) => .error .triggerTakesNoData
  | .type (.other name) => .error (.typeTakesNoData name)

/- Execute a single step, and show the entries not shown yet. -/
def executeStep
    (step : Step)
    (payload : Value) : Act Session (Step × Reply) :=
  fun s =>
    let effect := step.execute payload s.engine.access
    let notices :=
      effect.traces.map (.traced effect.step.traceTarget)
    let engine :=
      Engine.hear notices
        { s.engine with access := effect.access }
    let s := { s with engine := engine }.settle
    let outcome :=
      match effect.failure? with
      | some failure => .error failure
      | none => .ok Reply.null
    let reply :=
      Reply.ofOutcome outcome [
        ("met", .value (effect.step.outcome?.getD .null)),
        ("next", .ofNext effect.step),
        ("trace", .texts (s.fresh.map TraceEntry.message))
      ]
    (.ok (effect.step, reply), s.markShown)

/- Execute a single step on payloads in order. -/
def executeSteps
    (step : Step) : List Value → Act Session (List Reply)
| [] => return []
| payload :: payloads => do
    let (step, reply) ← executeStep step payload
    let replies ← executeSteps step payloads
    return reply :: replies

/- Make a single step and execute it on payloads. -/
def runStep
    (source : StepSource)
    (data : Value)
    (preset? : Option Value)
    (payloads : List Value) : Act Session Reply := do
  let step ← fun s => (s.makeStep source data, s)
  let step : Step :=
    { step with met := preset?.getD step.met }
  let replies ← executeSteps step payloads
  return .record
    (Reply.stepFields step ++ [
      ("next", .ofNext step),
      ("runs", .list replies)
    ])

end Session

end EventFlow

------------------------------------------------------------
-- Workflows
------------------------------------------------------------

namespace EventFlow

namespace Session

/- Give a workflow a name. -/
def nameWorkflow
    (name? : Option String)
    (place : Nat) : Act Session Unit :=
  Act.change fun s =>
    match name? with
    | some name =>
        { s with names := Entries.put name place s.names }
    | none => s

/- Answer with the workflow at a place. -/
def showWorkflow (place : Nat) : Act Session Reply :=
  answering fun s =>
    match s.engine.workflowAt? place with
    | some w => .ok (.ofWorkflow w)
    | none => .ok .null

/- Build a workflow, and give it a name if there is one. -/
def build
    (definition : Value)
    (name? : Option String) : Act Session Reply := do
  let place ← onEngine do
    let w ← Engine.buildValue definition
    Engine.place w
  nameWorkflow name? place
  showWorkflow place

/- Build a workflow and add it. -/
def add
    (definition : Value)
    (shouldInit : Bool)
    (name? : Option String) : Act Session Reply := do
  let place ←
    onEngine (Engine.buildAndAdd definition shouldInit)
  nameWorkflow name? place
  showWorkflow place

/- Add a workflow that was built and named. -/
def addBuilt
    (name : String)
    (shouldInit : Bool) : Act Session Reply := do
  match ← Act.look fun s => s.names.lookup name with
  | some place =>
      onEngine (Engine.add place shouldInit)
      showWorkflow place
  | none => Act.fail (.keyUnknown (.str name))

variable [Surroundings]

/- Load the definitions of a file. -/
def load
    (path : String)
    (shouldInit : Bool) : Act Session Reply := do
  let files ← Act.look files
  let count ← onEngine
    (Engine.loadFile files (Path.ofText path) shouldInit)
  return .count count

/- Bind the triggers of a referenced workflow. -/
def init (ref : WorkflowRef) : Act Session Reply := do
  let place ← fun s => (s.placeOf ref "init_triggers", s)
  onEngine (Engine.init place)
  return .null

/- The workflow of an id, or nothing. -/
def showNamed (id : String) : Act Session Reply := do
  match ← Act.look fun s => s.engine.placeOf? id with
  | some place => showWorkflow place
  | none => return .null

/- Make a step of a referenced workflow. -/
def getStep
    (ref : WorkflowRef)
    (stepId : String) : Act Session Reply :=
  answering fun s => do
    let w ← s.workflowOf ref "get_step"
    let step ← s.engine.stepOf w.definition stepId
    let next ← step.next
    return .record
      (Reply.stepFields step ++ [("next", .value next)])

/- The data of a step of a referenced workflow. -/
def stepData
    (ref : WorkflowRef)
    (stepId : String) : Act Session Reply :=
  answering fun s => do
    let w ← s.workflowOf ref "definition"
    let data ← w.definition.stepData stepId
    return .value data

/- Fire a trigger of a referenced workflow. -/
def fire
    (ref : WorkflowRef)
    (index : Int)
    (payload correlationId : Value) :
    Act Session Reply := do
  let (place, index) ← fun s => (s.triggerOf ref index, s)
  let run ← onEngine
    (Engine.fire place index payload correlationId)
  return .value run.toValue

end Session

end EventFlow

------------------------------------------------------------
-- Events and Contacts
------------------------------------------------------------

namespace EventFlow

namespace Session

/- Subscribe a handler to an event. -/
def subscribe
    (event : String)
    (name? : Option String)
    (handler : Handler) : Act Session Reply := do
  let number ← Act.look fun s => s.handlers.length
  let subscription ←
    onEngine (Engine.subscribe event (.handler number))
  Act.change fun s =>
    { s with
      handlers := s.handlers ++ [handler]
      subscriptions :=
        match name? with
        | some name =>
            Entries.put name subscription s.subscriptions
        | none => s.subscriptions }
  return .ofSubscription subscription

/- End a subscription that has a name. -/
def unsubscribe (name : String) : Act Session Reply := do
  match ← Act.look fun s => s.subscriptions.lookup name with
  | some subscription =>
      let wasLive ← onEngine (Engine.unsubscribe subscription)
      return .truth wasLive
  | none => Act.fail (.keyUnknown (.str name))

/- End a subscription of a referenced trigger. -/
def unsubscribeTrigger
    (ref : TriggerRef) : Act Session Reply := do
  let (place, index) ← fun s =>
    (s.triggerOf ref.workflow ref.index, s)
  let subscriptions ← Act.look fun s =>
    ((s.engine.triggerAt? place index).map
      Trigger.subscriptions).getD []
  let subscription? :=
    (position? subscriptions.length ref.subscription).bind
      fun i => subscriptions[i]?
  match subscription? with
  | some subscription =>
      let wasLive ← onEngine (Engine.unsubscribe subscription)
      return .truth wasLive
  | none => return .null

/- Use the data access of the engine. -/
def usingAccess
    (use : DataAccess → Except Failure (DataAccess × Value)) :
    Act Session Reply :=
  onEngine fun e =>
    match use e.access with
    | .ok (access, v) =>
        (.ok (.value v), { e with access := access })
    | .error failure => (.error failure, e)

/- Add a log entry to a contact. -/
def addLog
    (contact : Value)
    (log : List (String × Value)) : Act Session Reply :=
  usingAccess fun access => do
    let log ← ContactLog.ofFields log
    let access ← access.addLog contact log
    return (access, .null)

/- The tags and the logs of a contact. -/
def showContact (contact : Value) : Act Session Reply :=
  answering fun s =>
    match s.engine.access with
    | .contacts store =>
        .ok (.ofContact (store.tagsOf contact)
          (store.logsOf contact))
    | .none => .error .accessMissing
    | .recorder _ =>
        .error (.memberMissing "RecordingDataAccess" "get_tags")
    | .refusing =>
        .error (.memberMissing "FailingDataAccess" "get_tags")

end Session

end EventFlow

------------------------------------------------------------
-- Commands
------------------------------------------------------------

namespace EventFlow

namespace Session

variable [Surroundings]

/- Carry out a command with a host. -/
def perform
    (h : Host Session) : Command → Act Session Reply
| .registerTrigger i => do
    let slug ← onEngine (Engine.registerTrigger i)
    return .text slug
| .registerStep i => do
    let slug ← onEngine (Engine.registerStep i)
    return .text slug
| .makeStale slug => makeStale slug
| .types => answering fun s => Reply.ofTypes s.engine
| .describeTrigger slug =>
    answering fun s =>
      (s.engine.triggerType slug).map fun type =>
        .values type.describe
| .describeStep slug =>
    answering fun s =>
      (s.stepTypeFor slug "describe").map .ofStepType
| .allows slug trigger =>
    answering fun s =>
      (s.stepTypeFor slug "allows_trigger").map fun type =>
        .truth (type.allowsTrigger trigger)
| .createTrigger slug payload? => createTrigger slug payload?
| .runStep source data preset? payloads =>
    runStep source data preset? payloads
| .build definition name? => build definition name?
| .add definition shouldInit name? =>
    add definition shouldInit name?
| .addBuilt name shouldInit => addBuilt name shouldInit
| .load path shouldInit => load path shouldInit
| .initAll => do
    onEngine Engine.initAdded
    return .null
| .init ref => init ref
| .workflows =>
    answering fun s =>
      .ok (.list (s.engine.workflows.map .ofWorkflow))
| .workflow id => showNamed id
| .getStep ref stepId => getStep ref stepId
| .stepData ref stepId => stepData ref stepId
| .fire ref index payload correlationId =>
    fire ref index payload correlationId
| .dispatch event payload correlationId shouldRaise => do
    let result ← h.dispatch event payload correlationId
    return .ofDispatch result shouldRaise
| .subscribe event name? handler =>
    subscribe event name? handler
| .unsubscribe name => unsubscribe name
| .unsubscribeTrigger trigger => unsubscribeTrigger trigger
| .subscribers event =>
    answering fun s =>
      .ok (.list ((s.engine.bus.subscribers event).map
        .ofSubscription))
| .addLog contact log => addLog contact log
| .updateTags contact tags mode =>
    usingAccess fun access =>
      access.updateTags contact tags mode
| .contact contact => showContact contact
| .setAccess kind =>
    changing fun s =>
      { s with engine := { s.engine with access := kind.open } }
| .setTrail isKept =>
    changing fun s =>
      { s with
        trails :=
          { s.trails with own? := some { isKept := isKept } }
        shown := 0 }
| .resetTrail =>
    changing fun s =>
      { s with
        trails := s.trails.changeCurrent Trail.reset
        shown := 0 }
| .defaultTrail =>
    answering fun s =>
      .ok (.list (s.trails.default.entries.map
        .ofTraceEntry))
| .setLimit limit =>
    changing fun s =>
      { s with engine := { s.engine with limit := limit } }

/- Carry out a command on settled traces. -/
def carryOut
    (h : Host Session)
    (c : Command) : Act Session Reply :=
  fun s => perform h c s.settle

end Session

end EventFlow

------------------------------------------------------------
-- Handlers and Hosts
------------------------------------------------------------

namespace EventFlow

namespace Session

/- Note a call. -/
def note (call : Call) : Act Session Unit :=
  Act.change fun s => { s with calls := s.calls ++ [call] }

variable [Surroundings]

/- Carry out the commands of a handler in order. -/
def carryOutAll
    (h : Host Session)
    (label : Value) : List Command → Act Session Unit
| [] => return
| c :: cs => do
    let outcome ← Act.attempt (carryOut h c)
    note (.carriedOut label c.word outcome)
    carryOutAll h label cs

/- Call a handler. -/
def callHandler
    (h : Host Session)
    (handler : Handler)
    (payload correlationId : Value) :
    Act Session Delivery := do
  let .mk label commands raises echoes returns := handler
  note (.called label payload correlationId)
  carryOutAll h label commands
  match raises with
  | some (kind, message) => Act.fail (.raised kind message)
  | none =>
      return .value (if echoes then payload else returns)

/- Serve a listener, with a host for what handlers do. -/
def serve
    (h : Host Session)
    (listener : Listener)
    (payload correlationId : Value) :
    Act Session Delivery := do
  match listener with
  | .trigger place index =>
      let run ← onEngine
        (Engine.fire place index payload correlationId)
      return .run run
  | .handler number =>
      match ← Act.look fun s => s.handlers[number]? with
      | some handler =>
          callHandler h handler payload correlationId
      | none => return .value .null

/- A host around a session with a way to serve. -/
def hostWith
    (serve :
      Listener → Value → Value → Act Session Delivery) :
    Host Session :=
  { engine := engine
    setEngine := fun e s => { s with engine := e }
    serve := serve }

/- A host that lets handlers call handlers to a depth. -/
def host : Nat → Host Session
| 0 => hostWith fun _ _ _ => Act.fail .nestedTooDeep
| depth + 1 => hostWith (serve (host depth))

/- Carry out a command, and settle what it has told. -/
def run (c : Command) : Act Session Reply :=
  fun s =>
    let (outcome, s) := carryOut (host Surroundings.calls) c s
    (outcome, s.settle)

end Session

end EventFlow
