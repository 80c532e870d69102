import EventFlow.Engine.Dispatch

/-
  What a command answers.

  A reply is a tree of values.  It can hold the outcome of
  something that was tried: what it answered or how it
  failed, with further fields beside it.

  Key definitions include:
    * `Reply`
    * `Reply.ofOutcome`
    * `Reply.ofWorkflow`
    * `Reply.ofDispatch`
-/

------------------------------------------------------------
-- Replies
------------------------------------------------------------

namespace EventFlow

/- What a command answers. -/
inductive Reply where
| value (v : Value)
| table (t : Table)
| list (items : List Reply)
| record (fields : List (String × Reply))
| done (reply : Reply) (beside : List (String × Reply))
| failed (failure : Failure) (beside : List (String × Reply))

namespace Reply

/- Nothing to answer. -/
def null : Reply :=
  .value .null

/- A text. -/
def text (s : String) : Reply :=
  .value (.str s)

/- A truth value. -/
def truth (b : Bool) : Reply :=
  .value (.bool b)

/- A count. -/
def count (n : Nat) : Reply :=
  .value (.int n)

/- Texts in order. -/
def texts (ss : List String) : Reply :=
  .list (ss.map text)

/- Fields that are values. -/
def values (fields : List (String × Value)) : Reply :=
  .value (.object fields)

/- The outcome of something that was tried. -/
def ofOutcome
    (outcome : Except Failure Reply)
    (beside : List (String × Reply)) : Reply :=
  match outcome with
  | .ok reply => .done reply beside
  | .error failure => .failed failure beside

end Reply

end EventFlow

------------------------------------------------------------
-- Replies About Parts of an Engine
------------------------------------------------------------

namespace EventFlow

namespace Reply

/- A pair of a slug and a name. -/
def pair (slug name : String) : Reply :=
  .texts [slug, name]

/- Slugs of steps with the names of their types, in order. -/
def ofStepEntries :
    List (String × StepEntry) → Except Failure (List Reply)
| [] => .ok []
| (slug, .type type) :: entries =>
    (ofStepEntries entries).map (pair slug type.name :: ·)
| (_, .stale) :: _ =>
    .error (.memberMissing "object" "__name__")

/- The registered types in the order of registration. -/
def ofTypes (e : Engine) : Except Failure Reply :=
  (ofStepEntries e.stepTypes).map fun steps =>
    .record [
      ("triggers",
        .list (e.triggerTypes.map fun (slug, type) =>
          pair slug type.name)),
      ("steps", .list steps)
    ]

/- What a type of steps tells about itself. -/
def ofStepType (s : StepType) : Reply :=
  .values (s.describe ++ [
    ("required", s.required),
    ("operators", s.operators)
  ])

/- A workflow. -/
def ofWorkflow (w : Workflow) : Reply :=
  let subscriptions (t : Trigger) : Reply :=
    .list (t.subscriptions.map fun s => count s.id)
  .record [
    ("id", text w.id),
    ("name", text w.definition.name),
    ("active", truth w.definition.active),
    ("initial_step", text w.definition.initialStep),
    ("triggers", texts w.definition.triggers),
    ("states", texts (w.triggers.map Trigger.state)),
    ("bound", .list (w.triggers.map fun t => truth t.isBound)),
    ("subscriptions", .list (w.triggers.map subscriptions))
  ]

variable [Surroundings]

/- The successor of a step, if it has one. -/
def ofNext (s : Step) : Reply :=
  .ofOutcome (s.next.map .value) []

/- The fields of a step. -/
def stepFields (s : Step) : List (String × Reply) := [
  ("class", text s.type.name),
  ("id", .value s.id),
  ("attributes", .table s.attributes),
  ("condition_met", .value (s.outcome?.getD .null))
]

/- A subscription. -/
def ofSubscription (s : Subscription) : Reply :=
  .list [count s.id, text s.event]

/- A subscriber's result. -/
def ofDelivery : Delivery → Reply
| .value v => .value v
| .run r => .value r.toValue

/- What came of an event. -/
def ofDispatch
    (r : DispatchResult)
    (shouldRaise : Bool) : Reply :=
  .record <|
    [ ("event", text r.event),
      ("delivered", count r.delivered),
      ("ok", truth r.isOk),
      ("errors", .list (r.errors.map fun f => .failed f [])),
      ("results", .list (r.results.map ofDelivery)) ] ++
      (if shouldRaise then
        [("raised",
          .ofOutcome (r.raiseForErrors.map fun _ => null) [])]
      else
        [])

/- A contact. -/
def ofContact
    (tags : List Value)
    (logs : List ContactLog) : Reply :=
  .values [
    ("tags", .list tags),
    ("logs", .list (logs.map ContactLog.toValue))
  ]

/- A trace entry. -/
def ofTraceEntry (e : TraceEntry) : Reply :=
  .list [
    text e.message,
    match e.context with
    | some context => .table context
    | none => null
  ]

end Reply

end EventFlow
