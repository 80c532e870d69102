import EventFlow.Files
import EventFlow.Log.Trail
import EventFlow.Log.Verbosity
import EventFlow.Session.Command
import EventFlow.Session.Reply

/-
  The state of a session.

  A session keeps what lies around an engine: the names that
  workflows and subscriptions were given, the handlers that
  were subscribed, the calls that these have noted, and the
  traces and records made of the engine's notices.  The
  engine knows nothing of it.

  Key definitions include:
    * `Call`
    * `Session`
    * `Session.settle`
    * `Session.placeOf`
-/

------------------------------------------------------------
-- Sessions
------------------------------------------------------------

namespace EventFlow

/- What a handler has noted. -/
inductive Call where
| called (label payload correlationId : Value)
| carriedOut
    (label : Value)
    (word : String)
    (outcome : Except Failure Reply)

/- A noted call as a reply. -/
def Call.toReply : Call → Reply
| .called label payload correlationId =>
    .value (.list [label, payload, correlationId])
| .carriedOut label word outcome =>
    .list [.value label, .text word, .ofOutcome outcome []]

/-
  A session.  The number of trace entries that were already
  shown is kept in `shown`.
-/
structure Session where
  engine : Engine
  trails : Trails := { own? := some {} }
  verbosity : Verbosity := {}
  names : List (String × Nat) := []
  subscriptions : List (String × Subscription) := []
  handlers : List Handler := []
  files : Files := []
  calls : List Call := []
  records : List Log.Record := []
  shown : Nat := 0

namespace Session

/- Make traces and records of the engine's notices. -/
def settle (s : Session) : Session :=
  { s with
    engine := s.engine.silenced
    trails := s.trails.follow s.engine.notices
    records :=
      s.records ++ s.verbosity.records s.engine.notices }

/- An act of the engine as an act of the session. -/
def onEngine
    {α : Type}
    (a : Act Engine α) : Act Session α :=
  Act.on engine (fun e s => { s with engine := e }) a

/- The trace entries that were not shown yet. -/
def fresh (s : Session) : List TraceEntry :=
  s.trails.current.entries.drop s.shown

/- Count all trace entries as shown. -/
def markShown (s : Session) : Session :=
  { s with shown := s.trails.current.entries.length }

end Session

end EventFlow

------------------------------------------------------------
-- References
------------------------------------------------------------

namespace EventFlow

namespace Session

/- A position in a list, counted from the end if negative. -/
def position?
    (length : Nat)
    (index : Int) : Option Nat :=
  let index := if index < 0 then index + length else index
  if 0 ≤ index && index < length then
    some index.toNat
  else
    none

/- The place of a referenced workflow. -/
def placeOf?
    (s : Session) :
    WorkflowRef → Except Failure (Option Nat)
| .name name =>
    match s.names.lookup name with
    | some place => .ok (some place)
    | none => .ok (s.engine.placeOf? name)
| .index i =>
    match position? s.engine.added.length i with
    | some i => .ok s.engine.added[i]?
    | none => .error .indexOutOfRange

/-
  The place of a referenced workflow of which a member is
  wanted.
-/
def placeOf
    (s : Session)
    (ref : WorkflowRef)
    (member : String) : Except Failure Nat :=
  match s.placeOf? ref with
  | .error failure => .error failure
  | .ok (some place) => .ok place
  | .ok none => .error (.memberMissing "NoneType" member)

/- A referenced workflow of which a member is wanted. -/
def workflowOf
    (s : Session)
    (ref : WorkflowRef)
    (member : String) : Except Failure Workflow :=
  match s.placeOf ref member with
  | .error failure => .error failure
  | .ok place =>
      match s.engine.workflowAt? place with
      | some w => .ok w
      | none => .error .indexOutOfRange

/- The place and the index of a referenced trigger. -/
def triggerOf
    (s : Session)
    (ref : WorkflowRef)
    (index : Int) : Except Failure (Nat × Nat) :=
  match s.placeOf ref "triggers" with
  | .error failure => .error failure
  | .ok place =>
      let count :=
        ((s.engine.workflowAt? place).map
          fun w => w.triggers.length).getD 0
      match position? count index with
      | some index => .ok (place, index)
      | none => .error .indexOutOfRange

end Session

end EventFlow
