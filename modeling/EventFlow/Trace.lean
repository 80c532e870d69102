import EventFlow.Value.Table
import EventFlow.Value.Text

/-
  The trace of a run.

  Steps tell what they do in trace entries.  An entry goes
  to the trace of the engine that made the step, or to the
  default trace when no engine made it.

  Key definitions include:
    * `TraceEntry`
    * `TraceTarget`
    * `TraceEntry.ofValues`
-/

------------------------------------------------------------
-- Entries
------------------------------------------------------------

namespace EventFlow

/- One entry: a message and the context it was told in. -/
structure TraceEntry where
  message : String
  context : Option Table := none

/- The trace that an entry goes to. -/
inductive TraceTarget where
| engine
| default
deriving DecidableEq, Repr

namespace TraceEntry

/- The context of a record: a context without pairs is none. -/
def shownContext (e : TraceEntry) : Option Table :=
  match e.context with
  | some [] => none
  | context => context

/- An entry from any message and any context. -/
def ofValues
    (message : Value)
    (context : Value) : Except Failure TraceEntry :=
  match context with
  | .null => .ok { message := message.text }
  | v =>
      (Table.ofValue v).map fun table =>
        { message := message.text
          context := some table }

end TraceEntry

end EventFlow
