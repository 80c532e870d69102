import EventFlow.Log.Trail
import EventFlow.Log.Verbosity

/-
  Tracing by hand.

  A tracer traces any message with any context, to a trail
  of its own or to a shared one.  A context that is no table
  is not traced, and tracing it does not fail.

  Key definitions include:
    * `Trail.log`
    * `Tracer`
    * `Tracer.log`
    * `Tracer.share`
-/

------------------------------------------------------------
-- Tracing
------------------------------------------------------------

namespace EventFlow

namespace Trail

/- Trace a message with a context, and tell of it. -/
def log
    (t : Trail)
    (message context : Value) : Trail × Notice :=
  match TraceEntry.ofValues message context with
  | .ok entry => (t.add entry, .traced .engine entry)
  | .error failure => (t, .untraceable failure)

end Trail

/- A tracer, with its own trail and perhaps a shared one. -/
structure Tracer where
  own : Trail := {}
  shared? : Option Trail := none
  usesShared : Bool := false
  verbosity : Verbosity := {}

namespace Tracer

/- The trail that is traced to. -/
def trail (t : Tracer) : Trail :=
  if t.usesShared then
    t.shared?.getD {}
  else
    t.own

/- A tracer with another trail to trace to. -/
def withTrail
    (t : Tracer)
    (trail : Trail) : Tracer :=
  if t.usesShared then
    { t with shared? := some trail }
  else
    { t with own := trail }

/- Trace a message with a context, and tell the records. -/
def log
    (t : Tracer)
    (message context : Value) :
    Tracer × List Log.Record :=
  let (trail, notice) := t.trail.log message context
  (t.withTrail trail, t.verbosity.records [notice])

/-
  Trace to the shared trail, which is made anew if there is
  none or if asked to; tell whether it was there before.
-/
def share
    (t : Tracer)
    (anew : Bool) : Tracer × Bool :=
  match t.shared?, anew with
  | some _, false => ({ t with usesShared := true }, true)
  | _, _ =>
      ({ t with
          shared? := some {}
          usesShared := true },
        false)

/- Set the level of records, if the value names one. -/
def configure
    (t : Tracer)
    (level : Value) : Except Failure Unit × Tracer :=
  match Verbosity.ofValue level with
  | .ok verbosity => (.ok (), { t with verbosity := verbosity })
  | .error failure => (.error failure, t)

end Tracer

end EventFlow
