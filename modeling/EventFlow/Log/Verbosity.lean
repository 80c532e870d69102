import EventFlow.Log.Record

/-
  Which records are kept.

  A record is kept when its level reaches the level of its
  channel.  All channels share one level, but for the trace,
  whose records are kept only when the shared level is that
  of debugging or below.

  Key definitions include:
    * `Verbosity`
    * `Verbosity.configure`
    * `Verbosity.records`
-/

------------------------------------------------------------
-- Verbosity
------------------------------------------------------------

namespace EventFlow

/- The shared level and the level of the trace. -/
structure Verbosity where
  root : Level := Level.warning
  trace : Level := Level.notSet
deriving DecidableEq, Repr

namespace Verbosity

/- The verbosity of a shared level. -/
def ofLevel (root : Level) : Verbosity :=
  { root := root
    trace :=
      if root ≤ Level.debug then
        Level.debug
      else
        Level.warning }

/- The verbosity of a level's name. -/
def configure (name : String) : Except Failure Verbosity :=
  match Level.ofName? name with
  | some level => .ok (ofLevel level)
  | none => .error (.levelUnknown (Text.upper name))

/- The verbosity of a value that should name a level. -/
def ofValue : Value → Except Failure Verbosity
| .str name => configure name
| v => .error (.memberMissing v.kind "upper")

/- The level that records of a channel must reach. -/
def threshold
    (v : Verbosity)
    (channel : Channel) : Level :=
  if channel = .trace && v.trace != Level.notSet then
    v.trace
  else
    v.root

/- Whether the record of a notice is kept. -/
def keeps
    (v : Verbosity)
    (n : Notice) : Bool :=
  v.threshold n.channel ≤ n.level

/- The records that are kept of notices. -/
def records
    (v : Verbosity)
    (notices : List Notice) : List Log.Record :=
  (notices.filter v.keeps).map Notice.toRecord

end Verbosity

end EventFlow
