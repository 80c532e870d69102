import EventFlow.Notice

/-
  Trails: traces that are kept in memory.

  A trail keeps the entries that are traced to it, unless it
  keeps none.  An engine has a trail of its own or uses the
  default one.

  Key definitions include:
    * `Trail`
    * `Trails`
    * `Trails.follow`
-/

------------------------------------------------------------
-- Trails
------------------------------------------------------------

namespace EventFlow

/- A trace in memory. -/
structure Trail where
  isKept : Bool := true
  entries : List TraceEntry := []

namespace Trail

/- Trace an entry. -/
def add
    (t : Trail)
    (entry : TraceEntry) : Trail :=
  if t.isKept then
    { t with entries := t.entries ++ [entry] }
  else
    t

/- Forget all entries. -/
def reset (t : Trail) : Trail :=
  { t with entries := [] }

/- The messages of a trail. -/
def messages (t : Trail) : List String :=
  t.entries.map TraceEntry.message

end Trail

/- The trail of an engine, if it has one, and the default. -/
structure Trails where
  own? : Option Trail
  default : Trail := {}

namespace Trails

/- The trail that an engine uses. -/
def current (ts : Trails) : Trail :=
  ts.own?.getD ts.default

/- Change the trail that an engine uses. -/
def changeCurrent
    (ts : Trails)
    (f : Trail → Trail) : Trails :=
  match ts.own? with
  | some own => { ts with own? := some (f own) }
  | none => { ts with default := f ts.default }

/- Trace an entry to the trail of its target. -/
def add
    (ts : Trails)
    (target : TraceTarget)
    (entry : TraceEntry) : Trails :=
  match target with
  | .engine => ts.changeCurrent (·.add entry)
  | .default =>
      { ts with default := ts.default.add entry }

/- Trace what a notice tells. -/
def hear
    (ts : Trails) : Notice → Trails
| .traced target entry => ts.add target entry
| _ => ts

/- Trace what notices tell. -/
def follow
    (ts : Trails)
    (notices : List Notice) : Trails :=
  notices.foldl hear ts

end Trails

end EventFlow
