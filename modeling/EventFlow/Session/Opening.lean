import EventFlow.Engine.Creation
import EventFlow.Session.Perform

/-
  Opening sessions.

  A session is opened with an engine that is made as asked,
  or from settings.  What is told while the engine is made
  belongs to the session.

  Key definitions include:
    * `TrailKind`
    * `EngineRequest`
    * `Session.start`
-/

------------------------------------------------------------
-- Requests
------------------------------------------------------------

namespace EventFlow

/- The kinds of trails that an engine can be given. -/
inductive TrailKind where
| own
| silent
| default
deriving DecidableEq, Repr

/- New trails of a kind. -/
def TrailKind.open : TrailKind → Trails
| .own => { own? := some {} }
| .silent => { own? := some { isKept := false } }
| .default => { own? := none }

/- What engine a session is to have. -/
structure EngineRequest where
  limit : Int := defaultLimit
  isStrict : Bool := false
  access : AccessKind := .contacts
  trail : TrailKind := .own
  withBuiltins : Bool := true
  fromSettings : Bool := false

end EventFlow

------------------------------------------------------------
-- Engines
------------------------------------------------------------

namespace EventFlow

namespace EngineRequest

variable [Surroundings]

/- An engine as asked for, without settings. -/
def engine (r : EngineRequest) : Except Failure Engine :=
  match Engine.make r.limit r.isStrict r.access.open with
  | .error failure => .error failure
  | .ok e =>
      if r.withBuiltins then
        let (outcome, e) := Engine.registerBuiltins e
        outcome.map fun () => e
      else
        .ok e

/- An engine as asked for. -/
def makeEngine
    (r : EngineRequest)
    (env : List (String × String))
    (files : Files) : Except Failure Engine :=
  if r.fromSettings then
    match Settings.load env files with
    | .error failure => .error failure
    | .ok settings =>
        Engine.ofSettings settings r.access.open
          r.withBuiltins
  else
    r.engine

end EngineRequest

end EventFlow

------------------------------------------------------------
-- Sessions
------------------------------------------------------------

namespace EventFlow

namespace Session

variable [Surroundings]

/- Start a session, at a level of logging if one is given. -/
def start
    (r : EngineRequest)
    (env : List (String × String))
    (files : Files)
    (level? : Option Value) : Except Failure Session :=
  let verbosity :=
    match level? with
    | some level => Verbosity.ofValue level
    | none => .ok {}
  match verbosity with
  | .error failure => .error failure
  | .ok verbosity =>
      (r.makeEngine env files).map fun engine =>
        settle
          { engine := engine
            trails := r.trail.open
            verbosity := verbosity
            files := files }

end Session

end EventFlow
