import EventFlow.Ingress.TargetFault

/-
  The routes of the ingress.

  A route is a path together with the one method that it is
  asked by.  A path with slashes behind it leads on to the
  path without them, if that is a route.

  Key definitions include:
    * `Ingress.Route`
    * `Ingress.Route.ofPath?`
    * `Ingress.Route.find?`
-/

------------------------------------------------------------
-- Routes
------------------------------------------------------------

namespace EventFlow

namespace Ingress

/- What the ingress can be asked for. -/
inductive Route where
| health
| triggers
| steps
| workflows
| events (event : String)
deriving DecidableEq, Repr

namespace Route

/- The method that a route is asked by. -/
def method : Route → String
| .events _ => "POST"
| _ => "GET"

/- The routes with a path of their own. -/
def fixed : List (String × Route) := [
  ("/api/v1/health", .health),
  ("/api/v1/triggers", .triggers),
  ("/api/v1/steps", .steps),
  ("/api/v1/workflows", .workflows)
]

/- What stands in front of the name of an event. -/
def eventsStart : List Char :=
  "/api/v1/events/".toList

/- The event that a path names: one part of a path. -/
def eventOf? (path : List Char) : Option String :=
  if eventsStart.isPrefixOf path then
    let event := path.drop eventsStart.length
    if event.isEmpty || event.contains '/' then
      none
    else
      some (String.ofList event)
  else
    none

/- A path without one line feed at its end. -/
def withoutLineFeed (path : List Char) : List Char :=
  if path.getLast? = some '\n' then path.dropLast else path

/-
  The route of a path.  A line feed behind a path of a fixed
  route does not count.
-/
def ofPath? (path : List Char) : Option Route :=
  match fixed.lookup
      (String.ofList (withoutLineFeed path)) with
  | some route => some route
  | none => (eventOf? path).map .events

/- How often a request is led on. -/
def maxRedirects : Nat := 20

/-
  The route of a path, which may lead on so many times, if
  there is such a route.
-/
def findFrom :
    Nat → List Char → Except TargetFault (Option Route)
| redirects, path =>
    match ofPath? path with
    | some route => .ok (some route)
    | none =>
        let shorter := Text.dropRight (· == '/') path
        if shorter.length = path.length then
          .ok none
        else
          match ofPath? shorter, redirects with
          | none, _ => .ok none
          | some _, 0 => .error .ledTooOften
          | some _, redirects + 1 =>
              findFrom redirects (ledOn shorter)

/- The route of a target. -/
def find?
    (t : Target) : Except TargetFault (Option Route) :=
  findFrom maxRedirects t.path

end Route

end Ingress

end EventFlow
