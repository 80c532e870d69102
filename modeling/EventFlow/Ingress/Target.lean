import EventFlow.Ingress.Host
import EventFlow.Ingress.Percent
import EventFlow.Text.Quoted

/-
  The targets of requests.

  A target is a path with perhaps a query and a fragment
  behind it, and perhaps a scheme and a host in front.  A
  target with a scheme and a host is absolute.  Any other
  target is put below the root of the host that is asked,
  whatever host it names itself.  The dots of a path are
  taken as steps in the tree of paths, and a path is decoded
  by who sends it and again by who receives it.

  Key definitions include:
    * `Ingress.Target`
    * `Ingress.Target.ofChars`
    * `Ingress.Target.path`
    * `Ingress.ledOn`
-/

------------------------------------------------------------
-- Dots
------------------------------------------------------------

namespace EventFlow

namespace Ingress

/-
  Take one part of a path, with the parts in front of it in
  reverse: a dot is no part, and two dots drop the part in
  front, but for the empty part that the path starts with.
-/
def takePart
    (above : List String)
    (part : String) : List String :=
  if part = "." then
    above
  else if part = ".." then
    if above = [""] then above else above.drop 1
  else
    part :: above

/- A path without dots. -/
def withoutDots (cs : List Char) : List Char :=
  let parts := (String.ofList cs).splitOn "/"
  let taken := (parts.foldl takePart []).reverse
  ("/".intercalate taken).toList

end Ingress

end EventFlow

------------------------------------------------------------
-- Parts of Targets
------------------------------------------------------------

namespace EventFlow

namespace Ingress

/- A target in its parts.  A part that is missing is empty. -/
structure Target where
  scheme : List Char := []
  user : List Char := []
  host : List Char := []
  port : List Char := []
  writtenPath : List Char
  query : List Char := []

/- Whether a character can stand in the name of a scheme. -/
def isSchemeChar (c : Char) : Bool :=
  c.isAlphanum || c == '+' || c == '.' || c == '-'

/- The scheme of a target, and what follows its colon. -/
def splitScheme (cs : List Char) : List Char × List Char :=
  match cs.span isSchemeChar with
  | ([], ':' :: rest) => ([], rest)
  | (c :: name, ':' :: rest) =>
      if c.isAlpha then (c :: name, rest) else ([], cs)
  | _ => ([], cs)

/-
  What two slashes stand in front of, up to the path, and
  the path.
-/
def splitOwner : List Char → List Char × List Char
| '/' :: '/' :: cs => cs.span (· != '/')
| cs => ([], cs)

/- The user, up to the last at sign, and what follows. -/
def splitUser (cs : List Char) : List Char × List Char :=
  let host := (cs.reverse.takeWhile (· != '@')).reverse
  (cs.take (cs.length - host.length - 1), host)

/- The host, which may be in brackets, and what follows. -/
def splitHost (cs : List Char) : List Char × List Char :=
  if cs.head? = some '[' && cs.contains ']' then
    let rest := (cs.reverse.takeWhile (· != ']')).reverse
    (cs.take (cs.length - rest.length), rest)
  else
    cs.span (· != ':')

/- The port that is written behind a host. -/
def portOf : List Char → List Char
| ':' :: cs => cs
| cs => cs

/- Whether a character ends the path of a target. -/
def endsPath (c : Char) : Bool :=
  c = '?' || c = '#'

/- The query of what follows a path. -/
def queryOf : List Char → List Char
| '?' :: cs => cs.takeWhile (· != '#')
| _ => []

namespace Target

/- The parts of a target. -/
def ofChars (cs : List Char) : Target :=
  let (front, behind) := cs.span (!endsPath ·)
  let (scheme, front) := splitScheme front
  let (owner, path) := splitOwner front
  let (user, owner) := splitUser owner
  let (host, owner) := splitHost owner
  { scheme := scheme
    user := user
    host := host
    port := portOf owner
    writtenPath := path
    query := queryOf behind }

/- Whether a target names a user, a host or a port. -/
def hasOwner (t : Target) : Bool :=
  !(t.user.isEmpty && t.host.isEmpty && t.port.isEmpty)

/- Whether a target is a mere path. -/
def isMere (t : Target) : Bool :=
  t.scheme.isEmpty && !t.hasOwner

/- Whether a target has a scheme and a host. -/
def isAbsolute (t : Target) : Bool :=
  !t.scheme.isEmpty && !t.host.isEmpty

/- The path of a target, without dots unless it is mere. -/
def ownPath (t : Target) : List Char :=
  if t.isMere then
    t.writtenPath
  else
    withoutDots t.writtenPath

/- The path that is asked for. -/
def askedPath (t : Target) : List Char :=
  if t.isAbsolute then
    t.ownPath
  else
    '/' :: t.ownPath.dropWhile (· == '/')

/- The path of a target as it is received. -/
def path (t : Target) : List Char :=
  percentDecode (percentDecode (withoutDots t.askedPath))

end Target

/-
  The path to which a request is led on.  The path is quoted
  when it is sent, and decoded once more than it was quoted.
-/
def ledOn (path : List Char) : List Char :=
  percentDecode (withoutDots path)

end Ingress

end EventFlow
