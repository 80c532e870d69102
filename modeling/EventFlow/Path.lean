/-
  Paths of files.

  A path is kept as its parts, without empty parts and
  without points.  Parts that lead upwards stay, because
  only a tree of files tells where they lead.

  Key definitions include:
    * `Path`
    * `Path.ofText`
    * `Path.text`
    * `Path.parent`
-/

------------------------------------------------------------
-- Paths
------------------------------------------------------------

namespace EventFlow

/-
  A path: the slashes that it starts with, and its parts.
  Exactly two slashes at the start are kept; any other
  number of them counts as one.
-/
structure Path where
  root : String
  parts : List String
deriving DecidableEq, Repr

namespace Path

/- The root of a path from its slashes at the start. -/
def rootOf (slashes : Nat) : String :=
  match slashes with
  | 0 => ""
  | 2 => "//"
  | _ => "/"

/- Read a path. -/
def ofText (s : String) : Path :=
  let slashes := (s.toList.takeWhile (· == '/')).length
  let parts := (s.splitOn "/").filter fun part =>
    part != "" && part != "."
  { root := rootOf slashes
    parts := parts }

/- A path as text. -/
def text (p : Path) : String :=
  if p.root = "" && p.parts.isEmpty then
    "."
  else
    p.root ++ "/".intercalate p.parts

/- A path without its last part. -/
def parent (p : Path) : Path :=
  { p with parts := p.parts.dropLast }

end Path

end EventFlow
