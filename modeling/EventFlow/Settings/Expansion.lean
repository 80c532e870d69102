import EventFlow.Settings.Assignments

/-
  Values that name other variables.

  A dollar sign and a name in curly brackets stand for the
  value of that variable; a colon and a hyphen behind the
  name come before a default.  A variable without a value
  stands for its default, or for nothing.  A file's own
  earlier variables come before those of the environment.

  Key definitions include:
    * `Expansion.expand`
    * `Expansion.resolve`
-/

------------------------------------------------------------
-- Placeholders
------------------------------------------------------------

namespace EventFlow

/- Values of variables; a variable may have none. -/
abbrev Variables :=
  List (String × Option String)

namespace Expansion

/- A named variable with a default. -/
structure Placeholder where
  name : String
  default : String
deriving DecidableEq, Repr

/-
  The placeholder whose opening bracket stands before the
  characters, if it is closed.
-/
def readPlaceholder?
    (cs : List Char) : Option (Placeholder × List Char) :=
  let (name, rest) := cs.span fun c => c != '\x7d' && c != ':'
  match rest with
  | '\x7d' :: rest => some (⟨String.ofList name, ""⟩, rest)
  | ':' :: '-' :: rest =>
      match rest.span (· != '\x7d') with
      | (default, _ :: rest) =>
          some
            (⟨String.ofList name, String.ofList default⟩, rest)
      | _ => none
  | _ => none

/- What a placeholder stands for. -/
def Placeholder.value
    (p : Placeholder)
    (vars : Variables) : String :=
  match vars.lookup p.name with
  | some (some value) => value
  | some none => ""
  | none => p.default

/- Characters with their placeholders replaced. -/
def expandChars
    (vars : Variables) :
    Nat → List Char → List Char
| 0, cs => cs
| _, [] => []
| left + 1, '$' :: '\x7b' :: cs =>
    match readPlaceholder? cs with
    | some (p, rest) =>
        (p.value vars).toList ++ expandChars vars left rest
    | none => '$' :: expandChars vars left ('\x7b' :: cs)
| left + 1, c :: cs => c :: expandChars vars left cs

/- A text with its placeholders replaced. -/
def expand
    (vars : Variables)
    (s : String) : String :=
  String.ofList (expandChars vars s.length s.toList)

end Expansion

end EventFlow

------------------------------------------------------------
-- Bindings
------------------------------------------------------------

namespace EventFlow

namespace Expansion

/- Variables with those of the environment behind them. -/
def aheadOf
    (vars : Variables)
    (env : List (String × String)) : Variables :=
  vars ++ env.map fun (name, value) => (name, some value)

/- The variables of bindings, each value expanded in turn. -/
def resolveFrom
    (env : List (String × String))
    (vars : Variables) :
    List Assignments.Binding → Variables
| [] => vars
| b :: bs =>
    let value? := b.value?.map (expand (aheadOf vars env))
    resolveFrom env (Entries.put b.name value? vars) bs

/- The variables of a file of assignments. -/
def resolve
    (env : List (String × String))
    (bindings : List Assignments.Binding) : Variables :=
  resolveFrom env [] bindings

end Expansion

end EventFlow
