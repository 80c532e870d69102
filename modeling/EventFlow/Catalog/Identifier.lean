import EventFlow.Surroundings
import EventFlow.Text.Blank
import EventFlow.Value.Text

/-
  Identifiers of types.

  A type is identified by itself, or by a path: what is to
  be imported and a name in it, with a colon or a point in
  between.  Blanks around a path do not count.

  Key definitions include:
    * `Identifier`
    * `Identifier.halves`
    * `Identifier.resolve`
    * `Identifier.trigger`
    * `Identifier.step`
-/

------------------------------------------------------------
-- Identifiers
------------------------------------------------------------

namespace EventFlow

/- What a caller gives to name a type. -/
inductive Identifier where
| path (text : String)
| item (item : Item)
| value (value : Value)

namespace Identifier

/- An identifier as it is named in messages. -/
def name : Identifier → String
| .path p => p
| .item i => i.name
| .value v => v.shown

/- An identifier from a value: a text is a path. -/
def ofValue : Value → Identifier
| .str text => .path text
| v => .value v

/-
  The two halves of a path: at the first colon, or without a
  colon at the last point.
-/
def halves (cs : List Char) : List Char × List Char :=
  if cs.contains ':' then
    (cs.takeWhile (· != ':'), (cs.dropWhile (· != ':')).drop 1)
  else
    let back := cs.reverse
    (((back.dropWhile (· != '.')).drop 1).reverse,
      (back.takeWhile (· != '.')).reverse)

variable [Surroundings]

/-
  What a path stands for.  What cannot be imported has no
  names, but a failure of the import is one of the path.
-/
def ofPath? (text : String) : Except Failure (Option Item) :=
  match halves (Text.trimChars text.toList) with
  | ([], _) => .ok none
  | (_, []) => .ok none
  | (area, name) =>
      match Surroundings.importing (String.ofList area) with
      | .missing => .ok none
      | .area find? => .ok (find? (String.ofList name))
      | .broken failure => .error failure

/- What an identifier stands for, if it stands for anything. -/
def resolve :
    Identifier → Except Failure (Option Item)
| .path p => ofPath? p
| .item i => .ok (some i)
| .value .null => .ok none
| .value v => .ok (some (.other v.shown))

end Identifier

end EventFlow

------------------------------------------------------------
-- Identified Types
------------------------------------------------------------

namespace EventFlow

namespace Identifier

variable [Surroundings]

/- The type of triggers that an identifier stands for. -/
def trigger (i : Identifier) : Except Failure TriggerType :=
  match i.resolve with
  | .error failure => .error failure
  | .ok none => .error (.typeMissing .trigger i.name)
  | .ok (some (.trigger type)) => .ok type
  | .ok (some _) => .error (.typeUnfit .trigger i.name)

/- The type of steps that an identifier stands for. -/
def step (i : Identifier) : Except Failure StepType :=
  match i.resolve with
  | .error failure => .error failure
  | .ok none => .error (.typeMissing .step i.name)
  | .ok (some (.step type)) => .ok type
  | .ok (some _) => .error (.typeUnfit .step i.name)

end Identifier

end EventFlow
