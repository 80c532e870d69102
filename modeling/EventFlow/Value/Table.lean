import EventFlow.Failure
import EventFlow.Json.Printer
import EventFlow.Value.Equality

/-
  Tables: the attributes of a step and the context of a
  trace entry.

  A table is made from any value that lists pairs: an object,
  or a list of pairs, where a text of two characters is a
  pair too.  Its keys may therefore be of any kind but lists
  and objects.  Keys that are the same count as one, which
  keeps its first form and its last value.

  Key definitions include:
    * `Table`
    * `Table.get?`
    * `Table.ofFields`
    * `Table.ofValue`
    * `Table.toValue`
    * `Value.items`
-/

------------------------------------------------------------
-- Items
------------------------------------------------------------

namespace EventFlow

namespace Value

/- The characters of a text, each as a text. -/
def characters (s : String) : List Value :=
  s.toList.map fun c => .str (String.singleton c)

/-
  The parts of a value that is made of parts: items,
  characters, or keys.
-/
def items? : Value → Option (List Value)
| .list vs => some vs
| .str s => some (characters s)
| .object fields => some (fields.map fun (k, _) => .str k)
| _ => none

/- The parts of a value, or a failure. -/
def items (v : Value) : Except Failure (List Value) :=
  match v.items? with
  | some vs => .ok vs
  | none => .error (.notIterable v.kind)

/- A value that can be a key or a member of a set. -/
def key (v : Value) : Except Failure Value :=
  if v.isContainer then
    .error (.notHashable v.kind)
  else
    .ok v

end Value

end EventFlow

------------------------------------------------------------
-- Tables
------------------------------------------------------------

namespace EventFlow

/- Pairs of keys and values; no two keys are the same. -/
abbrev Table :=
  List (Value × Value)

namespace Table

/- The value of a key that is a text. -/
def get?
    (t : Table)
    (key : String) : Option Value :=
  (t.find? fun (k, _) => k.same (.str key)).map Prod.snd

/- The value of a key, or the empty value. -/
def getD
    (t : Table)
    (key : String) : Value :=
  (t.get? key).getD .null

/- Write the value of a key. -/
def put
    (key : Value)
    (value : Value) : Table → Table
| [] => [(key, value)]
| (k, v) :: rest =>
    if k.sameMember key then
      (k, value) :: rest
    else
      (k, v) :: put key value rest

/- The fields of an object as a table. -/
def ofFields (fields : List (String × Value)) : Table :=
  fields.map fun (k, v) => (.str k, v)

/- One pair of a table, at an index of a list of pairs. -/
def pairOf
    (index : Nat)
    (v : Value) : Except Failure (Value × Value) :=
  match v.items? with
  | none => .error (.pairShape index)
  | some [k, v] => k.key.map fun k => (k, v)
  | some parts => .error (.pairLength index parts.length)

/- Write pairs, from an index on, into a table. -/
def putPairs
    (index : Nat)
    (t : Table) : List Value → Except Failure Table
| [] => .ok t
| v :: vs =>
    match pairOf index v with
    | .error failure => .error failure
    | .ok (k, x) => putPairs (index + 1) (put k x t) vs

/- A value as a table. -/
def ofValue (v : Value) : Except Failure Table :=
  match v with
  | .object fields => .ok (ofFields fields)
  | v =>
      match v.items with
      | .error failure => .error failure
      | .ok parts => putPairs 0 [] parts

/- A value as a table, where any empty value has no pairs. -/
def ofOptional (v : Value) : Except Failure Table :=
  if v.isTruthy then ofValue v else .ok []

/- A key as the name of a field of a written object. -/
def keyText : Value → String
| .str s => s
| .null => "null"
| .bool b => if b then "true" else "false"
| .float x => String.ofList (Json.doubleChars x)
| v => v.text

/- A table as an object. -/
def toValue (t : Table) : Value :=
  .object (t.map fun (k, v) => (keyText k, v))

end Table

end EventFlow
