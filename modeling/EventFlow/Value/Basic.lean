import EventFlow.Entries
import EventFlow.Number.Double

/-
  The values that payloads, attributes and definitions hold.

  A value is empty, a truth value, an integer of any size, a
  floating-point number, a text, a list, or an object whose
  keys keep their order.  Integers, floating-point numbers
  and truth values are three kinds, also where they stand
  for the same number.

  Key definitions include:
    * `Value`
    * `Value.kind`
    * `Value.isTruthy`
    * `Value.field?`
-/

------------------------------------------------------------
-- Values
------------------------------------------------------------

namespace EventFlow

/- A value of a payload, an attribute or a definition. -/
inductive Value where
| null
| bool (b : Bool)
| int (n : Int)
| float (x : Double)
| str (s : String)
| list (items : List Value)
| object (fields : List (String × Value))
deriving Repr, Inhabited

namespace Value

/- The name of the kind that a value is of. -/
def kind : Value → String
| .null => "NoneType"
| .bool _ => "bool"
| .int _ => "int"
| .float _ => "float"
| .str _ => "str"
| .list _ => "list"
| .object _ => "dict"

/- Whether a value is empty. -/
def isNull : Value → Bool
| .null => true
| _ => false

theorem isNull_iff (v : Value) :
    v.isNull = true ↔ v = .null := by
  cases v <;> simp [isNull]

/- Whether a value is a list or an object. -/
def isContainer : Value → Bool
| .list _ => true
| .object _ => true
| _ => false

/-
  Whether a value counts as true: neither empty nor false,
  nor zero, nor without any character, item or field.
-/
def isTruthy : Value → Bool
| .null => false
| .bool b => b
| .int n => n != 0
| .float x => !x.isZero
| .str s => !s.isEmpty
| .list items => !items.isEmpty
| .object fields => !fields.isEmpty

/- The value of a field of an object, if it has that field. -/
def field?
    (v : Value)
    (key : String) : Option Value :=
  match v with
  | .object fields => fields.lookup key
  | _ => none

/- The value of a field, or the empty value. -/
def fieldD
    (v : Value)
    (key : String) : Value :=
  (v.field? key).getD .null

mutual

/- Whether all numbers of a value are finite. -/
def isFinite : Value → Bool
| .float x => x.isFinite
| .list items => areFinite items
| .object fields => areFiniteFields fields
| _ => true

/- Whether all numbers of values are finite. -/
def areFinite : List Value → Bool
| [] => true
| v :: vs => v.isFinite && areFinite vs

/- Whether all numbers of fields are finite. -/
def areFiniteFields : List (String × Value) → Bool
| [] => true
| (_, v) :: fields => v.isFinite && areFiniteFields fields

end

/- An optional text as a value. -/
def ofText? : Option String → Value
| some s => .str s
| none => .null

end Value

end EventFlow
