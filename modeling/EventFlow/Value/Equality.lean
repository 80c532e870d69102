import EventFlow.Value.Basic

/-
  Two equalities of values.

  `Value.same` compares numbers by what they stand for: one,
  one as a floating-point number, and true are the same, and
  so are lists and objects whose members are the same.
  Objects are compared without regard to the order of their
  keys.  The floating-point value that is no number differs
  from itself when it stands alone, but a member of a list
  or an object that is no number is the same as another.
  `Value.sameKind` asks in addition that the two values are
  of one kind; it does not ask this of their members.

  Key definitions include:
    * `Value.same`
    * `Value.sameMember`
    * `Value.sameKind`
    * `Value.distinct`
-/

------------------------------------------------------------
-- Equality of Numbers
------------------------------------------------------------

namespace EventFlow

namespace Value

/- The integer that a truth value or an integer stands for. -/
def integer? : Value → Option Int
| .bool b => some (if b then 1 else 0)
| .int n => some n
| _ => none

/- Whether both values are no number, as floating-point. -/
def areNaN : Value → Value → Bool
| .float .nan, .float .nan => true
| _, _ => false

/- Equality of two values that are no text or container. -/
def sameScalar : Value → Value → Bool
| .null, .null => true
| .float x, .float y => x.eq y
| .float x, v =>
    match v.integer? with
    | some n => x.eqInt n
    | none => false
| v, .float y =>
    match v.integer? with
    | some n => y.eqInt n
    | none => false
| v, w =>
    match v.integer?, w.integer? with
    | some m, some n => m == n
    | _, _ => false

end Value

end EventFlow

------------------------------------------------------------
-- Equality of Values
------------------------------------------------------------

namespace EventFlow

namespace Value

mutual

/- Equality that tells no kinds of number apart. -/
def same : Value → Value → Bool
| .str s, .str t => s == t
| .list xs, .list ys => sameItems xs ys
| .object fs, .object gs =>
    fs.length == gs.length && sameFields fs gs
| v, w => sameScalar v w
termination_by structural v => v

/- Equality of lists, item by item. -/
def sameItems : List Value → List Value → Bool
| [], [] => true
| x :: xs, y :: ys =>
    (areNaN x y || same x y) && sameItems xs ys
| _, _ => false
termination_by structural xs => xs

/- Every field of the first list is the same in the second. -/
def sameFields :
    List (String × Value) →
      List (String × Value) → Bool
| [], _ => true
| (k, x) :: fs, gs =>
    (match gs.lookup k with
      | some y => areNaN x y || same x y
      | none => false) &&
      sameFields fs gs
termination_by structural fs => fs

end

/- Equality of two members of lists or objects. -/
def sameMember (v w : Value) : Bool :=
  areNaN v w || v.same w

/- Equality of two values of one kind. -/
def sameKind (v w : Value) : Bool :=
  v.kind == w.kind && v.same w

/- Whether a value is the same as one of a list. -/
def isAmong
    (v : Value)
    (vs : List Value) : Bool :=
  vs.any v.sameMember

/- The first of each group of values that are the same. -/
def distinct (vs : List Value) : List Value :=
  vs.foldl
    (fun kept v => if v.isAmong kept then kept else kept ++ [v])
    []

end Value

end EventFlow
