import EventFlow.Number.Written
import EventFlow.Value.Text

/-
  Checking values against the shape of a record.

  A check reads a value or reports what is wrong with it.  A
  problem names a rule, the place in the value where the
  rule is broken, and what was found there.  The checks of a
  record's fields are combined by `Checked.and`, which keeps
  the problems of both sides, so that all problems of a
  record are reported at once and in the order of its
  fields.

  Key definitions include:
    * `Schema.Rule`
    * `Schema.Place`
    * `Schema.Problem`
    * `Schema.Checked`
    * `Schema.required`
    * `Schema.optional`
    * `Schema.report`
-/

------------------------------------------------------------
-- Problems
------------------------------------------------------------

namespace EventFlow

namespace Schema

/- The rules that a value can break. -/
inductive Rule where
| missing
| unexpected
| text
| list
| table
| record (name : String)
| body
| atLeastOneItem
| truth
| writtenTruth
| writtenInteger
| shortInteger
| atLeastOne
| other (reason : String)
deriving DecidableEq, Repr

namespace Rule

/- The short name of a rule. -/
def code : Rule → String
| .missing => "missing"
| .unexpected => "extra_forbidden"
| .text => "string_type"
| .list => "list_type"
| .table => "dict_type"
| .record _ => "model_type"
| .body => "model_attributes_type"
| .atLeastOneItem => "too_short"
| .truth => "bool_type"
| .writtenTruth => "bool_parsing"
| .writtenInteger => "int_parsing"
| .shortInteger => "int_parsing_size"
| .atLeastOne => "greater_than_equal"
| .other _ => "value_error"

/- The wording of a rule. -/
def message : Rule → String
| .missing => "Field required"
| .unexpected => "Extra inputs are not permitted"
| .text => "Input should be a valid string"
| .list => "Input should be a valid list"
| .table => "Input should be a valid dictionary"
| .record name =>
    "Input should be a valid dictionary or instance of " ++
      name
| .body =>
    "Input should be a valid dictionary or object " ++
      "to extract fields from"
| .atLeastOneItem =>
    "List should have at least 1 item after validation, " ++
      "not 0"
| .truth => "Input should be a valid boolean"
| .writtenTruth =>
    "Input should be a valid boolean, " ++
      "unable to interpret input"
| .writtenInteger =>
    "Input should be a valid integer, " ++
      "unable to parse string as an integer"
| .shortInteger =>
    "Unable to parse input string as an integer, " ++
      "exceeded maximum size"
| .atLeastOne =>
    "Input should be greater than or equal to 1"
| .other reason => "Value error, " ++ reason

end Rule

/- One step from a value to a part of it. -/
inductive Place where
| field (name : String)
| item (index : Nat)
deriving DecidableEq, Repr

/- A step as it is written in a report. -/
def Place.text : Place → String
| .field name => name
| .item index => toString index

/- A step as a value. -/
def Place.toValue : Place → Value
| .field name => .str name
| .item index => .int index

/- A broken rule, where it is broken, and what stands there. -/
structure Problem where
  rule : Rule
  place : List Place
  found : Value

namespace Problem

/- The place of a problem, its steps joined by points. -/
def placeText (p : Problem) : String :=
  ".".intercalate (p.place.map Place.text)

/- A problem of a part, as a problem of the whole. -/
def inside
    (step : Place)
    (p : Problem) : Problem :=
  { p with place := step :: p.place }

end Problem

end Schema

end EventFlow

------------------------------------------------------------
-- Reports
------------------------------------------------------------

namespace EventFlow

namespace Schema

/- The greatest number of bytes of a found value in a report. -/
def excerptLimit : Nat := 50

/- The first characters that fit into a number of bytes. -/
def takeBytes : Nat → List Char → List Char
| _, [] => []
| room, c :: cs =>
    if c.utf8Size ≤ room then
      c :: takeBytes (room - c.utf8Size) cs
    else
      []

/-
  A text as it stands in a report: a long one is shortened
  to its beginning and its end.
-/
def excerpt (s : String) : String :=
  if s.utf8ByteSize ≤ excerptLimit then
    s
  else
    let cs := s.toList
    String.ofList
      (takeBytes 25 cs ++ ['.', '.', '.'] ++
        (takeBytes 24 cs.reverse).reverse)

/- The lines of a report about one problem. -/
def Problem.lines (p : Problem) : List String :=
  [ p.placeText,
    "  " ++ p.rule.message ++ " [type=" ++ p.rule.code ++
      ", input_value=" ++ excerpt p.found.shown ++
      ", input_type=" ++ p.found.kind ++ "]" ]

/- A report about all problems of a record. -/
def report
    (title : String)
    (problems : List Problem) : String :=
  let count := toString problems.length
  let errors :=
    if problems.length = 1 then
      " validation error for "
    else
      " validation errors for "
  "\n".intercalate
    ((count ++ errors ++ title) ::
      problems.flatMap Problem.lines)

end Schema

end EventFlow

------------------------------------------------------------
-- Checks
------------------------------------------------------------

namespace EventFlow

namespace Schema

/- What a check yields: a result, or at least one problem. -/
abbrev Checked (α : Type) :=
  Except (List Problem) α

namespace Checked

/- The problems that a check reported. -/
def problems
    {α : Type} : Checked α → List Problem
| .ok _ => []
| .error ps => ps

/- Both results, or the problems of both in order. -/
def and
    {α β : Type}
    (a : Checked α)
    (b : Checked β) : Checked (α × β) :=
  match a, b with
  | .ok x, .ok y => .ok (x, y)
  | a, b => .error (a.problems ++ b.problems)

/- A check of a part, as a check of the whole. -/
def inside
    {α : Type}
    (step : Place)
    (a : Checked α) : Checked α :=
  a.mapError (·.map (Problem.inside step))

end Checked

/- Report one broken rule of a value. -/
def broken
    {α : Type}
    (rule : Rule)
    (found : Value) : Checked α :=
  .error [{ rule := rule, place := [], found := found }]

/- Check every item of a list under a rising index. -/
def eachFrom
    {α : Type}
    (check : Value → Checked α)
    (index : Nat) :
    List Value → Checked (List α)
| [] => .ok []
| v :: vs =>
    (((check v).inside (.item index)).and
      (eachFrom check (index + 1) vs)).map
      fun (x, xs) => x :: xs

/- Check every field of an object. -/
def eachField
    {α : Type}
    (check : Value → Checked α) :
    List (String × Value) → Checked (List (String × α))
| [] => .ok []
| (k, v) :: fs =>
    (((check v).inside (.field k)).and
      (eachField check fs)).map
      fun (x, xs) => (k, x) :: xs

/- A text. -/
def text : Value → Checked String
| .str s => .ok s
| v => broken .text v

/- A text or nothing. -/
def text? : Value → Checked (Option String)
| .null => .ok none
| .str s => .ok (some s)
| v => broken .text v

/- An object with values of any kind. -/
def table : Value → Checked (List (String × Value))
| .object fields => .ok fields
| v => broken .table v

/- A list whose items all pass a check. -/
def listOf
    {α : Type}
    (check : Value → Checked α) :
    Value → Checked (List α)
| .list items => eachFrom check 0 items
| v => broken .list v

/- A list with at least one item. -/
def someOf
    {α : Type}
    (check : Value → Checked α)
    (v : Value) : Checked (List α) :=
  match v with
  | .list [] => broken .atLeastOneItem v
  | v => listOf check v

/- An object whose fields all pass a check. -/
def tableOf
    {α : Type}
    (check : Value → Checked α) :
    Value → Checked (List (String × α))
| .object fields => eachField check fields
| v => broken .table v

/- Equality of texts but for the case of ASCII letters. -/
def sameLetters (s t : String) : Bool :=
  s.toList.map Char.toLower == t.toList.map Char.toLower

/- A written truth value. -/
def truthOfText? (s : String) : Option Bool :=
  if ["0", "off", "f", "false", "n", "no"].any
      (sameLetters s) then
    some false
  else if ["1", "on", "t", "true", "y", "yes"].any
      (sameLetters s) then
    some true
  else
    none

/- Integers of a machine word are below this in size. -/
def wordBound : Nat :=
  power 2 63

/- The truth value of an integer of a machine word. -/
def truthOfInt (n : Int) (found : Value) : Checked Bool :=
  if n = 0 then .ok false
  else if n = 1 then .ok true
  else broken .writtenTruth found

/-
  A truth value: itself, the number zero or one, or a word
  for it.  An integer that fits in no machine word and a
  number that is no integer are not read as numbers.
-/
def truth : Value → Checked Bool
| .bool b => .ok b
| .int n =>
    if n = -(wordBound : Int) || n.natAbs < wordBound then
      truthOfInt n (.int n)
    else
      broken .truth (.int n)
| .float x =>
    match x.truncate? with
    | some n =>
        if x.eqInt n && n.natAbs < wordBound then
          truthOfInt n (.float x)
        else
          broken .truth (.float x)
    | none => broken .truth (.float x)
| .str s =>
    match truthOfText? s with
    | some b => .ok b
    | none => broken .writtenTruth (.str s)
| v => broken .truth v

/- An integer that a text holds. -/
def integerOfText (s : String) : Checked Int :=
  match WrittenInteger.read s with
  | .ok n => .ok n
  | .error .malformed => broken .writtenInteger (.str s)
  | .error .tooLong => broken .shortInteger (.str s)

end Schema

end EventFlow

------------------------------------------------------------
-- Fields of Records
------------------------------------------------------------

namespace EventFlow

namespace Schema

/- A field that must be present. -/
def required
    {α : Type}
    (fields : List (String × Value))
    (name : String)
    (check : Value → Checked α) : Checked α :=
  let checked :=
    match fields.lookup name with
    | some v => check v
    | none => broken .missing (.object fields)
  checked.inside (.field name)

/- A field that stands for a default when it is absent. -/
def optional
    {α : Type}
    (fields : List (String × Value))
    (name : String)
    (default : α)
    (check : Value → Checked α) : Checked α :=
  match fields.lookup name with
  | some v => (check v).inside (.field name)
  | none => .ok default

/- Refuse every field that a record does not have. -/
def only
    (names : List String)
    (fields : List (String × Value)) : Checked Unit :=
  let extras := fields.filter fun (k, _) => !names.contains k
  if extras.isEmpty then
    .ok ()
  else
    .error (extras.map fun (k, v) =>
      { rule := .unexpected
        place := [.field k]
        found := v })

end Schema

end EventFlow
