import EventFlow.Text.Blank

/-
  Integers as people write them.

  A plain integer is digits without zeros in front, perhaps
  behind a minus sign; at most 4300 digits are read.  A text
  that is no plain integer is tidied and read again: it may
  have blanks around it, a plus sign, zeros in front, single
  underscores between its digits, and a point with nothing
  but zeros behind it.  Zeros and underscores in front do
  not count, also where they stand in front of a minus sign,
  and zeros may follow a minus sign that the text starts
  with.

  Key definitions include:
    * `WrittenInteger.Fault`
    * `WrittenInteger.dropZeros?`
    * `WrittenInteger.dropFraction?`
    * `WrittenInteger.dropMarks`
    * `WrittenInteger.readPlain`
    * `WrittenInteger.tidy?`
    * `WrittenInteger.read`
-/

------------------------------------------------------------
-- Faults
------------------------------------------------------------

namespace EventFlow

namespace WrittenInteger

/- Why a text is not read as an integer. -/
inductive Fault where
| malformed
| tooLong
deriving DecidableEq, Repr

/- The greatest number of digits that is read. -/
def maxDigits : Nat := 4300

/- Whether a character is an ASCII digit. -/
def isDigit (c : Char) : Bool :=
  '0' ≤ c && c ≤ '9'

/- Whether a number without zeros in front can start so. -/
def isStart (c : Char) : Bool :=
  c == '-' || ('1' ≤ c && c ≤ '9')

end WrittenInteger

end EventFlow

------------------------------------------------------------
-- What Does Not Count
------------------------------------------------------------

namespace EventFlow

namespace WrittenInteger

/-
  What follows zeros and underscores, of which `last` is the
  last one.  It is kept if nothing or a point follows.
-/
def afterZeros? (last : Char) : List Char → Option (List Char)
| [] => some [last]
| c :: cs =>
    if c = '0' || c = '_' then
      afterZeros? c cs
    else if isStart c then
      some (c :: cs)
    else if c = '.' then
      some (last :: c :: cs)
    else
      none

/- Characters without the zeros in front of a number. -/
def dropZeros? : List Char → Option (List Char)
| '0' :: cs => afterZeros? '0' cs
| c :: cs => if isStart c then some (c :: cs) else none
| [] => none

/-
  Characters without the zeros in front of a number or
  behind the minus sign that they start with.  A second
  minus sign is refused.
-/
def dropSignedZeros? : List Char → Option (List Char)
| '-' :: cs =>
    match dropZeros? cs with
    | some ('-' :: _) => none
    | some cs => some ('-' :: cs)
    | none => none
| cs => dropZeros? cs

/-
  The characters in front of a point, behind which there are
  only zeros, and at least one.
-/
def dropFraction? (cs : List Char) : Option (List Char) :=
  match cs.span (· != '.') with
  | (whole, []) => some whole
  | (whole, _ :: zeros) =>
      if !zeros.isEmpty && zeros.all (· == '0') then
        some whole
      else
        none

/- Whether two underscores stand side by side. -/
def hasPair : List Char → Bool
| '_' :: '_' :: _ => true
| _ :: cs => hasPair cs
| [] => false

/-
  Characters without underscores, if none of these stands at
  an end or beside another.
-/
def dropMarks (cs : List Char) : List Char :=
  if cs.head? = some '_' || cs.getLast? = some '_' ||
      hasPair cs then
    cs
  else
    cs.filter (· != '_')

end WrittenInteger

end EventFlow

------------------------------------------------------------
-- Reading
------------------------------------------------------------

namespace EventFlow

namespace WrittenInteger

/- The value of ASCII digits. -/
def digitsValue (cs : List Char) : Nat :=
  cs.foldl (fun n c => 10 * n + (c.toNat - '0'.toNat)) 0

/- Read digits, which start with no zero unless it is alone. -/
def readDigits (cs : List Char) : Except Fault Nat :=
  match cs.span isDigit with
  | ([], _) => .error .malformed
  | (['0'], []) => .ok 0
  | ('0' :: _, _) => .error .malformed
  | (digits, rest) =>
      if maxDigits < digits.length then
        .error .tooLong
      else if rest.isEmpty then
        .ok (digitsValue digits)
      else
        .error .malformed

/- Read a plain integer. -/
def readPlain : List Char → Except Fault Int
| '-' :: cs => (readDigits cs).map fun n => -(n : Int)
| cs => (readDigits cs).map fun n => (n : Int)

/- Characters without a plus sign, behind which is no minus. -/
def dropPlus? : List Char → Option (List Char)
| '+' :: '-' :: _ => none
| '+' :: cs => some cs
| cs => some cs

/- Characters without what does not count in an integer. -/
def tidy? (cs : List Char) : Option (List Char) := do
  let cs ← dropPlus? (Text.dropEnds Text.isSpace cs)
  let cs ← dropSignedZeros? cs
  let cs ← dropFraction? cs
  return dropMarks cs

/- Read an integer that is not plain. -/
def readTidied (cs : List Char) : Except Fault Int :=
  match tidy? cs with
  | none => .error .malformed
  | some cs => (readPlain cs).mapError fun _ => .malformed

/-
  Read an integer.  That it is too long is only told of a
  plain one.
-/
def read (s : String) : Except Fault Int :=
  match readPlain s.toList with
  | .ok n => .ok n
  | .error .tooLong => .error .tooLong
  | .error .malformed => readTidied s.toList

end WrittenInteger

end EventFlow
