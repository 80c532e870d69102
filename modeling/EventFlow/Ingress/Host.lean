import EventFlow.Text.Digit

/-
  The hosts of targets.

  A host in brackets is an address with colons.  A host of
  four groups of digits, with any character between two of
  them, is meant as an address with dots.  All other hosts
  are names.

  Key definitions include:
    * `Ingress.isNumbered`
    * `Ingress.isDotAddress`
    * `Ingress.isColonAddress`
    * `Ingress.isBracketed`
-/

------------------------------------------------------------
-- Four Groups of Digits
------------------------------------------------------------

namespace EventFlow

namespace Ingress

/- Whether a character is an ASCII digit. -/
def isPlainDigit (c : Char) : Bool :=
  '0' ≤ c && c ≤ '9'

/-
  What can be read before the end of four groups of digits:
  `before n` is followed by n groups and the characters
  between them, and `within n` is followed in addition by
  more digits of the group that was started.
-/
inductive GroupState where
| before (groups : Nat)
| within (groups : Nat)
deriving DecidableEq, Repr

namespace GroupState

/- The states that a character leads to. -/
def next (c : Char) : GroupState → List GroupState
| .before 0 => []
| .before (n + 1) =>
    if isPlainDigit c then [.within n] else []
| .within n =>
    (if isPlainDigit c then [.within n] else []) ++
      (if n = 0 then [] else [.before n])

/- The states that characters lead to. -/
def after
    (states : List GroupState) :
    List Char → List GroupState
| [] => states
| c :: cs =>
    after (states.flatMap (next c)).eraseDups cs

end GroupState

/- Whether a host is four groups of digits. -/
def isNumbered (host : List Char) : Bool :=
  (GroupState.after [.before 4] host).contains (.within 0)

end Ingress

end EventFlow

------------------------------------------------------------
-- Addresses With Dots
------------------------------------------------------------

namespace EventFlow

namespace Ingress

/- Characters between separators. -/
def splitAtEach
    (separator : Char) : List Char → List (List Char)
| [] => [[]]
| c :: cs =>
    if c = separator then
      [] :: splitAtEach separator cs
    else
      match splitAtEach separator cs with
      | part :: parts => (c :: part) :: parts
      | [] => [[c]]

/-
  Whether a part is the number of a byte: up to three digits
  without a zero in front.
-/
def isByteNumber (part : List Char) : Bool :=
  !part.isEmpty &&
    part.all isPlainDigit &&
    part.length ≤ 3 &&
    (part.head? != some '0' || part.length == 1) &&
    part.foldl (fun n c => 10 * n + (c.toNat - 48)) 0 ≤ 255

/- Whether a host is an address with dots. -/
def isDotAddress (host : List Char) : Bool :=
  let parts := splitAtEach '.' host
  parts.length == 4 && parts.all isByteNumber

end Ingress

end EventFlow

------------------------------------------------------------
-- Addresses With Colons
------------------------------------------------------------

namespace EventFlow

namespace Ingress

/- Whether a part is up to four hexadecimal digits. -/
def isHexGroup (part : List Char) : Bool :=
  !part.isEmpty &&
    part.length ≤ 4 &&
    part.all fun c => (Text.hexDigit? c).isSome

/-
  The parts of an address, in which two groups stand for an
  address with dots at its end.  There are none if that is
  no such address.
-/
def colonParts? (cs : List Char) : Option (List (List Char)) :=
  let parts := splitAtEach ':' cs
  let last := parts.getLast?.getD []
  if parts.length < 3 then
    none
  else if !last.contains '.' then
    some parts
  else if isDotAddress last then
    some (parts.dropLast ++ [['0'], ['0']])
  else
    none

/- The places of empty parts that are not at an end. -/
def gaps (parts : List (List Char)) : List Nat :=
  (List.range parts.length).filter fun i =>
    0 < i && i + 1 < parts.length && parts[i]? == some []

/-
  The groups on one side of a gap.  The side is empty if it
  is one empty part.
-/
def sideGroups (parts : List (List Char)) : List (List Char) :=
  if parts = [[]] then [] else parts

/-
  Whether parts make eight groups.  A gap stands for one
  group of zeros or more.
-/
def areColonParts (parts : List (List Char)) : Bool :=
  match gaps parts with
  | [] => parts.length == 8 && parts.all isHexGroup
  | [gap] =>
      let groups :=
        sideGroups (parts.take gap) ++
          sideGroups (parts.drop (gap + 1))
      groups.length < 8 && groups.all isHexGroup
  | _ => false

/-
  Whether characters are an address with colons.  Behind a
  percent sign it may name a zone.
-/
def isColonAddress (cs : List Char) : Bool :=
  let address := cs.takeWhile (· != '%')
  let zone := (cs.drop address.length).drop 1
  let hasZone := address.length < cs.length
  !cs.contains '/' &&
    !(hasZone && (zone.isEmpty || zone.contains '%')) &&
    match colonParts? address with
    | some parts => areColonParts parts
    | none => false

/- Whether a host stands in brackets. -/
def isBracketed (host : List Char) : Bool :=
  host.head? == some '[' && host.getLast? == some ']'

/- A host without the brackets that it stands in. -/
def inBrackets (host : List Char) : List Char :=
  (host.drop 1).dropLast

end Ingress

end EventFlow
