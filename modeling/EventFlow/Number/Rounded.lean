import EventFlow.Number.Shortest
import EventFlow.Text.Blank

/-
  Floating-point numbers rounded to decimal places.

  A number is rounded to a decimal of a given number of
  places behind the point, or of a given number of digits;
  a tie goes to the even digit.  The general form counts
  digits and writes very large and very small numbers with
  an exponent.

  Key definitions include:
    * `Double.Notation`
    * `Double.fixed`
    * `Double.scientific`
    * `Double.general`
-/

------------------------------------------------------------
-- Digits
------------------------------------------------------------

namespace EventFlow

namespace Double

/-
  How a rounded number is written: whether a point stands
  even when nothing follows it, and whether letters are
  capital.
-/
structure Notation where
  keepsPoint : Bool := false
  isUpper : Bool := false

/- A quotient times a power of ten, rounded. -/
def scaledDigits
    (num : Nat)
    (den : Nat)
    (scale : Int) : Nat :=
  if 0 ≤ scale then
    roundDiv (num * power 10 scale.toNat) den
  else
    roundDiv num (den * power 10 (-scale).toNat)

/- Whether a power of ten is not above a quotient. -/
def reachesPower
    (num : Nat)
    (den : Nat)
    (exponent : Int) : Bool :=
  if 0 ≤ exponent then
    decide (den * power 10 exponent.toNat ≤ num)
  else
    decide (den ≤ num * power 10 (-exponent).toNat)

/- The decimal exponent of a positive quotient. -/
def decimalExponent
    (num : Nat)
    (den : Nat) : Int :=
  let shift : Int := (num.log2 : Int) - den.log2
  let guess := shift * 30103 / 100000 + 2
  let exponents :=
    (List.range 6).map fun (k : Nat) => guess - (k : Int)
  (exponents.find? (reachesPower num den)).getD 0

/-
  A positive quotient rounded to a number of digits, and the
  decimal exponent of the first of them.
-/
def roundToDigits
    (num : Nat)
    (den : Nat)
    (count : Nat) : Nat × Int :=
  let exponent := decimalExponent num den
  let digits :=
    scaledDigits num den ((count : Int) - 1 - exponent)
  if digits = power 10 count then
    (power 10 (count - 1), exponent + 1)
  else
    (digits, exponent)

end Double

end EventFlow

------------------------------------------------------------
-- Forms
------------------------------------------------------------

namespace EventFlow

namespace Double

/- Whole digits with a fraction behind them. -/
def withFraction
    (n : Notation)
    (whole fraction : List Char) : List Char :=
  if fraction.isEmpty && !n.keepsPoint then
    whole
  else
    whole ++ '.' :: fraction

/- Digits with a given number of places behind the point. -/
def pointed
    (n : Notation)
    (digits : Nat)
    (places : Nat) : List Char :=
  let cs := paddedDigits (places + 1) digits
  let whole := cs.length - places
  withFraction n (cs.take whole) (cs.drop whole)

/- The letter in front of an exponent. -/
def exponentLetter (n : Notation) : Char :=
  if n.isUpper then 'E' else 'e'

/- A fraction without the zeros at its end. -/
def dropZeros (fraction : List Char) : List Char :=
  Text.dropRight (· == '0') fraction

/- A positive quotient, or zero, with places. -/
def fixedChars
    (n : Notation)
    (places : Nat)
    (num den : Nat) : List Char :=
  pointed n (scaledDigits num den places) places

/- A positive quotient, or zero, with an exponent. -/
def scientificChars
    (n : Notation)
    (places : Nat)
    (num den : Nat) : List Char :=
  let (digits, exponent) :=
    if num = 0 then
      (0, 0)
    else
      roundToDigits num den (places + 1)
  let cs := paddedDigits (places + 1) digits
  withFraction n (cs.take 1) (cs.drop 1) ++
    exponentLetter n :: exponentText 2 exponent

/-
  A positive quotient, or zero, in the general form.  Unless
  the point is kept, zeros at the end of a fraction are left
  out.
-/
def generalChars
    (n : Notation)
    (count : Nat)
    (num den : Nat) : List Char :=
  let (digits, exponent) :=
    if num = 0 then
      (0, 0)
    else
      roundToDigits num den count
  let trimmed (fraction : List Char) : List Char :=
    if n.keepsPoint then fraction else dropZeros fraction
  if exponent < -4 || (count : Int) ≤ exponent then
    let cs := paddedDigits count digits
    withFraction n (cs.take 1) (trimmed (cs.drop 1)) ++
      exponentLetter n :: exponentText 2 exponent
  else
    let places := ((count : Int) - 1 - exponent).toNat
    let cs := paddedDigits (places + 1) digits
    let whole := cs.length - places
    withFraction n (cs.take whole) (trimmed (cs.drop whole))

/- A number by the form of its quotient. -/
def written
    (n : Notation)
    (form : Nat → Nat → List Char) : Double → List Char
| .nan => (if n.isUpper then "NAN" else "nan").toList
| .infinite negative =>
    (if negative then ['-'] else []) ++
      (if n.isUpper then "INF" else "inf").toList
| .finite negative significand exponent =>
    let (num, den) := ratio significand exponent
    (if negative then ['-'] else []) ++ form num den

/- A number with a given number of places. -/
def fixed
    (n : Notation)
    (places : Nat)
    (x : Double) : List Char :=
  x.written n (fixedChars n places)

/- A number with an exponent and a given number of places. -/
def scientific
    (n : Notation)
    (places : Nat)
    (x : Double) : List Char :=
  x.written n (scientificChars n places)

/-
  A number of digits that every number can be written with
  exactly.
-/
def enoughDigits : Nat := 1100

/-
  A number in the general form, with at least one digit.  If
  zeros at the end are left out, further digits than enough
  are not seen.
-/
def general
    (n : Notation)
    (count : Nat)
    (x : Double) : List Char :=
  let count :=
    if n.keepsPoint then count else min count enoughDigits
  x.written n (generalChars n (max count 1))

end Double

end EventFlow
