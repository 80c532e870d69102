import EventFlow.Number.Power

/-
  Binary floating-point numbers of 64 bits.

  A finite number is kept as a sign, a significand and an
  exponent of two.  The kept form is unique: the exponent is
  at least -1074, the significand is below 2 ^ 53, and it is
  at least 2 ^ 52 unless the exponent is -1074.
  `Double.ofRatio` rounds a quotient of two natural numbers
  to the nearest number, and a tie to an even significand.

  Key definitions include:
    * `Double`
    * `roundDiv`
    * `Double.ofRatio`
    * `Double.ofDecimal`
    * `Double.ofInt?`
    * `Double.eq`
    * `Double.eqInt`
-/

------------------------------------------------------------
-- Rounded Quotients
------------------------------------------------------------

namespace EventFlow

/- The nearest integer to a quotient; a tie goes to even. -/
def roundDiv
    (num : Nat)
    (den : Nat) : Nat :=
  let quotient := num / den
  let rest := num % den
  if 2 * rest < den then
    quotient
  else if den < 2 * rest then
    quotient + 1
  else if quotient % 2 = 0 then
    quotient
  else
    quotient + 1

end EventFlow

------------------------------------------------------------
-- Numbers
------------------------------------------------------------

namespace EventFlow

/- A floating-point number of 64 bits. -/
inductive Double where
| finite
    (negative : Bool)
    (significand : Nat)
    (exponent : Int)
| infinite (negative : Bool)
| nan
deriving DecidableEq, Repr, Inhabited

namespace Double

/- The least exponent of a finite number. -/
def minExponent : Int := -1074

/- The greatest exponent of a finite number. -/
def maxExponent : Int := 971

/- The number zero of a given sign. -/
def signedZero (negative : Bool) : Double :=
  .finite negative 0 minExponent

/- Whether a number is zero. -/
def isZero : Double → Bool
| .finite _ significand _ => significand == 0
| _ => false

/- Whether a number is neither infinite nor undefined. -/
def isFinite : Double → Bool
| .finite _ _ _ => true
| _ => false

/- A quotient over a power of two, as a rounded integer. -/
def significandAt
    (num : Nat)
    (den : Nat)
    (exponent : Int) : Nat :=
  if 0 ≤ exponent then
    roundDiv num (den * power 2 exponent.toNat)
  else
    roundDiv (num * power 2 (-exponent).toNat) den

/-
  The exponent at which a positive quotient has a significand
  of 53 bits, or the least exponent if that one is smaller.
-/
def exponentOf
    (num : Nat)
    (den : Nat) : Int :=
  let shift : Int := (num.log2 : Int) - den.log2
  let reached : Bool :=
    if 0 ≤ shift then
      den * power 2 shift.toNat ≤ num
    else
      den ≤ num * power 2 (-shift).toNat
  let exponent := if reached then shift - 52 else shift - 53
  if exponent < minExponent then minExponent else exponent

/- The number nearest to a quotient. -/
def ofRatio
    (negative : Bool)
    (num : Nat)
    (den : Nat) : Double :=
  if num = 0 then
    signedZero negative
  else
    let exponent := exponentOf num den
    let significand := significandAt num den exponent
    let (significand, exponent) :=
      if significand = power 2 53 then
        (power 2 52, exponent + 1)
      else
        (significand, exponent)
    if maxExponent < exponent then
      .infinite negative
    else
      .finite negative significand exponent

/-
  The number nearest to `digits * 10 ^ scale`.  A scale so
  large or so small that the answer is infinite or zero is
  answered without computing the power of ten.
-/
def ofDecimal
    (negative : Bool)
    (digits : Nat)
    (scale : Int) : Double :=
  let size : Int := (Nat.toDigits 10 digits).length
  if digits = 0 then
    signedZero negative
  else if 320 < size + scale then
    .infinite negative
  else if size + scale < -340 then
    signedZero negative
  else if 0 ≤ scale then
    ofRatio negative (digits * power 10 scale.toNat) 1
  else
    ofRatio negative digits (power 10 (-scale).toNat)

/- The number nearest to an integer, if it is not too large. -/
def ofInt? (n : Int) : Option Double :=
  match ofRatio (n < 0) n.natAbs 1 with
  | .infinite _ => none
  | x => some x

/-
  The value of a finite number as a quotient of natural
  numbers, without its sign.
-/
def ratio
    (significand : Nat)
    (exponent : Int) : Nat × Nat :=
  if 0 ≤ exponent then
    (significand * power 2 exponent.toNat, 1)
  else
    (significand, power 2 (-exponent).toNat)

/-
  The integer part of a number, towards zero, if the number
  is finite.
-/
def truncate? : Double → Option Int
| .finite negative significand exponent =>
    let (num, den) := ratio significand exponent
    let whole : Int := (num / den : Nat)
    some (if negative then -whole else whole)
| _ => none

end Double

end EventFlow

------------------------------------------------------------
-- Numeric Equality
------------------------------------------------------------

namespace EventFlow

namespace Double

/-
  Equality of numbers: the two zeros are equal, and the
  undefined number equals nothing.
-/
def eq (x y : Double) : Bool :=
  match x, y with
  | .nan, _ => false
  | _, .nan => false
  | x, y => (x.isZero && y.isZero) || x == y

/- Equality of a number with an integer. -/
def eqInt
    (x : Double)
    (n : Int) : Bool :=
  match x with
  | .finite negative significand exponent =>
      let (num, den) := ratio significand exponent
      num == n.natAbs * den &&
        (n == 0 || negative == decide (n < 0))
  | _ => false

end Double

end EventFlow
