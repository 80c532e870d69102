import EventFlow.Number.Double

/-
  The shortest decimal of a floating-point number.

  The decimals that read back as a given number are those of
  an interval around it, which holds its ends exactly when
  the significand is even.  `Double.shortest` looks at
  decimal grids from coarse to fine and takes the first grid
  on which one of the number's two neighbours lies in the
  interval; of two such neighbours it takes the nearer, and
  of two equally near ones the even.  A point of a grid in
  the interval is never nearer than a neighbour, so no
  decimal of fewer digits reads back.

  Key definitions include:
    * `Double.Decimal`
    * `Double.onGrid?`
    * `Double.shortest`
    * `Double.Layout`
    * `Double.text`
-/

------------------------------------------------------------
-- Decimals in the Rounding Interval
------------------------------------------------------------

namespace EventFlow

namespace Double

/- The decimal `digits * 10 ^ scale`. -/
structure Decimal where
  digits : Nat
  scale : Int
deriving DecidableEq, Repr

/-
  A positive number with its rounding interval, as multiples
  of a quarter of the last place.  The part of the interval
  below a power of two is half as long.
-/
structure Interval where
  low : Nat
  value : Nat
  high : Nat
  closed : Bool
  exponent : Int

/- The rounding interval of a positive number. -/
def interval
    (significand : Nat)
    (exponent : Int) : Interval :=
  let short :=
    significand == power 2 52 && minExponent < exponent
  { low := 4 * significand - (if short then 1 else 2)
    value := 4 * significand
    high := 4 * significand + 2
    closed := significand % 2 == 0
    exponent := exponent - 2 }

/-
  The neighbour of a number on the grid of multiples of
  `10 ^ scale` that reads back as the number, if there is
  one.
-/
def onGrid?
    (i : Interval)
    (scale : Int) : Option Decimal :=
  let num :=
    power 2 i.exponent.toNat * power 10 (-scale).toNat
  let den :=
    power 2 (-i.exponent).toNat * power 10 scale.toNat
  let below := i.value * num / den
  let within (a b : Nat) : Bool :=
    if i.closed then a ≤ b else a < b
  let hitBelow := within (i.low * num) (below * den)
  let hitAbove := within ((below + 1) * den) (i.high * num)
  let twice := 2 * (i.value * num)
  let middle := (2 * below + 1) * den
  if hitBelow && hitAbove then
    if twice < middle || (twice == middle && below % 2 == 0)
    then
      some ⟨below, scale⟩
    else
      some ⟨below + 1, scale⟩
  else if hitBelow then
    some ⟨below, scale⟩
  else if hitAbove then
    some ⟨below + 1, scale⟩
  else
    none

/-
  A scale whose grid is too coarse for a positive number, by
  an estimate of its decimal logarithm.
-/
def coarseScale
    (significand : Nat)
    (exponent : Int) : Int :=
  ((significand.log2 : Int) + exponent) * 30103 / 100000 + 2

/-
  The shortest decimal that reads back as a positive number.
  Seventeen digits always suffice.
-/
def shortest
    (significand : Nat)
    (exponent : Int) : Decimal :=
  let i := interval significand exponent
  let top := coarseScale significand exponent
  let scales := (List.range 24).map fun (k : Nat) => top - (k : Int)
  match scales.findSome? (onGrid? i) with
  | some decimal => decimal
  | none =>
      let (num, den) := ratio significand exponent
      ⟨num / den, 0⟩

end Double

end EventFlow

------------------------------------------------------------
-- Written Numbers
------------------------------------------------------------

namespace EventFlow

namespace Double

/-
  How a number is laid out: positionally when the exponent
  of its first digit is at least `positionalFrom` and below
  `positionalBelow`, with a fraction of at least one digit,
  and otherwise with a signed exponent of at least
  `exponentWidth` digits.
-/
structure Layout where
  positionalFrom : Int
  positionalBelow : Int
  exponentWidth : Nat

/-
  Numbers from a ten-thousandth up to ten to the sixteenth
  are written positionally, others with an exponent of at
  least two digits.
-/
def layout : Layout :=
  { positionalFrom := -4
    positionalBelow := 16
    exponentWidth := 2 }

/- Decimal digits, with zeros on the left up to a width. -/
def paddedDigits
    (width : Nat)
    (n : Nat) : List Char :=
  let digits := Nat.toDigits 10 n
  List.replicate (width - digits.length) '0' ++ digits

/- A signed exponent. -/
def exponentText
    (width : Nat)
    (exponent : Int) : List Char :=
  (if exponent < 0 then '-' else '+') ::
    paddedDigits width exponent.natAbs

/- Lay out a positive decimal. -/
def Decimal.layOut
    (l : Layout)
    (d : Decimal) : List Char :=
  let digits := Nat.toDigits 10 d.digits
  let size := digits.length
  let exponent := d.scale + size - 1
  if l.positionalFrom ≤ exponent &&
      exponent < l.positionalBelow then
    if 0 ≤ d.scale then
      digits ++ List.replicate d.scale.toNat '0' ++
        ['.', '0']
    else if 0 ≤ exponent then
      digits.take (exponent.toNat + 1) ++
        '.' :: digits.drop (exponent.toNat + 1)
    else
      '0' :: '.' ::
        (List.replicate (-exponent - 1).toNat '0' ++ digits)
  else
    let fraction := digits.drop 1
    digits.take 1 ++
      (if fraction.isEmpty then [] else '.' :: fraction) ++
      'e' :: exponentText l.exponentWidth exponent

/- The characters of a written number. -/
def chars : Double → List Char
| .nan => ['n', 'a', 'n']
| .infinite negative =>
    (if negative then ['-'] else []) ++ ['i', 'n', 'f']
| .finite negative significand exponent =>
    (if negative then ['-'] else []) ++
      (if significand = 0 then
        ['0', '.', '0']
      else
        (shortest significand exponent).layOut layout)

/- A written number. -/
def text (x : Double) : String :=
  String.ofList x.chars

end Double

end EventFlow
