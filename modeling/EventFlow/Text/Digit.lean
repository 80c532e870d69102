import EventFlow.Text.Blank

/-
  Decimal digits and the reading of written integers.

  `Text.digitZeros` lists the zeros of the decimal digit
  sets of version 14 of the Unicode character database; the
  nine characters after a zero are the other digits of its
  set.  `Text.readInteger?` reads an optionally signed
  integer of up to 4300 digits, with single underscores
  between digits and white space around it.

  Key definitions include:
    * `Text.digit?`
    * `Text.hexDigit?`
    * `Text.readDigits?`
    * `Text.readInteger?`
-/

------------------------------------------------------------
-- Digits
------------------------------------------------------------

namespace EventFlow

namespace Text

/- The zero of every set of decimal digits. -/
def digitZeros : List Nat := [
  0x0030, 0x0660, 0x06f0, 0x07c0, 0x0966, 0x09e6, 0x0a66,
  0x0ae6, 0x0b66, 0x0be6, 0x0c66, 0x0ce6, 0x0d66, 0x0de6,
  0x0e50, 0x0ed0, 0x0f20, 0x1040, 0x1090, 0x17e0, 0x1810,
  0x1946, 0x19d0, 0x1a80, 0x1a90, 0x1b50, 0x1bb0, 0x1c40,
  0x1c50, 0xa620, 0xa8d0, 0xa900, 0xa9d0, 0xa9f0, 0xaa50,
  0xabf0, 0xff10, 0x104a0, 0x10d30, 0x11066, 0x110f0, 0x11136,
  0x111d0, 0x112f0, 0x11450, 0x114d0, 0x11650, 0x116c0,
  0x11730, 0x118e0, 0x11950, 0x11c50, 0x11d50, 0x11da0,
  0x16a60, 0x16ac0, 0x16b50, 0x1d7ce, 0x1d7d8, 0x1d7e2,
  0x1d7ec, 0x1d7f6, 0x1e140, 0x1e2f0, 0x1e950, 0x1fbf0
]

/- The value of a decimal digit of any script. -/
def digit? (c : Char) : Option Nat :=
  let n := c.toNat
  (digitZeros.find? fun first =>
    first ≤ n && n ≤ first + 9).map (n - ·)

/- The value of a hexadecimal digit. -/
def hexDigit? (c : Char) : Option Nat :=
  if '0' ≤ c && c ≤ '9' then
    some (c.toNat - '0'.toNat)
  else if 'a' ≤ c && c ≤ 'f' then
    some (c.toNat - 'a'.toNat + 10)
  else if 'A' ≤ c && c ≤ 'F' then
    some (c.toNat - 'A'.toNat + 10)
  else
    none

end Text

end EventFlow

------------------------------------------------------------
-- Written Integers
------------------------------------------------------------

namespace EventFlow

namespace Text

/-
  Read digits with single underscores between them.  The
  first argument is the value so far, and the second tells
  whether a digit was just read.
-/
def readDigitsFrom
    (value : Nat)
    (afterDigit : Bool) :
    List Char → Option Nat
| [] => if afterDigit then some value else none
| c :: cs =>
    match digit? c with
    | some d => readDigitsFrom (10 * value + d) true cs
    | none =>
        if c = '_' && afterDigit then
          readDigitsFrom value false cs
        else
          none

/- The value of a non-empty run of digits. -/
def readDigits? (cs : List Char) : Option Nat :=
  readDigitsFrom 0 false cs

/- A sign, if one is written, and what follows it. -/
def splitSign : List Char → Bool × List Char
| '-' :: cs => (true, cs)
| '+' :: cs => (false, cs)
| cs => (false, cs)

/- The greatest number of digits of a written integer. -/
def maxDigits : Nat := 4300

/- Read an integer written in decimal digits of any script. -/
def readInteger? (s : String) : Option Int :=
  let (negative, digits) :=
    splitSign (dropEnds isSpace s.toList)
  if maxDigits < digits.countP (· != '_') then
    none
  else
    (readDigits? digits).map fun n =>
      if negative then -(n : Int) else (n : Int)

end Text

end EventFlow
