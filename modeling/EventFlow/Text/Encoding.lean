import EventFlow.Text.Line
import EventFlow.Text.Utf8

/-
  The encodings of a JSON text.

  A JSON text begins with two ASCII characters, or is one
  alone.  So the zeros among the first four bytes tell how
  wide the units of the text are, and in which order their
  bytes come.

  Key definitions include:
    * `Text.Encoding`
    * `Text.Encoding.ofStart`
    * `Text.Encoding.decode?`
    * `Text.decodeJson?`
-/

------------------------------------------------------------
-- Encodings
------------------------------------------------------------

namespace EventFlow

namespace Text

/- Which byte of a unit comes first. -/
inductive ByteOrder where
| big
| little
deriving DecidableEq, Repr

/- How characters are written as bytes. -/
inductive Encoding where
| utf8
| utf16 (order : ByteOrder)
| utf32 (order : ByteOrder)
deriving DecidableEq, Repr

namespace Encoding

/- The encoding that the first bytes of a JSON text tell. -/
def ofStart : List UInt8 → Encoding
| [0, _] => .utf16 .big
| [_, 0] => .utf16 .little
| 0 :: 0 :: _ :: _ :: _ => .utf32 .big
| 0 :: _ :: _ :: _ :: _ => .utf16 .big
| _ :: 0 :: 0 :: 0 :: _ => .utf32 .little
| _ :: 0 :: _ :: _ :: _ => .utf16 .little
| _ => .utf8

end Encoding

end Text

end EventFlow

------------------------------------------------------------
-- Units
------------------------------------------------------------

namespace EventFlow

namespace Text

/- The number that two bytes write. -/
def ByteOrder.pair
    (order : ByteOrder)
    (a b : UInt8) : Nat :=
  match order with
  | .big => a.toNat * 256 + b.toNat
  | .little => b.toNat * 256 + a.toNat

/- The number that four bytes write. -/
def ByteOrder.quad
    (order : ByteOrder)
    (a b c d : UInt8) : Nat :=
  match order with
  | .big => order.pair a b * 65536 + order.pair c d
  | .little => order.pair c d * 65536 + order.pair a b

/- The units of two bytes, if no byte is left over. -/
def pairs?
    (order : ByteOrder) : List UInt8 → Option (List Nat)
| [] => some []
| [_] => none
| a :: b :: rest =>
    (pairs? order rest).map (order.pair a b :: ·)

/- The units of four bytes, if no byte is left over. -/
def quads?
    (order : ByteOrder) : List UInt8 → Option (List Nat)
| [] => some []
| a :: b :: c :: d :: rest =>
    (quads? order rest).map (order.quad a b c d :: ·)
| _ => none

/- The first half of a surrogate pair. -/
def isHighSurrogate (n : Nat) : Bool :=
  0xd800 ≤ n && n ≤ 0xdbff

/- The second half of a surrogate pair. -/
def isLowSurrogate (n : Nat) : Bool :=
  0xdc00 ≤ n && n ≤ 0xdfff

/-
  The character of a number.  Half of a surrogate pair has
  none.
-/
def charOf? (n : Nat) : Option Char :=
  if isHighSurrogate n || isLowSurrogate n then
    none
  else
    some (Char.ofNat n)

/- The character of a surrogate pair. -/
def joined (high low : Nat) : Char :=
  Char.ofNat
    (0x10000 + (high - 0xd800) * 0x400 + (low - 0xdc00))

/- The characters of units of two bytes, if all have one. -/
def charsOfPairs? : List Nat → Option (List Char)
| [] => some []
| [n] => (charOf? n).map ([·])
| n :: m :: rest =>
    if isHighSurrogate n && isLowSurrogate m then
      (charsOfPairs? rest).map (joined n m :: ·)
    else
      match charOf? n with
      | some c => (charsOfPairs? (m :: rest)).map (c :: ·)
      | none => none

/- The number after the one of the last character. -/
def charLimit : Nat := 0x110000

/- The characters of units of four bytes, if all have one. -/
def charsOfQuads? (units : List Nat) : Option (List Char) :=
  if units.all (· < charLimit) then
    units.mapM charOf?
  else
    none

end Text

end EventFlow

------------------------------------------------------------
-- Decoding
------------------------------------------------------------

namespace EventFlow

namespace Text

/- The characters that bytes write in an encoding. -/
def Encoding.decode?
    (bytes : List UInt8) : Encoding → Option (List Char)
| .utf8 => (Utf8.decode bytes).toOption.map String.toList
| .utf16 order => (pairs? order bytes).bind charsOfPairs?
| .utf32 order => (quads? order bytes).bind charsOfQuads?

/-
  The characters of an encoded JSON text, without a byte
  order mark in front.
-/
def decodeJson? (bytes : List UInt8) : Option (List Char) :=
  match Encoding.ofStart bytes with
  | .utf8 => (Encoding.utf8.decode? bytes).map withoutMark
  | encoding => encoding.decode? bytes

end Text

end EventFlow
