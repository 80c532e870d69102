/-
  Reading bytes as UTF-8.

  `Utf8.decode` reads a list of bytes as text.  A byte that
  starts no character, a byte that does not continue the
  character before it, and an end in the middle of a
  character are three faults.  A fault names the position of
  the first byte of the broken character and how many bytes
  of it are to blame.

  Key definitions include:
    * `Utf8.Reason`
    * `Utf8.Fault`
    * `Utf8.Fault.message`
    * `Utf8.decode`
    * `Utf8.decodeLossy`
-/

------------------------------------------------------------
-- Faults
------------------------------------------------------------

namespace EventFlow

namespace Utf8

/- Why bytes are not UTF-8. -/
inductive Reason where
| invalidStart
| invalidContinuation
| unexpectedEnd
deriving DecidableEq, Repr

namespace Reason

/- The wording of a reason. -/
def message : Reason → String
| .invalidStart => "invalid start byte"
| .invalidContinuation => "invalid continuation byte"
| .unexpectedEnd => "unexpected end of data"

end Reason

/-
  A fault blames `width` bytes from `position` on; `byte` is
  the first of them.
-/
structure Fault where
  position : Nat
  width : Nat
  byte : UInt8
  reason : Reason
deriving DecidableEq, Repr

namespace Fault

/- Two lower-case hexadecimal digits. -/
private def hexByte (b : UInt8) : String :=
  let digits := Nat.toDigits 16 b.toNat
  String.ofList
    (List.replicate (2 - digits.length) '0' ++ digits)

/- The wording of a fault. -/
def message (f : Fault) : String :=
  let place :=
    if f.width = 1 then
      "byte 0x" ++ hexByte f.byte ++
        " in position " ++ toString f.position
    else
      "bytes in position " ++ toString f.position ++
        "-" ++ toString (f.position + f.width - 1)
  "'utf-8' codec can't decode " ++ place ++ ": " ++
    f.reason.message

end Fault

end Utf8

end EventFlow

------------------------------------------------------------
-- Characters
------------------------------------------------------------

namespace EventFlow

namespace Utf8

/- A byte that continues a character. -/
def isContinuation (b : UInt8) : Bool :=
  0x80 ≤ b && b < 0xc0

/- The six bits that a continuation byte carries. -/
def payload (b : UInt8) : Nat :=
  b.toNat % 64

/-
  Whether a second byte may follow a first one.  It must
  continue a character, and the two together must not start
  an overlong form, a surrogate, or a number beyond the last
  character.
-/
def mayFollow
    (first : UInt8)
    (second : UInt8) : Bool :=
  isContinuation second &&
    (if first == 0xe0 then 0xa0 ≤ second
     else if first == 0xed then second < 0xa0
     else if first == 0xf0 then 0x90 ≤ second
     else if first == 0xf4 then second < 0x90
     else true)

/- What one step of reading yields. -/
inductive Read where
| char (c : Char) (width : Nat)
| broken (width : Nat) (reason : Reason)

/- Read a character whose first byte announces two bytes. -/
def readTwo
    (first : UInt8) : List UInt8 → Read
| [] => .broken 1 .unexpectedEnd
| second :: _ =>
    if mayFollow first second then
      .char
        (Char.ofNat
          (first.toNat % 32 * 64 + payload second))
        2
    else
      .broken 1 .invalidContinuation

/- Read a character whose first byte announces three bytes. -/
def readThree
    (first : UInt8) : List UInt8 → Read
| [] => .broken 1 .unexpectedEnd
| second :: rest =>
    if mayFollow first second then
      match rest with
      | [] => .broken 2 .unexpectedEnd
      | third :: _ =>
          if isContinuation third then
            .char
              (Char.ofNat
                (first.toNat % 16 * 4096 +
                  payload second * 64 + payload third))
              3
          else
            .broken 2 .invalidContinuation
    else
      .broken 1 .invalidContinuation

/- Read a character whose first byte announces four bytes. -/
def readFour
    (first : UInt8) : List UInt8 → Read
| [] => .broken 1 .unexpectedEnd
| second :: rest =>
    if mayFollow first second then
      match rest with
      | [] => .broken 2 .unexpectedEnd
      | third :: rest =>
          if isContinuation third then
            match rest with
            | [] => .broken 3 .unexpectedEnd
            | fourth :: _ =>
                if isContinuation fourth then
                  .char
                    (Char.ofNat
                      (first.toNat % 8 * 262144 +
                        payload second * 4096 +
                        payload third * 64 +
                        payload fourth))
                    4
                else
                  .broken 3 .invalidContinuation
          else
            .broken 2 .invalidContinuation
    else
      .broken 1 .invalidContinuation

/- Read one character from its first byte and what follows. -/
def readChar
    (first : UInt8)
    (rest : List UInt8) : Read :=
  if first < 0x80 then
    .char (Char.ofNat first.toNat) 1
  else if first < 0xc2 then
    .broken 1 .invalidStart
  else if first < 0xe0 then
    readTwo first rest
  else if first < 0xf0 then
    readThree first rest
  else if first < 0xf5 then
    readFour first rest
  else
    .broken 1 .invalidStart

end Utf8

end EventFlow

------------------------------------------------------------
-- Texts
------------------------------------------------------------

namespace EventFlow

namespace Utf8

/-
  Read bytes as characters.  `skip` counts the bytes that
  still belong to the character read last, and `position` is
  the place of the first byte of the list.
-/
def decodeFrom
    (position : Nat) :
    (skip : Nat) → List UInt8 → Except Fault (List Char)
| _, [] => .ok []
| skip + 1, _ :: rest =>
    decodeFrom (position + 1) skip rest
| 0, first :: rest =>
    match readChar first rest with
    | .broken width reason =>
        .error
          { position := position
            width := width
            byte := first
            reason := reason }
    | .char c width =>
        (decodeFrom (position + 1) (width - 1) rest).map
          (c :: ·)

/- Read bytes as a text. -/
def decode (bytes : List UInt8) : Except Fault String :=
  (decodeFrom 0 0 bytes).map String.ofList

/- The character that stands for broken bytes. -/
def replacement : Char :=
  '\ufffd'

/-
  Read bytes, with the replacement character for each broken
  part.  `skip` bytes belong to the part before.
-/
def decodeLossyFrom : Nat → List UInt8 → List Char
| _, [] => []
| skip + 1, _ :: rest => decodeLossyFrom skip rest
| 0, first :: rest =>
    match readChar first rest with
    | .broken width _ =>
        replacement :: decodeLossyFrom (width - 1) rest
    | .char c width => c :: decodeLossyFrom (width - 1) rest
termination_by structural _ bytes => bytes

/- Read bytes that may be broken as characters. -/
def decodeLossy (bytes : List UInt8) : List Char :=
  decodeLossyFrom 0 bytes

/- The bytes of a text. -/
def encode (s : String) : List UInt8 :=
  s.toUTF8.toList

end Utf8

end EventFlow
