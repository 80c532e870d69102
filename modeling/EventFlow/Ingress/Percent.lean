import EventFlow.Text.Digit
import EventFlow.Text.Utf8

/-
  Percent signs in targets.

  A percent sign with two hexadecimal digits stands for a
  byte.  A character that must not stand in a part of a
  target is sent as its bytes, each with a percent sign.

  Key definitions include:
    * `Ingress.percentDecode`
    * `Ingress.sentLength`
-/

------------------------------------------------------------
-- Decoding
------------------------------------------------------------

namespace EventFlow

namespace Ingress

/-
  The bytes that characters stand for: a percent sign and two
  hexadecimal digits for one byte, and any other character
  for its own bytes.
-/
def percentBytes : List Char → List UInt8
| [] => []
| ['%'] => Utf8.encode "%"
| ['%', a] => Utf8.encode (String.ofList ['%', a])
| '%' :: a :: b :: cs =>
    match Text.hexDigit? a, Text.hexDigit? b with
    | some m, some n =>
        UInt8.ofNat (16 * m + n) :: percentBytes cs
    | _, _ => Utf8.encode "%" ++ percentBytes (a :: b :: cs)
| c :: cs =>
    Utf8.encode (String.singleton c) ++ percentBytes cs
termination_by structural cs => cs

/- The characters that percent signs write. -/
def percentDecode (cs : List Char) : List Char :=
  Utf8.decodeLossy (percentBytes cs)

end Ingress

end EventFlow

------------------------------------------------------------
-- Sending
------------------------------------------------------------

namespace EventFlow

namespace Ingress

/- ASCII characters that are never sent as they are. -/
def queryQuoted : List Char :=
  [' ', '"', '#', '<', '>']

/- ASCII characters that no path is sent with. -/
def pathQuoted : List Char :=
  queryQuoted ++ ['?', '`', '\x7b', '\x7d']

/- How many characters a character is sent as. -/
def sentWidth (quoted : List Char) (c : Char) : Nat :=
  if c.toNat < 0x80 && !quoted.contains c then
    1
  else
    3 * c.utf8Size

/- How many characters a part of a target is sent as. -/
def sentLength (quoted cs : List Char) : Nat :=
  cs.foldl (fun n c => n + sentWidth quoted c) 0

end Ingress

end EventFlow
