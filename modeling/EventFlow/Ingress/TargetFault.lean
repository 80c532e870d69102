import EventFlow.Ingress.Target

/-
  Faults of targets.

  A target may be too long, have control characters in it,
  or name a host or a port that cannot be.  A mere path must
  not start with two slashes or a colon.  An absolute target
  is only asked by the schemes of the ingress, and not at an
  address with colons.

  Key definitions include:
    * `Ingress.TargetFault`
    * `Ingress.TargetFault.message`
    * `Ingress.Target.fault?`
    * `Ingress.writingFault?`
-/

------------------------------------------------------------
-- Faults
------------------------------------------------------------

namespace EventFlow

namespace Ingress

/- What can be wrong with a target. -/
inductive TargetFault where
| tooLong
| unprintable (c : Char) (position : Nat)
| partTooLong (part : String)
| dotAddress (host : List Char)
| colonAddress (host : List Char)
| port (written : List Char)
| doubledSlash
| leadingColon
| schemeUnserved (scheme : List Char)
| addressUnserved (portLike : List Char)
| ledTooOften
deriving DecidableEq, Repr

/- Characters in quotes. -/
def quotedChars (cs : List Char) : String :=
  Text.quoted (String.ofList cs)

/- The wording of a fault of a target. -/
def TargetFault.message : TargetFault → String
| .tooLong => "URL too long"
| .unprintable c position =>
    "Invalid non-printable ASCII character in URL, " ++
      quotedChars [c] ++ " at position " ++
      toString position ++ "."
| .partTooLong part =>
    "URL component '" ++ part ++ "' too long"
| .dotAddress host =>
    "Invalid IPv4 address: " ++ quotedChars host
| .colonAddress host =>
    "Invalid IPv6 address: " ++ quotedChars host
| .port written => "Invalid port: " ++ quotedChars written
| .doubledSlash =>
    "Relative URLs cannot have a path starting with '//'"
| .leadingColon =>
    "Relative URLs cannot have a path starting with ':'"
| .schemeUnserved scheme => quotedChars scheme
| .addressUnserved portLike =>
    "invalid literal for int() with base 10: " ++
      quotedChars portLike
| .ledTooOften => "Exceeded maximum allowed redirects."

/- The greatest length of a target and of its parts. -/
def maxTarget : Nat := 65536

end Ingress

end EventFlow

------------------------------------------------------------
-- Written Targets
------------------------------------------------------------

namespace EventFlow

namespace Ingress

/- Whether a character is an ASCII control character. -/
def isControl (c : Char) : Bool :=
  c.toNat < 0x20 || c.toNat = 0x7f

/- What is wrong with the characters of a target. -/
def writingFault? (cs : List Char) : Option TargetFault :=
  let printable := cs.takeWhile (!isControl ·)
  if maxTarget < cs.length then
    some .tooLong
  else
    (cs.drop printable.length).head?.map
      (.unprintable · printable.length)

namespace Target

/- What is wrong with the host of a target. -/
def hostFault? (t : Target) : Option TargetFault :=
  if isNumbered t.host then
    if isDotAddress t.host then
      none
    else
      some (.dotAddress t.host)
  else if isBracketed t.host then
    if isColonAddress (inBrackets t.host) then
      none
    else
      some (.colonAddress t.host)
  else
    none

/- The number of the port of a target. -/
def portNumber? (t : Target) : Option Int :=
  Text.readInteger? (String.ofList t.port)

/- What is wrong with the port of a target. -/
def portFault? (t : Target) : Option TargetFault :=
  if t.port.isEmpty || t.portNumber?.isSome then
    none
  else
    some (.port t.port)

/- What is wrong with a mere path. -/
def pathFault? (t : Target) : Option TargetFault :=
  if !t.isMere then
    none
  else
    match t.writtenPath with
    | '/' :: '/' :: _ => some .doubledSlash
    | ':' :: _ => some .leadingColon
    | _ => none

/- What is wrong with the parts that are sent. -/
def lengthFault? (t : Target) : Option TargetFault :=
  if t.isAbsolute then
    none
  else if maxTarget < sentLength pathQuoted t.askedPath then
    some (.partTooLong "path")
  else if maxTarget < sentLength queryQuoted t.query then
    some (.partTooLong "query")
  else
    none

/- The first fault of the parts of a target. -/
def fault? (t : Target) : Option TargetFault :=
  t.hostFault? <|> t.portFault? <|> t.pathFault? <|>
    t.lengthFault?

end Target

end Ingress

end EventFlow

------------------------------------------------------------
-- Served Targets
------------------------------------------------------------

namespace EventFlow

namespace Ingress

/- The schemes that are served, with their usual ports. -/
def schemes : List (String × Int) := [
  ("http", 80),
  ("https", 443)
]

namespace Target

/- The scheme of a target in small letters. -/
def schemeName (t : Target) : String :=
  (String.ofList t.scheme).toLower

/- The port of a target, as written behind its host. -/
def portSuffix (t : Target) : String :=
  match t.portNumber? with
  | none => ""
  | some port =>
      if schemes.lookup (String.ofList t.scheme) = some port then
        ""
      else
        ":" ++ toString port

/- What follows the first colon of an address with colons. -/
def portLike (t : Target) : List Char :=
  (t.host.dropWhile (· != ':')).drop 1 ++
    t.portSuffix.toList

/- Why an absolute target is not served. -/
def serviceFault? (t : Target) : Option TargetFault :=
  if !t.isAbsolute then
    none
  else if (schemes.lookup t.schemeName).isNone then
    some (.schemeUnserved t.schemeName.toList)
  else if isBracketed t.host then
    some (.addressUnserved t.portLike)
  else
    none

end Target

end Ingress

end EventFlow
