import EventFlow.Number.Shortest
import EventFlow.Text.Quoted
import EventFlow.Value.Basic

/-
  Writing JSON.

  `Json.render` writes a value in one line and
  `Json.renderIndented` over several lines with an
  indentation of two.  Characters beyond ASCII stay as they
  are; the double quote, the backslash and the control
  characters below the space are escaped, so a written text
  has no line break of its own.

  Key definitions include:
    * `Json.quotedChars`
    * `Json.Layout`
    * `Json.renderChars`
    * `Json.render`
    * `Json.renderIndented`
-/

------------------------------------------------------------
-- Texts and Numbers
------------------------------------------------------------

namespace EventFlow

namespace Json

/- One character of a written text. -/
def quotedChar (c : Char) : List Char :=
  if c = '"' || c = '\\' then
    ['\\', c]
  else if c = '\n' then
    ['\\', 'n']
  else if c = '\r' then
    ['\\', 'r']
  else if c = '\t' then
    ['\\', 't']
  else if c = '\x08' then
    ['\\', 'b']
  else if c = '\x0c' then
    ['\\', 'f']
  else if c.toNat < 0x20 then
    '\\' :: 'u' :: Text.hexText 4 c.toNat
  else
    [c]

/- A text between double quotes. -/
def quotedChars (cs : List Char) : List Char :=
  '"' :: (cs.flatMap quotedChar ++ ['"'])

/- A floating-point number. -/
def doubleChars : Double → List Char
| .nan => "NaN".toList
| .infinite negative =>
    (if negative then ['-'] else []) ++ "Infinity".toList
| x => x.chars

end Json

end EventFlow

------------------------------------------------------------
-- Layouts
------------------------------------------------------------

namespace EventFlow

namespace Json

/-
  What is written between the parts of a value: the text
  between two members, and the text in front of a member or
  a closing bracket at a given depth.
-/
structure Layout where
  comma : List Char
  gap : Nat → List Char

/- Everything in one line. -/
def inLine : Layout :=
  { comma := [',', ' ']
    gap := fun _ => [] }

/- Every member on a line of its own. -/
def overLines : Layout :=
  { comma := [',']
    gap := fun depth =>
      '\n' :: List.replicate (2 * depth) ' ' }

end Json

end EventFlow

------------------------------------------------------------
-- Values
------------------------------------------------------------

namespace EventFlow

namespace Json

mutual

/- The characters of a value at a given depth. -/
def renderChars
    (l : Layout)
    (depth : Nat) : Value → List Char
| .null => "null".toList
| .bool true => "true".toList
| .bool false => "false".toList
| .int n => (toString n).toList
| .float x => doubleChars x
| .str s => quotedChars s.toList
| .list [] => ['[', ']']
| .list (v :: vs) =>
    '[' ::
      (l.gap (depth + 1) ++
        renderChars l (depth + 1) v ++
        renderItems l (depth + 1) vs ++
        l.gap depth ++ [']'])
| .object [] => ['\x7b', '\x7d']
| .object ((k, v) :: fs) =>
    '\x7b' ::
      (l.gap (depth + 1) ++
        quotedChars k.toList ++ [':', ' '] ++
        renderChars l (depth + 1) v ++
        renderFields l (depth + 1) fs ++
        l.gap depth ++ ['\x7d'])
termination_by structural v => v

/- The items behind the first item of a list. -/
def renderItems
    (l : Layout)
    (depth : Nat) : List Value → List Char
| [] => []
| v :: vs =>
    l.comma ++ l.gap depth ++ renderChars l depth v ++
      renderItems l depth vs
termination_by structural vs => vs

/- The fields behind the first field of an object. -/
def renderFields
    (l : Layout)
    (depth : Nat) : List (String × Value) → List Char
| [] => []
| (k, v) :: fs =>
    l.comma ++ l.gap depth ++
      quotedChars k.toList ++ [':', ' '] ++
      renderChars l depth v ++
      renderFields l depth fs
termination_by structural fs => fs

end

/- A value in one line. -/
def render (v : Value) : String :=
  String.ofList (renderChars inLine 0 v)

/- A value over several lines. -/
def renderIndented (v : Value) : String :=
  String.ofList (renderChars overLines 0 v)

end Json

end EventFlow
