import EventFlow.Text.Printable

/-
  Quoted texts.

  A quoted text stands between single quotes, or between
  double quotes when it holds a single quote and no double
  quote.  The backslash, the chosen quote, the line feed,
  the carriage return and the tab are escaped by a
  backslash; a character without a visible form is written
  by its number, with two, four or eight hexadecimal digits.

  Key definitions include:
    * `Text.hexText`
    * `Text.quoted`
    * `Text.quotedAscii`
-/

------------------------------------------------------------
-- Hexadecimal Numbers
------------------------------------------------------------

namespace EventFlow

namespace Text

/- Lower-case hexadecimal digits, with zeros up to a width. -/
def hexText
    (width : Nat)
    (n : Nat) : List Char :=
  let digits := Nat.toDigits 16 n
  List.replicate (width - digits.length) '0' ++ digits

end Text

end EventFlow

------------------------------------------------------------
-- Quoting
------------------------------------------------------------

namespace EventFlow

namespace Text

/- A character written by its number. -/
def numbered (c : Char) : List Char :=
  let n := c.toNat
  if n < 0x100 then
    '\\' :: 'x' :: hexText 2 n
  else if n < 0x10000 then
    '\\' :: 'u' :: hexText 4 n
  else
    '\\' :: 'U' :: hexText 8 n

/-
  The quoted form of one character.  `shown` tells which
  characters stand for themselves.
-/
def quotedChar
    (shown : Char → Bool)
    (quote : Char)
    (c : Char) : List Char :=
  if c = '\\' || c = quote then
    ['\\', c]
  else if c = '\n' then
    ['\\', 'n']
  else if c = '\r' then
    ['\\', 'r']
  else if c = '\t' then
    ['\\', 't']
  else if shown c then
    [c]
  else
    numbered c

/- The quote that a text is put between. -/
def quoteFor (cs : List Char) : Char :=
  if cs.contains '\'' && !cs.contains '"' then
    '"'
  else
    '\''

/- The quoted form of the characters of a text. -/
def quotedChars
    (shown : Char → Bool)
    (cs : List Char) : List Char :=
  let quote := quoteFor cs
  quote :: (cs.flatMap (quotedChar shown quote) ++ [quote])

/- A text in quotes. -/
def quoted (s : String) : String :=
  String.ofList (quotedChars isPrintable s.toList)

/- A text in quotes, written with ASCII characters only. -/
def quotedAscii (s : String) : String :=
  String.ofList <|
    quotedChars
      (fun c => isPrintable c && c.toNat < 0x80)
      s.toList

end Text

end EventFlow
