/-
  White space and trimming.

  A character is blank when it separates words: the five
  ASCII controls from tab to carriage return, the four
  information separators, the space, and the space
  characters of Unicode.  The zero-width space and the byte
  order mark are not blank.

  Key definitions include:
    * `Text.isBlank`
    * `Text.isSpace`
    * `Text.trim`
    * `Text.isBlankText`
-/

------------------------------------------------------------
-- Blank Characters
------------------------------------------------------------

namespace EventFlow

namespace Text

/- Whether a character separates words. -/
def isBlank (c : Char) : Bool :=
  let n := c.toNat
  (0x09 ≤ n && n ≤ 0x0d) ||
    (0x1c ≤ n && n ≤ 0x20) ||
    n == 0x85 ||
    n == 0xa0 ||
    n == 0x1680 ||
    (0x2000 ≤ n && n ≤ 0x200a) ||
    n == 0x2028 ||
    n == 0x2029 ||
    n == 0x202f ||
    n == 0x205f ||
    n == 0x3000

/- A blank that is not one of the information separators. -/
def isSpace (c : Char) : Bool :=
  isBlank c && !(0x1c ≤ c.toNat && c.toNat ≤ 0x1f)

/- Characters without those of a kind at their right end. -/
def dropRight
    (p : Char → Bool)
    (cs : List Char) : List Char :=
  (cs.reverse.dropWhile p).reverse

/- Characters without those of a kind at either end. -/
def dropEnds
    (p : Char → Bool)
    (cs : List Char) : List Char :=
  dropRight p (cs.dropWhile p)

/- Characters without the blanks at either end. -/
def trimChars (cs : List Char) : List Char :=
  dropEnds isBlank cs

/- A text without the blanks at either end. -/
def trim (s : String) : String :=
  String.ofList (trimChars s.toList)

/- A text with nothing but blanks in it. -/
def isBlankText (s : String) : Bool :=
  s.toList.all isBlank

end Text

end EventFlow
