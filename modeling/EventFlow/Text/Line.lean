/-
  Lines of texts, and the mark in front of a text.

  A line may end with a carriage return, a line feed, or the
  two together; `Text.unifyLines` turns every one of these
  ends into a line feed.  The byte order mark may stand in
  front of an encoded text and is then no part of it.

  Key definitions include:
    * `Text.unifyLines`
    * `Text.byteOrderMark`
    * `Text.withoutMark`
-/

------------------------------------------------------------
-- Line Ends
------------------------------------------------------------

namespace EventFlow

namespace Text

/- Every kind of line end as a line feed. -/
def unifyLines : List Char → List Char
| '\r' :: '\n' :: cs => '\n' :: unifyLines cs
| '\r' :: cs => '\n' :: unifyLines cs
| c :: cs => c :: unifyLines cs
| [] => []

/- The mark that may stand in front of encoded text. -/
def byteOrderMark : Char :=
  '\ufeff'

/- Characters without one byte order mark in front. -/
def withoutMark : List Char → List Char
| c :: cs => if c = byteOrderMark then cs else c :: cs
| [] => []

end Text

end EventFlow
