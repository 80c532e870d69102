import EventFlow.Entries
import EventFlow.Text.Blank
import EventFlow.Text.Line

/-
  Files of assignments.

  A file of assignments gives values to names, one on a
  line.  A value may stand in single or in double quotes and
  then run over several lines; an unquoted value ends at the
  end of the line, or at a number sign behind a blank.  A
  line that cannot be read is skipped.  One byte order mark
  in front of the file does not count.

  The readers work on the characters that are left.  A
  reader that cannot read yields where it stopped, and the
  rest of that line is skipped.

  Key definitions include:
    * `Assignments.Binding`
    * `Assignments.readQuoted?`
    * `Assignments.readBinding`
    * `Assignments.read`
-/

------------------------------------------------------------
-- Blanks and Line Ends
------------------------------------------------------------

namespace EventFlow

namespace Assignments

/- A name, and its value if an equals sign stands behind it. -/
structure Binding where
  name : String
  value? : Option String
deriving DecidableEq, Repr

/- Whether a character ends a line. -/
def isLineEnd (c : Char) : Bool :=
  c == '\n' || c == '\r'

/- Whether a character is a blank within a line. -/
def isGap (c : Char) : Bool :=
  Text.isBlank c && !isLineEnd c

/- The characters behind the end of the current line. -/
def skipLine (cs : List Char) : List Char :=
  (cs.dropWhile (!isLineEnd ·)).drop 1

/- The characters behind a word and blanks, if they come. -/
def skipWord
    (word : List Char)
    (cs : List Char) : List Char :=
  if word.isPrefixOf cs then
    match cs.drop word.length with
    | c :: rest =>
        if isGap c then rest.dropWhile isGap else cs
    | [] => cs
  else
    cs

/- What a reader yields, or what was left when it stopped. -/
abbrev Reading (α : Type) :=
  Except (List Char) (α × List Char)

end Assignments

end EventFlow

------------------------------------------------------------
-- Quoted Texts
------------------------------------------------------------

namespace EventFlow

namespace Assignments

/-
  The characters up to the closing quote.  A backslash takes
  the character behind it along, which so closes nothing.
-/
def readQuoted?
    (quote : Char) :
    List Char → Option (List Char × List Char)
| [] => none
| '\\' :: c :: cs =>
    (readQuoted? quote cs).map fun (body, rest) =>
      ('\\' :: c :: body, rest)
| c :: cs =>
    if c = quote then
      some ([], cs)
    else
      (readQuoted? quote cs).map fun (body, rest) =>
        (c :: body, rest)

/- The characters that a backslash stands before. -/
def doubleEscapes : List (Char × Char) := [
  ('\\', '\\'),
  ('\x27', '\x27'),
  ('"', '"'),
  ('a', '\x07'),
  ('b', '\x08'),
  ('f', '\x0c'),
  ('n', '\n'),
  ('r', '\r'),
  ('t', '\t'),
  ('v', '\x0b')
]

/- The escapes between single quotes. -/
def singleEscapes : List (Char × Char) := [
  ('\\', '\\'),
  ('\x27', '\x27')
]

/- Characters with their escapes resolved. -/
def unescape
    (escapes : List (Char × Char)) :
    List Char → List Char
| '\\' :: c :: cs =>
    match escapes.lookup c with
    | some d => d :: unescape escapes cs
    | none => '\\' :: unescape escapes (c :: cs)
| c :: cs => c :: unescape escapes cs
| [] => []

end Assignments

end EventFlow

------------------------------------------------------------
-- Names and Values
------------------------------------------------------------

namespace EventFlow

namespace Assignments

/- Whether a character can stand in an unquoted name. -/
def isNameChar (c : Char) : Bool :=
  c != '=' && c != '#' && !Text.isBlank c

/-
  A name; a number sign stands in place of none.  A quoted
  name ends at the next quote and has no escapes.
-/
def readName (cs : List Char) : Reading (Option String) :=
  match cs with
  | '#' :: _ => .ok (none, cs)
  | '\x27' :: rest =>
      match rest.span (· != '\x27') with
      | ([], _) => .error cs
      | (_, []) => .error cs
      | (name, _ :: rest) =>
          .ok (some (String.ofList name), rest)
  | cs =>
      match cs.span isNameChar with
      | ([], _) => .error cs
      | (name, rest) => .ok (some (String.ofList name), rest)

/-
  The characters in front of blanks and a number sign.  The
  last argument collects blanks that may stand before one.
-/
def dropComment
    (blanks : List Char) : List Char → List Char
| [] => blanks.reverse
| c :: cs =>
    if Text.isBlank c then
      dropComment (c :: blanks) cs
    else if c = '#' && !blanks.isEmpty then
      []
    else
      blanks.reverse ++ c :: dropComment [] cs

/- An unquoted value. -/
def readPlain (cs : List Char) : String × List Char :=
  let (line, rest) := cs.span (!isLineEnd ·)
  (String.ofList (Text.trimChars (dropComment [] line)), rest)

/- A value, quoted or not, with blanks in front of it. -/
def readValue (cs : List Char) : Reading String :=
  let start := cs.dropWhile isGap
  let quoted (quote : Char) (escapes : List (Char × Char))
      (rest : List Char) : Reading String :=
    match readQuoted? quote rest with
    | some (body, rest) =>
        .ok (String.ofList (unescape escapes body), rest)
    | none => .error start
  match start with
  | '\x27' :: rest => quoted '\x27' singleEscapes rest
  | '"' :: rest => quoted '"' doubleEscapes rest
  | _ => .ok (readPlain cs)

/- A value, if an equals sign comes. -/
def readAssigned
    (cs : List Char) : Reading (Option String) :=
  match cs.dropWhile isGap with
  | '=' :: rest =>
      (readValue rest).map
        fun (value, rest) => (some value, rest)
  | rest => .ok (none, rest)

/- The rest of a line, which may hold a comment only. -/
def readLineEnd (cs : List Char) : Reading Unit :=
  let bare :=
    match cs.dropWhile isGap with
    | '#' :: rest => rest.dropWhile (!isLineEnd ·)
    | rest => rest
  match bare with
  | [] => .ok ((), [])
  | c :: rest =>
      if isLineEnd c then .ok ((), rest) else .error bare

end Assignments

end EventFlow

------------------------------------------------------------
-- Bindings
------------------------------------------------------------

namespace EventFlow

namespace Assignments

/- One line, from its first character that is no blank. -/
def readLine (cs : List Char) : Reading (Option Binding) :=
  match readName (skipWord "export".toList cs) with
  | .error left => .error left
  | .ok (name?, rest) =>
      match readAssigned rest with
      | .error left => .error left
      | .ok (value?, rest) =>
          (readLineEnd rest).map fun ((), rest) =>
            (name?.map fun name => ⟨name, value?⟩, rest)

/- One line, or nothing for a line that cannot be read. -/
def readBinding
    (cs : List Char) : Option Binding × List Char :=
  match readLine cs with
  | .ok read => read
  | .error left => (none, skipLine left)

/- All bindings of at most a number of lines. -/
def readBindings :
    Nat → List Char → List Binding
| 0, _ => []
| lines + 1, cs =>
    match cs.dropWhile Text.isBlank with
    | [] => []
    | cs =>
        let (binding?, rest) := readBinding cs
        binding?.toList ++ readBindings lines rest

/- All bindings of a file of assignments. -/
def read (s : String) : List Binding :=
  let cs := Text.withoutMark s.toList
  readBindings cs.length cs

end Assignments

end EventFlow
