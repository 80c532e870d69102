import EventFlow.CommandLine.Grammar
import EventFlow.Text.Digit
import EventFlow.Text.Quoted

/-
  The words of a command line.

  A word that begins with a dash mentions a named argument:
  by its name, by a beginning of its name that no other name
  shares, or by its letter with more behind it.  A value may
  be attached by an equals sign.  A word of two dashes ends
  the mentions.  A negative number, a word with a space in
  it and a single dash mention nothing.

  Key definitions include:
    * `CommandLine.Fault`
    * `CommandLine.Word`
    * `CommandLine.Grammar.wordOf`
    * `CommandLine.Grammar.wordsOf`
-/

------------------------------------------------------------
-- Faults
------------------------------------------------------------

namespace EventFlow

namespace CommandLine

/- What can be wrong with a command line. -/
inductive Fault where
| ambiguous (word : String) (names : List String)
| valueMissing (argument : String)
| valueIgnored (argument : String) (value : String)
| valueRefused (argument : String) (reason : String)
| choiceUnknown
    (key : String) (word : String) (choices : List String)
| required (key : String)
| unrecognized (words : List String)
deriving DecidableEq, Repr

namespace Fault

/- The wording of a fault of an argument. -/
def ofArgument (argument reason : String) : String :=
  "argument " ++ argument ++ ": " ++ reason

/- The wording of a fault. -/
def message : Fault → String
| .ambiguous word names =>
    "ambiguous option: " ++ word ++ " could match " ++
      ", ".intercalate names
| .valueMissing argument =>
    ofArgument argument "expected one argument"
| .valueIgnored argument value =>
    ofArgument argument
      ("ignored explicit argument " ++ Text.quoted value)
| .valueRefused argument reason => ofArgument argument reason
| .choiceUnknown key word choices =>
    ofArgument key
      ("invalid choice: " ++ Text.quoted word ++
        " (choose from " ++
        ", ".intercalate (choices.map Text.quoted) ++ ")")
| .required key =>
    "the following arguments are required: " ++ key
| .unrecognized words =>
    "unrecognized arguments: " ++ " ".intercalate words

end Fault

end CommandLine

end EventFlow

------------------------------------------------------------
-- Words
------------------------------------------------------------

namespace EventFlow

namespace CommandLine

/-
  A mention of a named argument, with the characters that
  are attached to its name.
-/
structure Mention where
  name : String
  argument : Named
  attached? : Option (List Char) := none

/- A word of a command line, by what it can stand for. -/
inductive Word where
| plain (text : String)
| separator
| mention (text : String) (m : Mention)
| unknown (text : String)

/- The word that ends the mentions of named arguments. -/
def separatorText : String :=
  "--"

namespace Word

/- A word as it was written. -/
def text : Word → String
| .plain text => text
| .separator => separatorText
| .mention text _ => text
| .unknown text => text

end Word

/-
  Whether characters write a negative number: a dash, and
  digits with at most one point that has digits behind it.
  A line feed may follow.
-/
def isNegativeNumber (cs : List Char) : Bool :=
  let isDigit (c : Char) : Bool := (Text.digit? c).isSome
  let cs :=
    if cs.getLast? = some '\n' then cs.dropLast else cs
  match cs with
  | '-' :: cs =>
      match cs.dropWhile isDigit with
      | [] => !cs.isEmpty
      | '.' :: rest => !rest.isEmpty && rest.all isDigit
      | _ => false
  | _ => false

/-
  The characters in front of the first equals sign, and what
  an equals sign attaches to them.
-/
def splitMark
    (cs : List Char) : List Char × Option (List Char) :=
  match cs.span (· != '=') with
  | (name, _ :: value) => (name, some value)
  | (name, []) => (name, none)

end CommandLine

end EventFlow

------------------------------------------------------------
-- Reading Words
------------------------------------------------------------

namespace EventFlow

namespace CommandLine

namespace Grammar

/- The mentions of names that begin with given characters. -/
def beginning
    (g : Grammar)
    (start : List Char)
    (attached? : Option (List Char)) : List Mention :=
  (g.names.filter fun (name, _) =>
    start.isPrefixOf name.toList).map fun (name, argument) =>
      { name := name
        argument := argument
        attached? := attached? }

/-
  The mentions that a word of a dash and a letter with more
  behind it can stand for.
-/
def lettered
    (g : Grammar)
    (letter : Char)
    (rest : List Char) : List Mention :=
  g.names.filterMap fun (name, argument) =>
    if name.toList = ['-', letter] then
      some
        { name := name
          argument := argument
          attached? := some rest }
    else if ('-' :: letter :: rest).isPrefixOf name.toList then
      some { name := name, argument := argument }
    else
      none

/- The mentions that a word can stand for, if not exactly. -/
def candidates
    (g : Grammar) : List Char → List Mention
| '-' :: '-' :: cs =>
    let (start, attached?) := splitMark ('-' :: '-' :: cs)
    g.beginning start attached?
| '-' :: letter :: rest => g.lettered letter rest
| _ => []

/- The mention of a word that is a name, or names a value. -/
def exactly?
    (g : Grammar)
    (text : String) : Option Mention :=
  match g.named? text with
  | some argument => some { name := text, argument := argument }
  | none =>
      let (start, attached?) := splitMark text.toList
      let name := String.ofList start
      match attached?, g.named? name with
      | some attached, some argument =>
          some
            { name := name
              argument := argument
              attached? := some attached }
      | _, _ => none

/- A word that begins with a dash and has more behind it. -/
def dashed
    (g : Grammar)
    (text : String) : Except Fault Word :=
  match g.exactly? text with
  | some m => .ok (.mention text m)
  | none =>
      match g.candidates text.toList with
      | [m] => .ok (.mention text m)
      | [] =>
          if isNegativeNumber text.toList ||
              text.toList.contains ' ' then
            .ok (.plain text)
          else
            .ok (.unknown text)
      | ms => .error (.ambiguous text (ms.map Mention.name))

/- Read a word. -/
def wordOf
    (g : Grammar)
    (text : String) : Except Fault Word :=
  match text.toList with
  | '-' :: _ :: _ => g.dashed text
  | _ => .ok (.plain text)

/- Read words in order, up to the end of the mentions. -/
def wordsOf
    (g : Grammar) : List String → Except Fault (List Word)
| [] => .ok []
| text :: texts =>
    if text = separatorText then
      .ok (.separator :: texts.map .plain)
    else
      match g.wordOf text with
      | .error fault => .error fault
      | .ok word => (g.wordsOf texts).map (word :: ·)

end Grammar

end CommandLine

end EventFlow
