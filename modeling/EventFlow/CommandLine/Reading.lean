import EventFlow.CommandLine.Word

/-
  Reading command lines by a grammar.

  The words are read from left to right.  A mention takes
  its value from what is attached to it or from the plain
  word behind it, and the last value of an argument counts.
  The first plain word is the operand; a word that no
  argument takes is left over.  The first fault ends the
  reading.

  Key definitions include:
    * `CommandLine.Stop`
    * `CommandLine.Reading`
    * `CommandLine.Grammar.walk`
    * `CommandLine.Grammar.read`
-/

------------------------------------------------------------
-- Readings
------------------------------------------------------------

namespace EventFlow

namespace CommandLine

/- Why the reading of a command line ends the program. -/
inductive Stop where
| help (grammar : Grammar)
| version
| refused (grammar : Grammar) (fault : Fault)
| failed (failure : Failure)

/-
  What was read from a command line: the values of its
  arguments, the words that a command takes, and the words
  that are left over.
-/
structure Reading where
  values : List (String × Value) := []
  command : List String := []
  extras : List String := []

namespace Reading

/- A reading with the value of an argument. -/
def give
    (r : Reading)
    (key : String)
    (value : Value) : Reading :=
  { r with values := Entries.put key value r.values }

/- A reading with a word that is left over. -/
def leave
    (r : Reading)
    (text : String) : Reading :=
  { r with extras := r.extras ++ [text] }

/- The value of an argument, or the empty value. -/
def value
    (r : Reading)
    (key : String) : Value :=
  (r.values.lookup key).getD .null

/- The text that was given for an argument, if any. -/
def text?
    (r : Reading)
    (key : String) : Option String :=
  match r.value key with
  | .str s => some s
  | _ => none

end Reading

end CommandLine

end EventFlow

------------------------------------------------------------
-- Attached Letters
------------------------------------------------------------

namespace EventFlow

namespace CommandLine

namespace Grammar

/-
  What is wrong with the characters attached to an argument
  that takes no value.  Each of them must be the letter of
  an argument.
-/
def attachmentFault?
    (g : Grammar)
    (argument : Named) : List Char → Option Fault
| [] => none
| c :: rest =>
    match g.named? (String.ofList ['-', c]) with
    | some next => g.attachmentFault? next rest
    | none =>
        some
          (.valueIgnored argument.title
            (String.ofList (c :: rest)))

/- What is wrong with a mention that takes no value. -/
def mentionFault?
    (g : Grammar)
    (m : Mention) : Option Fault :=
  match m.attached? with
  | none => none
  | some attached =>
      if attached.isEmpty || m.name.length ≠ 2 then
        some
          (.valueIgnored m.argument.title
            (String.ofList attached))
      else
        g.attachmentFault? m.argument attached

end Grammar

end CommandLine

end EventFlow

------------------------------------------------------------
-- Walking Through Words
------------------------------------------------------------

namespace EventFlow

namespace CommandLine

namespace Grammar

/- Stop with a fault. -/
def refuse
    {α : Type}
    (g : Grammar)
    (fault : Fault) : Except Stop α :=
  .error (.refused g fault)

/- Stop where a mention takes no value. -/
def stopAt
    {α : Type}
    (g : Grammar)
    (m : Mention)
    (stop : Stop) : Except Stop α :=
  match g.mentionFault? m with
  | some fault => g.refuse fault
  | none => .error stop

/- Give an argument the value that a word is read as. -/
def giveWord
    (g : Grammar)
    (argument : Named)
    (key : String)
    (read : ValueReader)
    (text : String)
    (found : Reading) : Except Stop Reading :=
  match read text with
  | .ok value => .ok (found.give key value)
  | .error (.reason reason) =>
      g.refuse (.valueRefused argument.title reason)
  | .error (.failure failure) => .error (.failed failure)

/-
  Give an argument the value that is attached to it.  Two
  dashes stand for no word at all, which gives an empty
  list.
-/
def giveAttached
    (g : Grammar)
    (argument : Named)
    (key : String)
    (read : ValueReader)
    (text : String)
    (found : Reading) : Except Stop Reading :=
  if text = separatorText then
    .ok (found.give key (.list []))
  else
    g.giveWord argument key read text found

/-
  Walk through words.  `operand?` is the operand that is not
  given yet, and `found` is what was read so far.
-/
def walk
    (g : Grammar)
    (operand? : Option Operand)
    (found : Reading) :
    List Word → Except Stop Reading
| [] =>
    match operand? with
    | some operand => g.refuse (.required operand.key)
    | none => .ok found
| .unknown text :: words =>
    g.walk operand? (found.leave text) words
| .mention _ m :: words =>
    match m.argument.effect, m.attached?, words with
    | .help, _, _ => g.stopAt m (.help g)
    | .version, _, _ => g.stopAt m .version
    | .value key read, some attached, words =>
        match g.giveAttached m.argument key read
            (String.ofList attached) found with
        | .ok found => g.walk operand? found words
        | .error stop => .error stop
    | .value key read, none, .plain text :: words =>
        match g.giveWord m.argument key read text found with
        | .ok found => g.walk operand? found words
        | .error stop => .error stop
    | .value _ _, none, _ =>
        g.refuse (.valueMissing m.argument.title)
| .separator :: words =>
    match operand?, words with
    | some (.word key _), .plain text :: words =>
        g.walk none (found.give key (.str text)) words
    | some (.command _ _), .plain text :: words =>
        .ok
          { found with
            command :=
              separatorText :: text :: words.map Word.text }
    | operand?, words =>
        g.walk operand? (found.leave separatorText) words
| .plain text :: words =>
    match operand?, words with
    | some (.word key _), .separator :: words =>
        g.walk none (found.give key (.str text)) words
    | some (.word key _), words =>
        g.walk none (found.give key (.str text)) words
    | some (.command _ _), words =>
        .ok
          { found with
            command := text :: words.map Word.text }
    | none, words => g.walk none (found.leave text) words
termination_by structural words => words

/- Read a command line. -/
def read
    (g : Grammar)
    (texts : List String) : Except Stop Reading :=
  match g.wordsOf texts with
  | .error fault => g.refuse fault
  | .ok words => g.walk g.operand? {} words

/- Read a command line of which no word may be left over. -/
def readAll
    (g : Grammar)
    (texts : List String) : Except Stop Reading :=
  match g.read texts with
  | .error stop => .error stop
  | .ok found =>
      if found.extras.isEmpty then
        .ok found
      else
        g.refuse (.unrecognized found.extras)

end Grammar

end CommandLine

end EventFlow
