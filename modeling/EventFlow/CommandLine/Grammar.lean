import EventFlow.Failure
import EventFlow.Text.UpperCase

/-
  The grammars of command lines.

  A grammar lists the arguments of a program: those that are
  given by a name, and at most one operand, which is given
  by its place.  A named argument takes one value, or it
  ends the program with a text about it.  What an argument
  is about is told by the help of the program.

  Key definitions include:
    * `CommandLine.Refusal`
    * `CommandLine.Effect`
    * `CommandLine.Named`
    * `CommandLine.Operand`
    * `CommandLine.Grammar`
    * `CommandLine.Grammar.named?`
-/

------------------------------------------------------------
-- Arguments
------------------------------------------------------------

namespace EventFlow

namespace CommandLine

/-
  Why a word is not the value of an argument: it is refused
  for a reason, or its reading fails.
-/
inductive Refusal where
| reason (text : String)
| failure (failure : Failure)

/-
  Reads the value of an argument from a word, or tells why
  the word is not its value.
-/
abbrev ValueReader :=
  String → Except Refusal Value

/- A word that stands for itself. -/
def readWord : ValueReader :=
  fun word => .ok (.str word)

/- What a named argument is for. -/
inductive Effect where
| help
| version
| value (key : String) (read : ValueReader)

/-
  An argument that is given by one of its names.  Names
  begin with one dash and have one letter, or begin with two
  dashes.  An argument with a name of one letter takes no
  value.
-/
structure Named where
  names : List String
  effect : Effect
  about : String

namespace Named

/- An argument as it is called in a report. -/
def title (n : Named) : String :=
  "/".intercalate n.names

/- What stands for the value of an argument in a help text. -/
def valueName? (n : Named) : Option String :=
  match n.effect with
  | .value key _ =>
      some (Text.upper (key.replace "-" "_"))
  | _ => none

/- The argument that asks for help. -/
def help : Named :=
  { names := ["-h", "--help"]
    effect := .help
    about := "show this help message and exit" }

/- The argument that asks for the version. -/
def version : Named :=
  { names := ["--version"]
    effect := .version
    about := "show program's version number and exit" }

/- An argument that takes a value under a name. -/
def value
    (key : String)
    (about : String)
    (read : ValueReader := readWord) : Named :=
  { names := ["--" ++ key]
    effect := .value key read
    about := about }

end Named

/- A command, and what it is about. -/
structure Choice where
  name : String
  about : String
deriving DecidableEq, Repr

/-
  An argument that is given by its place: one word, or the
  name of a command together with all words behind it.
-/
inductive Operand where
| word (key : String) (about : String)
| command (key : String) (choices : List Choice)
deriving DecidableEq, Repr

/- The key of an operand. -/
def Operand.key : Operand → String
| .word key _ => key
| .command key _ => key

end CommandLine

end EventFlow

------------------------------------------------------------
-- Grammars
------------------------------------------------------------

namespace EventFlow

namespace CommandLine

/- The arguments of a program. -/
structure Grammar where
  program : String
  about : String := ""
  named : List Named
  operand? : Option Operand := none

namespace Grammar

/- All names of arguments, in order, with what they name. -/
def names (g : Grammar) : List (String × Named) :=
  g.named.flatMap fun n => n.names.map fun s => (s, n)

/- The argument of a name. -/
def named?
    (g : Grammar)
    (name : String) : Option Named :=
  g.names.lookup name

end Grammar

end CommandLine

end EventFlow
