import EventFlow.CommandLine.Reading

/-
  The help of a program.

  The usage names all arguments of a program; the help adds
  what the program and each of its arguments are about.
  Lines are at most 78 characters wide.  In the lists of
  arguments, what they are about stands in a column of its
  own, behind the longest name but not behind the column 24.

  Key definitions include:
    * `CommandLine.filled`
    * `CommandLine.Grammar.usage`
    * `CommandLine.Grammar.help`
-/

------------------------------------------------------------
-- Filled Lines
------------------------------------------------------------

namespace EventFlow

namespace CommandLine

/- Spaces. -/
def blanks (count : Nat) : String :=
  String.ofList (List.replicate count ' ')

/-
  Put words behind a line that is begun.  A word that does
  not fit begins the next line.
-/
def filledFrom
    (width : Nat)
    (line : String) : List String → List String
| [] => [line]
| word :: words =>
    if line.length + 1 + word.length ≤ width then
      filledFrom width (line ++ " " ++ word) words
    else
      line :: filledFrom width word words

/- Words in lines of a width. -/
def filled
    (width : Nat) : List String → List String
| [] => []
| word :: words => filledFrom width word words

end CommandLine

end EventFlow

------------------------------------------------------------
-- Usage
------------------------------------------------------------

namespace EventFlow

namespace CommandLine

/- The greatest width of a line. -/
def helpWidth : Nat := 78

namespace Named

/- A name of an argument with its value. -/
def withValue
    (n : Named)
    (name : String) : String :=
  match n.valueName? with
  | some value => name ++ " " ++ value
  | none => name

/- An argument in the usage, which calls it by one name. -/
def usage (n : Named) : String :=
  "[" ++ n.withValue (n.names.headD "") ++ "]"

/- An argument in the help, by all of its names. -/
def heading (n : Named) : String :=
  ", ".intercalate (n.names.map n.withValue)

end Named

namespace Operand

/- An operand in the help. -/
def heading : Operand → String
| .word key _ => key
| .command _ choices =>
    "\x7b" ++ ",".intercalate (choices.map Choice.name) ++
      "\x7d"

/- An operand in the usage. -/
def usage : Operand → String
| .word key _ => key
| .command key choices =>
    (Operand.command key choices).heading ++ " ..."

end Operand

/-
  The usage of a program: all arguments on one line, or else
  the named arguments and the operand on lines of their own.
-/
def Grammar.usage (g : Grammar) : String :=
  let start := "usage: " ++ g.program ++ " "
  let named := g.named.map Named.usage
  let operands := g.operand?.toList.map Operand.usage
  let line := start ++ " ".intercalate (named ++ operands)
  if line.length ≤ helpWidth then
    line
  else
    let width := helpWidth - start.length
    start ++
      ("\n" ++ blanks start.length).intercalate
        (filled width named ++ filled width operands)

end CommandLine

end EventFlow

------------------------------------------------------------
-- Help
------------------------------------------------------------

namespace EventFlow

namespace CommandLine

/- An entry of a list: what it is called and is about. -/
structure HelpEntry where
  indent : Nat := 2
  heading : String
  about : String

/- The last column in which entries can begin to tell. -/
def maxColumn : Nat := 24

namespace HelpEntry

/-
  The lines of an entry that tells what it is about from a
  column on.  A heading that leaves no room has a line of
  its own.
-/
def lines
    (column : Nat)
    (e : HelpEntry) : List String :=
  let heading := blanks e.indent ++ e.heading
  let texts :=
    filled (helpWidth - column) (e.about.splitOn " ")
  if e.about.isEmpty then
    [heading]
  else if heading.length + 2 ≤ column then
    match texts with
    | [] => [heading]
    | first :: rest =>
        (heading ++ blanks (column - heading.length) ++
          first) :: rest.map (blanks column ++ ·)
  else
    heading :: texts.map (blanks column ++ ·)

end HelpEntry

namespace Grammar

/- The entries of the operand and of its choices. -/
def operandEntries (g : Grammar) : List HelpEntry :=
  match g.operand? with
  | none => []
  | some (.word key about) =>
      [{ heading := key, about := about }]
  | some (.command key choices) =>
      { heading := (Operand.command key choices).heading
        about := "" } ::
      choices.map fun c =>
        { indent := 4, heading := c.name, about := c.about }

/- The entries of the named arguments. -/
def namedEntries (g : Grammar) : List HelpEntry :=
  g.named.map fun n =>
    { heading := n.heading, about := n.about }

/- The column in which all entries begin to tell. -/
def column (g : Grammar) : Nat :=
  let lengths :=
    (g.operandEntries ++ g.namedEntries).map fun e =>
      e.heading.length + 4
  min maxColumn (lengths.foldl max 0)

/- A list of entries below its title, if there are any. -/
def section?
    (g : Grammar)
    (title : String)
    (entries : List HelpEntry) : Option String :=
  if entries.isEmpty then
    none
  else
    some ("\n".intercalate
      (title :: entries.flatMap (HelpEntry.lines g.column)))

/- The help of a program. -/
def help (g : Grammar) : String :=
  let about? := if g.about.isEmpty then none else some g.about
  "\n\n".intercalate
    ([ some g.usage,
      about?,
      g.section? "positional arguments:" g.operandEntries,
      g.section? "options:" g.namedEntries ].filterMap id)

end Grammar

end CommandLine

end EventFlow
