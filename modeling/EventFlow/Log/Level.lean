import EventFlow.Text.UpperCase

/-
  Levels of log records.

  Levels are integers; some have names.  A name is read
  without regard to case, and two levels have two names.

  Key definitions include:
    * `Level.ofName?`
    * `Level.name`
-/

------------------------------------------------------------
-- Levels
------------------------------------------------------------

namespace EventFlow

/- A level of log records. -/
abbrev Level :=
  Int

namespace Level

def notSet : Level := 0
def debug : Level := 10
def info : Level := 20
def warning : Level := 30
def error : Level := 40
def critical : Level := 50

/- The names that levels are written with. -/
def names : List (Level × String) := [
  (critical, "CRITICAL"),
  (error, "ERROR"),
  (warning, "WARNING"),
  (info, "INFO"),
  (debug, "DEBUG"),
  (notSet, "NOTSET")
]

/- The name of a level. -/
def name (level : Level) : String :=
  match names.lookup level with
  | some name => name
  | none => "Level " ++ toString level

/- The names that levels are read from. -/
def readable : List (String × Level) :=
  names.map Prod.swap ++ [
    ("FATAL", critical),
    ("WARN", warning)
  ]

/- The level of a name in upper case. -/
def ofUpper? (name : String) : Option Level :=
  readable.lookup name

/- The level of a name. -/
def ofName? (name : String) : Option Level :=
  ofUpper? (Text.upper name)

end Level

end EventFlow
