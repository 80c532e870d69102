import EventFlow.Step.Type
import EventFlow.Trigger.Type

/-
  What a name can stand for.

  A name that is imported stands for a type of triggers, for a
  type of steps, for a type of steps that lacks some part
  and so has no steps, or for something that is no such
  type.

  Key definitions include:
    * `Item`
    * `Item.name`
-/

------------------------------------------------------------
-- Items
------------------------------------------------------------

namespace EventFlow

/- What a name stands for. -/
inductive Item where
| trigger (type : TriggerType)
| step (type : StepType)
| unfinished (name : String) (missing : List String)
| other (name : String)
deriving DecidableEq, Repr

namespace Item

/- The name of an item. -/
def name : Item → String
| .trigger type => type.name
| .step type => type.name
| .unfinished name _ => name
| .other name => name

/- An item under its own name. -/
def entry (i : Item) : String × Item :=
  (i.name, i)

end Item

end EventFlow
