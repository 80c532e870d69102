import EventFlow.Definition.Store
import EventFlow.Engine.Binding

/-
  Loading workflows from files.

  All definitions of a file are built before the first
  workflow is added, and all are added before the first
  trigger is bound.  So a bad definition leaves the engine
  as it was.

  Key definitions include:
    * `Engine.entriesOf`
    * `Engine.load`
    * `Engine.loadFile`
-/

------------------------------------------------------------
-- Entries of Files
------------------------------------------------------------

namespace EventFlow

namespace Engine

/- What is told about a file that is treated as empty. -/
def complaintNotice
    (path : Path) :
    DefinitionStore.Complaint → Notice
| .notJson => .fileNotJson path.text
| .notList => .fileNotList path.text

variable [Surroundings]

/- The entries of a file of definitions. -/
def entriesOf
    (files : Files)
    (path : Path) : Act Engine (List Value) := do
  let listing ←
    Act.ofExcept (DefinitionStore.entries files path)
  Act.change
    (hear (listing.complaint.toList.map
      (complaintNotice path)))
  return listing.entries

end Engine

end EventFlow

------------------------------------------------------------
-- Loading
------------------------------------------------------------

namespace EventFlow

namespace Engine

/- Build definitions in order. -/
def buildAll :
    List WorkflowDefinition → Act Engine (List Workflow)
| [] => return []
| d :: ds => do
    let w ← build d
    let ws ← buildAll ds
    return w :: ws

/- Give places to workflows in order, and add them. -/
def addAll : List Workflow → Act Engine (List Nat)
| [] => return []
| w :: ws => do
    let p ← place w
    add p false
    let ps ← addAll ws
    return p :: ps

/- Load the definitions of entries, and tell their number. -/
def load
    (entries : List Value)
    (path : Path)
    (shouldInit : Bool) : Act Engine Nat := do
  let ds ← Act.ofExcept (DefinitionStore.readAll entries)
  let ws ← buildAll ds
  let places ← addAll ws
  if shouldInit then
    initAll places
  tell (.workflowsLoaded path.text ws.length shouldInit)
  return ws.length

variable [Surroundings]

/- Load the definitions of a file, and tell their number. -/
def loadFile
    (files : Files)
    (path : Path)
    (shouldInit : Bool) : Act Engine Nat := do
  let entries ← entriesOf files path
  load entries path shouldInit

end Engine

end EventFlow
