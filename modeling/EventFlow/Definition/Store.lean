import EventFlow.Act
import EventFlow.Definition.Check
import EventFlow.Files.Text
import EventFlow.Json.Printer
import EventFlow.Surroundings

/-
  Definitions in a file.

  A file of definitions holds a JSON array with one entry
  for each workflow.  A missing file and the JSON null stand
  for no entries; a file that is not JSON, or holds another
  value, is treated as empty with a complaint.  Bytes that
  are no text, JSON that cannot be read, and a path that
  cannot be used are failures.

  Key definitions include:
    * `DefinitionStore.Complaint`
    * `DefinitionStore.entries`
    * `DefinitionStore.load`
    * `DefinitionStore.find?`
    * `DefinitionStore.render`
    * `DefinitionStore.save`
    * `DefinitionStore.resave`
-/

------------------------------------------------------------
-- Entries
------------------------------------------------------------

namespace EventFlow

namespace DefinitionStore

/- Why a file is treated as empty. -/
inductive Complaint where
| notJson
| notList
deriving DecidableEq, Repr

/- The entries of a file, not yet checked. -/
structure Listing where
  entries : List Value
  complaint : Option Complaint

/- A listing without a complaint. -/
def Listing.of (entries : List Value) : Listing :=
  { entries := entries, complaint := none }

/- A file that is treated as empty. -/
def Listing.empty (complaint : Complaint) : Listing :=
  { entries := [], complaint := some complaint }

variable [Surroundings]

/- The entries of a text. -/
def entriesOfText (s : String) : Except Failure Listing :=
  match Json.parse Surroundings.nesting s with
  | .error fault =>
      if fault.reason.isGrammar then
        .ok (.empty .notJson)
      else
        .error (.unreadable fault)
  | .ok .null => .ok (.of [])
  | .ok (.list entries) => .ok (.of entries)
  | .ok _ => .ok (.empty .notList)

/- The entries of the file at a path. -/
def entries
    (files : Files)
    (path : Path) : Except Failure Listing :=
  match files.text? path with
  | .error failure => .error failure
  | .ok none => .ok (.of [])
  | .ok (some s) => entriesOfText s

end DefinitionStore

end EventFlow

------------------------------------------------------------
-- Definitions
------------------------------------------------------------

namespace EventFlow

namespace DefinitionStore

/-
  Read every entry as a definition.  The first entry that is
  none is the failure.
-/
def readAll :
    List Value → Except Failure (List WorkflowDefinition)
| [] => .ok []
| v :: vs =>
    match WorkflowDefinition.ofValue v with
    | .error failure => .error failure
    | .ok d => (readAll vs).map (d :: ·)

variable [Surroundings]

/- The definitions of the file at a path. -/
def load
    (files : Files)
    (path : Path) :
    Except Failure (List WorkflowDefinition) :=
  match entries files path with
  | .error failure => .error failure
  | .ok listing => readAll listing.entries

/- The first definition of an id in the file at a path. -/
def find?
    (files : Files)
    (path : Path)
    (id : String) :
    Except Failure (Option WorkflowDefinition) :=
  (load files path).map (·.find? (·.id == id))

/- The text of a file of definitions. -/
def render (ds : List WorkflowDefinition) : String :=
  Json.renderIndented
    (.list (ds.map WorkflowDefinition.stored)) ++ "\n"

/-
  Write definitions to the file at a path.  The directories
  that it lies in are made before the definitions are looked
  at, and stay even if these cannot be written.
-/
def save
    (path : Path)
    (ds : List WorkflowDefinition) : Act Files Unit := do
  Act.ofFaults Failure.unusable
    (Files.ensureDirectory path.parent)
  if !ds.all WorkflowDefinition.isStorable then
    Act.fail .storedTooDeep
  Act.ofFaults Failure.unusable fun files =>
    match files.write path (Utf8.encode (render ds)) with
    | .ok files => (.ok (), files)
    | .error fault => (.error fault, files)

/- Read the definitions at a path, and write them again. -/
def resave (path : Path) : Act Files Unit := do
  let files ← Act.look id
  let ds ← Act.ofExcept (load files path)
  save path ds

end DefinitionStore

end EventFlow
