import EventFlow.Entries
import EventFlow.Path
import EventFlow.Text.Quoted

/-
  A tree of files and directories.

  A path is followed part by part: every part but the last
  must be a directory that exists, and a part upwards leads
  to the directory above.  A path that cannot be followed is
  a fault, and so is the use of a directory as a file.

  Key definitions include:
    * `Files`
    * `Files.Fault`
    * `Files.placeOf`
    * `Files.read?`
    * `Files.write`
    * `Files.ensureDirectory`
-/

------------------------------------------------------------
-- Faults
------------------------------------------------------------

namespace EventFlow

namespace Files

/- Why a path cannot be used. -/
inductive Reason where
| missing
| taken
| notDirectory
| isDirectory
| tooLong
| nullCharacter
deriving DecidableEq, Repr

namespace Reason

/- The number and the name of a reason. -/
def numbered? : Reason → Option (Nat × String)
| .missing => some (2, "No such file or directory")
| .taken => some (17, "File exists")
| .notDirectory => some (20, "Not a directory")
| .isDirectory => some (21, "Is a directory")
| .tooLong => some (36, "File name too long")
| .nullCharacter => none

/- Whether a reason says that there is nothing at a path. -/
def isAbsence : Reason → Bool
| .missing => true
| .notDirectory => true
| .nullCharacter => true
| _ => false

end Reason

/- A path that cannot be used, and why. -/
structure Fault where
  reason : Reason
  path : Path
deriving DecidableEq, Repr

/- The wording of a fault. -/
def Fault.message (f : Fault) : String :=
  match f.reason.numbered? with
  | some (number, name) =>
      "[Errno " ++ toString number ++ "] " ++ name ++ ": " ++
        Text.quoted f.path.text
  | none => "embedded null byte"

end Files

end EventFlow

------------------------------------------------------------
-- Trees
------------------------------------------------------------

namespace EventFlow

/-
  A place in a tree: the parts that lead to it from the top.
  A place above the top starts with parts upwards, and a
  place that does not hang on the top starts with a root.
-/
abbrev Place := List String

/- What can be at a place. -/
inductive Node where
| file (bytes : List UInt8)
| directory
deriving DecidableEq, Repr

/-
  What is at every place.  The top, the directories above it
  and the roots always exist and are not listed.
-/
abbrev Files := List (Place × Node)

namespace Files

/- Whether a place is the top or a directory above it. -/
def isAbove (place : Place) : Bool :=
  place.all (· == "..")

/- Whether a place is a root. -/
def isRoot (place : Place) : Bool :=
  place == ["/"] || place == ["//"]

/- What is at a place, if there is anything. -/
def node?
    (fs : Files)
    (place : Place) : Option Node :=
  if isAbove place || isRoot place then
    some .directory
  else
    List.lookup place fs

/- The place above a place.  A root is above itself. -/
def above (place : Place) : Place :=
  if isAbove place then
    place ++ [".."]
  else if isRoot place then
    place
  else
    place.dropLast

end Files

end EventFlow

------------------------------------------------------------
-- Following Paths
------------------------------------------------------------

namespace EventFlow

namespace Files

/- The greatest number of bytes of a part of a path. -/
def maxName : Nat := 255

/- The greatest number of bytes of a path. -/
def maxPath : Nat := 4095

/- The place to which a part leads from a place. -/
def step
    (fs : Files)
    (place : Place)
    (part : String) : Except Reason Place :=
  match fs.node? place with
  | none => .error .missing
  | some (.file _) => .error .notDirectory
  | some .directory =>
      if part = ".." then
        .ok (above place)
      else if maxName < part.utf8ByteSize then
        .error .tooLong
      else
        .ok (place ++ [part])

/- The place where a path starts. -/
def startOf (p : Path) : Place :=
  if p.root = "" then [] else [p.root]

/-
  The place to which a path leads.  There may be nothing at
  the place itself.
-/
def placeOf
    (fs : Files)
    (p : Path) : Except Reason Place :=
  if p.text.toList.contains '\x00' then
    .error .nullCharacter
  else if maxPath < p.text.utf8ByteSize then
    .error .tooLong
  else
    p.parts.foldlM fs.step (startOf p)

/- What is at a path. -/
def nodeAt
    (fs : Files)
    (p : Path) : Except Reason Node :=
  match fs.placeOf p with
  | .error reason => .error reason
  | .ok place =>
      match fs.node? place with
      | some node => .ok node
      | none => .error .missing

end Files

end EventFlow

------------------------------------------------------------
-- Reading and Writing
------------------------------------------------------------

namespace EventFlow

namespace Files

/- The bytes of the file at a path, if there is anything. -/
def read?
    (fs : Files)
    (p : Path) : Except Fault (Option (List UInt8)) :=
  match fs.nodeAt p with
  | .ok (.file bytes) => .ok (some bytes)
  | .ok .directory => .error ⟨.isDirectory, p⟩
  | .error reason =>
      if reason.isAbsence then
        .ok none
      else
        .error ⟨reason, p⟩

/- The bytes at a path, if a file is there. -/
def bytes?
    (fs : Files)
    (p : Path) : Option (List UInt8) :=
  match fs.nodeAt p with
  | .ok (.file bytes) => some bytes
  | _ => none

/- Whether a directory is at a path. -/
def isDirectory
    (fs : Files)
    (p : Path) : Bool :=
  match fs.nodeAt p with
  | .ok .directory => true
  | _ => false

/- Write the file at a path. -/
def write
    (fs : Files)
    (p : Path)
    (bytes : List UInt8) : Except Fault Files :=
  match fs.placeOf p with
  | .error reason => .error ⟨reason, p⟩
  | .ok place =>
      match fs.node? place with
      | some .directory => .error ⟨.isDirectory, p⟩
      | _ => .ok (Entries.put place (.file bytes) fs)

end Files

end EventFlow

------------------------------------------------------------
-- Making Directories
------------------------------------------------------------

namespace EventFlow

namespace Files

/- Make a directory at a path where nothing is. -/
def makeDirectory
    (fs : Files)
    (p : Path) : Except Fault Files :=
  match fs.placeOf p with
  | .error reason => .error ⟨reason, p⟩
  | .ok place =>
      match fs.node? place with
      | some _ => .error ⟨.taken, p⟩
      | none => .ok (Entries.put place .directory fs)

/-
  Make a directory at a path.  It is no fault if one is
  there already.
-/
def claimDirectory
    (fs : Files)
    (p : Path) : Except Fault Files :=
  match fs.makeDirectory p with
  | .ok fs => .ok fs
  | .error fault =>
      if fs.isDirectory p then .ok fs else .error fault

/-
  Make a directory whose parts are given from the last to
  the first, and those that it lies in.  Directories that
  were made stay, even if a later one cannot be made.
-/
def ensureParts
    (root : String) :
    List String → Files → Except Fault Unit × Files
| [], fs =>
    match fs.claimDirectory ⟨root, []⟩ with
    | .ok fs => (.ok (), fs)
    | .error fault => (.error fault, fs)
| part :: parts, fs =>
    let p : Path := ⟨root, (part :: parts).reverse⟩
    let claim (fs : Files) :=
      match fs.claimDirectory p with
      | .ok fs => (.ok (), fs)
      | .error fault => (.error fault, fs)
    match fs.makeDirectory p with
    | .error ⟨.missing, _⟩ =>
        match ensureParts root parts fs with
        | (.ok (), fs) => claim fs
        | failed => failed
    | _ => claim fs

/- Make a directory, and those that it lies in. -/
def ensureDirectory
    (p : Path)
    (fs : Files) : Except Fault Unit × Files :=
  ensureParts p.root p.parts.reverse fs

/- Write a file, and make the directories it lies in. -/
def place
    (fs : Files)
    (p : Path)
    (bytes : List UInt8) : Files :=
  match ensureDirectory p.parent fs with
  | (.error _, fs) => fs
  | (.ok (), fs) => ((fs.write p bytes).toOption).getD fs

end Files

end EventFlow
