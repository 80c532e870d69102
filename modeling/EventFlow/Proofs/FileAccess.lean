import EventFlow.Proofs.Encoding
import Mathlib.Logic.Basic

/-
  What is written to a file can be read from it.

  A path leads through directories only, and to write a file
  changes what is at its own place, which is no directory.
  So the path leads to the same place afterwards, where the
  bytes are found that were written.

  Key definitions include:
    * `Files.CanWrite`

  Key theorems include:
    * `Files.placeOf_put`
    * `Files.read?_of_write`
    * `Files.text?_of_write`
    * `Files.write_of_place`
-/

------------------------------------------------------------
-- Nodes
------------------------------------------------------------

namespace EventFlow

namespace Files

variable {fs : Files}
variable {place : Place}

/- Places are compared in one way only. -/
theorem instBEq_eq :
    (List.instBEq : BEq Place) = instBEqOfDecidableEq :=
  lawful_beq_subsingleton _ _

/- Where no directory is, there is what is listed there. -/
theorem node?_eq_lookup
    (hFile : fs.node? place ≠ some .directory)
    (others : Files) :
    others.node? place = List.lookup place others := by
  unfold node? at hFile ⊢
  split at hFile
  · exact absurd rfl hFile
  · rename_i hListed
    rw [if_neg hListed]

theorem node?_put_self
    (hFile : fs.node? place ≠ some .directory)
    (node : Node) :
    node? (Entries.put place node fs) place = some node := by
  rw [node?_eq_lookup hFile, instBEq_eq]
  exact Entries.lookup_put_self place node fs

theorem node?_put_of_ne
    {other : Place}
    (hNe : other ≠ place)
    (node : Node) :
    node? (Entries.put place node fs) other =
      fs.node? other := by
  unfold node?
  rw [instBEq_eq, Entries.lookup_put_of_ne hNe node fs]

end Files

end EventFlow

------------------------------------------------------------
-- Followed Paths
------------------------------------------------------------

namespace EventFlow

namespace Files

variable {fs : Files}
variable {place : Place}
variable {p : Path}

/- Parts lead on from directories only. -/
theorem node?_of_step
    {part : String}
    {next : Place}
    (hStep : fs.step place part = .ok next) :
    fs.node? place = some .directory := by
  unfold step at hStep
  cases hNode : fs.node? place with
  | none =>
      rw [hNode] at hStep
      cases hStep
  | some node =>
      cases node with
      | file bytes =>
          rw [hNode] at hStep
          cases hStep
      | directory => rfl

/- Parts lead where they led, when a file is written. -/
theorem foldlM_step_put
    (hFile : fs.node? place ≠ some .directory)
    (node : Node)
    {parts : List String}
    {start final : Place}
    (hFollowed : parts.foldlM fs.step start = .ok final) :
    parts.foldlM (step (Entries.put place node fs)) start =
      .ok final := by
  induction parts generalizing start with
  | nil => exact hFollowed
  | cons part parts ih =>
      rw [List.foldlM_cons] at hFollowed ⊢
      cases hStep : fs.step start part with
      | error reason =>
          rw [hStep] at hFollowed
          cases hFollowed
      | ok next =>
          rw [hStep] at hFollowed
          have hDirectory := node?_of_step hStep
          have hNe : start ≠ place := by
            rintro rfl
            exact hFile hDirectory
          have hSame :
              step (Entries.put place node fs) start part =
                .ok next := by
            rw [← hStep]
            unfold step
            rw [node?_put_of_ne hNe]
          rw [hSame]
          exact ih hFollowed

/- A path leads where it led, when a file is written. -/
theorem placeOf_put
    (hFile : fs.node? place ≠ some .directory)
    (node : Node)
    {final : Place}
    (hPlace : fs.placeOf p = .ok final) :
    placeOf (Entries.put place node fs) p = .ok final := by
  unfold placeOf at hPlace ⊢
  split at hPlace
  · cases hPlace
  · rename_i hText
    rw [if_neg hText]
    split at hPlace
    · cases hPlace
    · rename_i hShort
      rw [if_neg hShort]
      exact foldlM_step_put hFile node hPlace

end Files

end EventFlow

------------------------------------------------------------
-- Written Files
------------------------------------------------------------

namespace EventFlow

namespace Files

variable {fs fs' : Files}
variable {p : Path}
variable {bytes : List UInt8}

/- Where a file was written, and that no directory was there. -/
theorem place_of_write
    (hWritten : fs.write p bytes = .ok fs') :
    ∃ place,
      fs.placeOf p = .ok place ∧
        fs.node? place ≠ some .directory ∧
        fs' = Entries.put place (.file bytes) fs := by
  unfold write at hWritten
  cases hPlace : fs.placeOf p with
  | error reason =>
      rw [hPlace] at hWritten
      cases hWritten
  | ok place =>
      rw [hPlace] at hWritten
      refine ⟨place, rfl, ?_⟩
      cases hNode : fs.node? place with
      | none =>
          simp only [hNode] at hWritten
          cases hWritten
          exact ⟨nofun, rfl⟩
      | some node =>
          cases node with
          | directory =>
              simp only [hNode] at hWritten
              cases hWritten
          | file old =>
              simp only [hNode] at hWritten
              cases hWritten
              exact ⟨nofun, rfl⟩

/- The bytes that were written are read. -/
theorem read?_of_write
    (hWritten : fs.write p bytes = .ok fs') :
    fs'.read? p = .ok (some bytes) := by
  rcases place_of_write hWritten with
    ⟨place, hPlace, hFile, rfl⟩
  have hNode :
      nodeAt (Entries.put place (.file bytes) fs) p =
        .ok (.file bytes) := by
    rw [nodeAt, placeOf_put hFile _ hPlace]
    dsimp only
    rw [node?_put_self hFile]
  rw [read?, hNode]

/- A text is read as it was written, apart from line ends. -/
theorem text?_of_write
    {s : String}
    (hWritten : fs.write p (Utf8.encode s) = .ok fs') :
    fs'.text? p =
      .ok
        (some
          (String.ofList (Text.unifyLines s.toList))) := by
  rw [text?, read?_of_write hWritten]
  dsimp only
  rw [decode_encode]
  rfl

/-
  Whether a file can be written at a path: the directories
  that it lies in are there or can be made, and there is no
  directory at the path itself.
-/
def CanWrite
    (fs : Files)
    (p : Path) : Prop :=
  ∃ prepared place,
    ensureDirectory p.parent fs = (.ok (), prepared) ∧
      prepared.placeOf p = .ok place ∧
      prepared.node? place ≠ some .directory

/- Where no directory is, a file is written. -/
theorem write_of_place
    {place : Place}
    (hPlace : fs.placeOf p = .ok place)
    (hFile : fs.node? place ≠ some .directory)
    (bytes : List UInt8) :
    fs.write p bytes =
      .ok (Entries.put place (.file bytes) fs) := by
  unfold write
  rw [hPlace]
  dsimp only
  split
  · rename_i hNode
    exact absurd hNode hFile
  · rfl

end Files

end EventFlow
