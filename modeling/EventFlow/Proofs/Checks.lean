import EventFlow.Definition.Check

/-
  Checks explain why they fail.

  A check has a result or reports at least one problem, and
  the checks that are made of others keep this.  So a value
  that is not a definition has at least one problem.

  Key definitions include:
    * `Schema.Checked.Explains`

  Key theorems include:
    * `Schema.Checked.Explains.and`
    * `WorkflowDefinition.explains_check`
    * `WorkflowDefinition.problems_of_ofValue`
-/

------------------------------------------------------------
-- Checks That Explain
------------------------------------------------------------

namespace EventFlow

namespace Schema

variable {α β : Type}

namespace Checked

/- Whether a check has a result or at least one problem. -/
def Explains (a : Checked α) : Prop :=
  ∀ problems, a = .error problems → problems ≠ []

variable {a : Checked α}
variable {b : Checked β}

theorem explains_ok (x : α) :
    Explains (.ok x : Checked α) := by
  intro problems hFails
  cases hFails

theorem Explains.map
    (hExplains : a.Explains)
    (f : α → β) :
    Explains (a.map f : Checked β) := by
  intro problems hFails
  cases a with
  | ok x => cases hFails
  | error others =>
      cases hFails
      exact hExplains _ rfl

theorem Explains.inside
    (hExplains : a.Explains)
    (step : Place) :
    (a.inside step).Explains := by
  intro problems hFails
  cases a with
  | ok x => cases hFails
  | error others =>
      cases hFails
      exact mt List.map_eq_nil_iff.mp (hExplains _ rfl)

/- When one of two checks fails, its problems are kept. -/
theorem Explains.and
    (hFirst : a.Explains)
    (hSecond : b.Explains) :
    (a.and b).Explains := by
  intro problems hFails
  cases a with
  | error others =>
      cases hFails
      exact List.append_ne_nil_of_left_ne_nil
        (hFirst _ rfl) _
  | ok x =>
      -- Only the second one can have failed.
      cases b with
      | ok y => cases hFails
      | error others =>
          cases hFails
          exact hSecond _ rfl

end Checked

open Checked

variable {check : Value → Checked α}

theorem explains_broken
    (rule : Rule)
    (found : Value) :
    (broken rule found : Checked α).Explains := by
  intro problems hFails
  cases hFails
  exact List.cons_ne_nil _ _

theorem explains_text (v : Value) :
    (text v).Explains := by
  cases v with
  | str s => exact explains_ok s
  | _ => exact explains_broken _ _

theorem explains_text? (v : Value) :
    (text? v).Explains := by
  cases v with
  | null => exact explains_ok none
  | str s => exact explains_ok (some s)
  | _ => exact explains_broken _ _

theorem explains_table (v : Value) :
    (table v).Explains := by
  cases v with
  | object fields => exact explains_ok fields
  | _ => exact explains_broken _ _

theorem explains_truthOfInt
    (n : Int)
    (found : Value) :
    (truthOfInt n found).Explains := by
  unfold truthOfInt
  split
  · exact explains_ok _
  · split
    · exact explains_ok _
    · exact explains_broken _ _

theorem explains_truth (v : Value) :
    (truth v).Explains := by
  unfold truth
  split
  · exact explains_ok _
  · split
    · exact explains_truthOfInt _ _
    · exact explains_broken _ _
  · split
    · split
      · exact explains_truthOfInt _ _
      · exact explains_broken _ _
    · exact explains_broken _ _
  · split
    · exact explains_ok _
    · exact explains_broken _ _
  · exact explains_broken _ _

theorem explains_eachFrom
    (hCheck : ∀ v, (check v).Explains)
    (index : Nat)
    (vs : List Value) :
    (eachFrom check index vs).Explains := by
  induction vs generalizing index with
  | nil => exact explains_ok []
  | cons v vs ih =>
      exact (((hCheck v).inside _).and
        (ih (index + 1))).map _

theorem explains_eachField
    (hCheck : ∀ v, (check v).Explains)
    (fields : List (String × Value)) :
    (eachField check fields).Explains := by
  induction fields with
  | nil => exact explains_ok []
  | cons field fields ih =>
      exact (((hCheck field.2).inside _).and ih).map _

theorem explains_listOf
    (hCheck : ∀ v, (check v).Explains)
    (v : Value) :
    (listOf check v).Explains := by
  cases v with
  | list items => exact explains_eachFrom hCheck 0 items
  | _ => exact explains_broken _ _

theorem explains_someOf
    (hCheck : ∀ v, (check v).Explains)
    (v : Value) :
    (someOf check v).Explains := by
  unfold someOf
  split
  · exact explains_broken _ _
  · exact explains_listOf hCheck _

theorem explains_tableOf
    (hCheck : ∀ v, (check v).Explains)
    (v : Value) :
    (tableOf check v).Explains := by
  cases v with
  | object fields => exact explains_eachField hCheck fields
  | _ => exact explains_broken _ _

theorem explains_required
    (hCheck : ∀ v, (check v).Explains)
    (fields : List (String × Value))
    (name : String) :
    (required fields name check).Explains := by
  refine Explains.inside ?_ _
  split
  · exact hCheck _
  · exact explains_broken _ _

theorem explains_optional
    (hCheck : ∀ v, (check v).Explains)
    (fields : List (String × Value))
    (name : String)
    (default : α) :
    (optional fields name default check).Explains := by
  unfold optional
  split
  · exact (hCheck _).inside _
  · exact explains_ok default

theorem explains_only
    (names : List String)
    (fields : List (String × Value)) :
    (only names fields).Explains := by
  unfold only
  dsimp only
  split
  · exact explains_ok ()
  · next hExtras =>
      intro problems hFails
      cases hFails
      simpa [List.isEmpty_iff] using hExtras

end Schema

end EventFlow

------------------------------------------------------------
-- Definitions
------------------------------------------------------------

namespace EventFlow

open Schema

/- A value is a step, or it is told why it is none. -/
theorem StepDefinition.explains_check (v : Value) :
    (check v).Explains := by
  cases v with
  | object fields =>
      exact ((explains_required explains_text _ _).and <|
        (explains_optional explains_table _ _ _).and <|
        (explains_optional explains_text? _ _ _).and <|
        (explains_optional explains_text? _ _ _).and <|
        (explains_optional explains_text? _ _ _).and <|
        explains_only _ _).map _
  | _ => exact explains_broken _ _

namespace WorkflowDefinition

/- Fields are a definition, or it is told why they are none. -/
theorem explains_check (fields : List (String × Value)) :
    (check fields).Explains :=
  ((explains_required explains_text _ _).and <|
    (explains_required explains_text _ _).and <|
    (explains_optional explains_text _ _ _).and <|
    (explains_optional explains_truth _ _ _).and <|
    (explains_required (explains_someOf explains_text)
      _ _).and <|
    (explains_required explains_text _ _).and <|
    (explains_optional
      (explains_tableOf StepDefinition.explains_check)
      _ _ _).and <|
    explains_only _ _).map _

/- A value that is no definition has a problem of shape. -/
theorem problems_of_ofValue
    {v : Value}
    {failure : Failure}
    (hFails : ofValue v = .error failure) :
    ∃ id problems,
      failure = .workflowInvalid id problems ∧
        problems ≠ [] := by
  cases v with
  | object fields =>
      rw [ofValue, ofFields] at hFails
      cases hCheck : check fields with
      | ok d =>
          rw [hCheck] at hFails
          cases hFails
      | error problems =>
          rw [hCheck] at hFails
          cases hFails
          refine ⟨_, _, rfl, ?_⟩
          exact mt List.map_eq_nil_iff.mp
            (explains_check fields problems hCheck)
  | _ =>
      cases hFails
      exact ⟨_, _, rfl, List.cons_ne_nil _ _⟩

end WorkflowDefinition

end EventFlow
