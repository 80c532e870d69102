import EventFlow.Proofs.Acts
import EventFlow.Proofs.StepData

/-
  How a step can fail.

  What a step does with values and contacts fails for a few
  reasons only, and a step itself for a few more: a setting
  is missing or wrong, or there is no context to work in.
  The failures of looking up a step or a type are not among
  them.

  Key definitions include:
    * `Failure.isOfData`
    * `Failure.isOfStep`
    * `Failure.isTypeLookup`
    * `Failure.isLookup`
    * `Outcome.Within`

  Key theorems include:
    * `Outcome.Within.bind`
    * `DataAccess.within_updateTags`
    * `Step.within_execute`
    * `Failure.isTypeLookup_of_isOfStep`
    * `Failure.isInterrupt_of_isOfStep`
-/

------------------------------------------------------------
-- Kinds of Failures
------------------------------------------------------------

namespace EventFlow

namespace Failure

/-
  The failures of working with values and contacts.  What
  is raised there never asks to stop.
-/
def isOfData : Failure → Bool
| .accessMissing => true
| .tagModeUnknown _ => true
| .record _ _ => true
| .notHashable _ => true
| .notIterable _ => true
| .notUnpackable _ => true
| .notSearchable _ => true
| .notText _ => true
| .memberMissing _ _ => true
| .raised kind _ => !interruptKinds.contains kind
| _ => false

/- The failures of executing a step. -/
def isOfStep : Failure → Bool
| .operatorInvalid _ => true
| .operatorUnhandled _ => true
| .attributeMissing _ _ => true
| .attributeInvalid _ _ => true
| .contextMissing _ => true
| failure => failure.isOfData

/-
  Whether a failure is that of looking up a type of steps: of
  a slug without a type, or of an entry that is no type.
-/
def isTypeLookup : Failure → Bool
| .slugUnknown _ _ => true
| .stepUnusable _ => true
| _ => false

/-
  Whether a failure is that of a lookup: of a step that is
  not defined, or of a type of steps.
-/
def isLookup : Failure → Bool
| .keyUnknown _ => true
| failure => failure.isTypeLookup

theorem isOfStep_of_isOfData
    {failure : Failure}
    (hData : failure.isOfData = true) :
    failure.isOfStep = true := by
  cases failure <;> first | rfl | exact hData

/- No lookup asks to stop. -/
theorem isInterrupt_of_isLookup
    {failure : Failure}
    (hLookup : failure.isLookup = true) :
    failure.isInterrupt = false := by
  cases failure <;> first | rfl | cases hLookup

/- No step asks to stop. -/
theorem isInterrupt_of_isOfStep
    {failure : Failure}
    (hStep : failure.isOfStep = true) :
    failure.isInterrupt = false := by
  cases failure with
  | raised kind message =>
      simpa [isOfStep, isOfData, isInterrupt] using hStep
  | _ => rfl

end Failure

end EventFlow

------------------------------------------------------------
-- Outcomes Within a Kind
------------------------------------------------------------

namespace EventFlow

/- Whether an outcome can only be a failure of a kind. -/
def Outcome.Within
    {α : Type}
    (kind : Failure → Bool)
    (x : Except Failure α) : Prop :=
  ∀ failure, x = .error failure → kind failure = true

/- Whether an effect can only be a failure of a kind. -/
def Effect.Within
    (kind : Failure → Bool)
    (effect : Effect) : Prop :=
  ∀ failure,
    effect.failure? = some failure → kind failure = true

namespace Outcome.Within

variable {α β : Type}
variable {kind : Failure → Bool}

theorem ok (x : α) :
    Within kind (.ok x : Except Failure α) := by
  rintro failure ⟨⟩

theorem error
    {failure : Failure}
    (hKind : kind failure = true) :
    Within kind (.error failure : Except Failure α) := by
  rintro failure ⟨⟩
  exact hKind

theorem mono
    {kind' : Failure → Bool}
    {x : Except Failure α}
    (hWithin : Within kind x)
    (hMore :
      ∀ {failure},
        kind failure = true → kind' failure = true) :
    Within kind' x :=
  fun failure hFails => hMore (hWithin failure hFails)

theorem map
    {x : Except Failure α}
    (hWithin : Within kind x)
    (f : α → β) :
    Within kind (x.map f) :=
  fun failure hFails =>
    hWithin failure (map_eq_error hFails)

theorem bind
    {x : Except Failure α}
    {f : α → Except Failure β}
    (hWithin : Within kind x)
    (hThen : ∀ a, Within kind (f a)) :
    Within kind (x >>= f) := by
  cases x with
  | error failure => exact error (hWithin failure rfl)
  | ok a => exact hThen a

theorem mapM
    {f : α → Except Failure β}
    (hWithin : ∀ a, Within kind (f a))
    (xs : List α) :
    Within kind (xs.mapM f) := by
  induction xs with
  | nil => exact ok []
  | cons x xs ih =>
      rw [List.mapM_cons]
      exact (hWithin x).bind fun y =>
        ih.bind fun ys => ok (y :: ys)

end Outcome.Within

end EventFlow

------------------------------------------------------------
-- Values and Tags
------------------------------------------------------------

namespace EventFlow

open Outcome

theorem Value.within_key (v : Value) :
    Within Failure.isOfData v.key := by
  unfold Value.key
  split
  · exact .error rfl
  · exact .ok v

theorem Value.within_items (v : Value) :
    Within Failure.isOfData v.items := by
  unfold Value.items
  split
  · exact .ok _
  · exact .error rfl

namespace Tags

theorem within_members (vs : List Value) :
    Within Failure.isOfData (members vs) :=
  (Within.mapM Value.within_key vs).map Value.distinct

theorem within_replaced (tags : Value) :
    Within Failure.isOfData (replaced tags) := by
  have hItems := tags.within_items
  unfold replaced
  cases hParts : tags.items with
  | error failure => exact .error (hItems failure hParts)
  | ok vs => exact within_members vs

theorem within_appended
    (current : List Value)
    (tags : Value) :
    Within Failure.isOfData (appended current tags) := by
  unfold appended
  split
  · exact .error rfl
  · exact within_members _

theorem within_listed (tags tag : Value) :
    Within Failure.isOfData (listed tags tag) := by
  unfold listed
  split
  · exact .ok _
  · exact .ok _
  · split
    · exact .ok _
    · exact .error rfl
  · exact .error rfl

theorem within_removed
    (tags : Value)
    (current : List Value) :
    Within Failure.isOfData (removed tags current) := by
  induction current with
  | nil => exact .ok []
  | cons tag rest ih =>
      unfold removed
      have hListed := within_listed tags tag
      cases hTag : listed tags tag with
      | error failure => exact .error (hListed failure hTag)
      | ok isListed => exact ih.map _

theorem within_updated
    (mode : TagMode)
    (current : List Value)
    (tags : Value) :
    Within Failure.isOfData (updated mode current tags) := by
  cases mode with
  | replace => exact within_replaced tags
  | append => exact within_appended current tags
  | remove => exact within_removed tags current

end Tags

end EventFlow

------------------------------------------------------------
-- Contacts
------------------------------------------------------------

namespace EventFlow

open Outcome

theorem ContactLog.within_ofFields
    (fields : List (String × Value)) :
    Within Failure.isOfData (ContactLog.ofFields fields) := by
  unfold ContactLog.ofFields
  cases ContactLog.check fields with
  | error problems => exact .error rfl
  | ok log => exact .ok log

theorem ContactStore.within_updateTags
    (store : ContactStore)
    (contact tags mode : Value) :
    Within Failure.isOfData
      (store.updateTags contact tags mode) := by
  unfold ContactStore.updateTags
  split
  · exact .error rfl
  · rename_i mode hMode
    have hUpdated :=
      Tags.within_updated mode (store.tagsOf contact) tags
    split
    · rename_i failure hTags
      exact .error (hUpdated failure hTags)
    · exact .ok _

namespace DataAccess

theorem within_addLog
    (contact : Value)
    (log : ContactLog)
    (access : DataAccess) :
    Within Failure.isOfData (access.addLog contact log) := by
  cases access with
  | none => exact .error rfl
  | contacts store => exact .ok _
  | recorder calls => exact .ok _
  | refusing => exact .error rfl

theorem within_updateTags
    (contact tags mode : Value)
    (access : DataAccess) :
    Within Failure.isOfData
      (access.updateTags contact tags mode) := by
  cases access with
  | none => exact .error rfl
  | contacts store =>
      exact (store.within_updateTags _ _ _).map _
  | recorder calls => exact .ok _
  | refusing => exact .error rfl

end DataAccess

namespace FieldCondition

theorem within_actual?
    (payload field : Value) :
    Within Failure.isOfData (actual? payload field) := by
  unfold actual?
  split
  · exact .ok none
  · split
    · refine Within.map ?_ _
      unfold lookup
      split
      · exact .ok _
      · exact (Value.within_key _).map _
    · exact .ok none

end FieldCondition

end EventFlow

------------------------------------------------------------
-- Settings of Steps
------------------------------------------------------------

namespace EventFlow

open Outcome

theorem FieldCondition.within_evaluate
    (operator actual expected : Value) :
    Within Failure.isOfStep
      (evaluate operator actual expected) := by
  unfold evaluate
  split
  · exact .ok _
  · exact .ok _
  · exact .ok _
  · exact .ok _
  · exact .error rfl

namespace Step

variable (s : Step)

theorem within_require (name : String) :
    Within Failure.isOfStep (s.require name) := by
  unfold require
  split
  · exact .ok _
  · exact .error rfl

theorem within_comparisonSettings :
    Within Failure.isOfStep s.comparisonSettings := by
  unfold comparisonSettings
  split
  · rename_i failure hField
    exact .error (s.within_require _ failure hField)
  · split
    · rename_i failure hOperator
      exact .error (s.within_require _ failure hOperator)
    · exact (s.within_require _).map _

theorem within_contact (payload : Value) :
    Within Failure.isOfStep (s.contact payload) := by
  unfold contact
  split
  · split
    · exact .error rfl
    · exact .ok _
  · exact .ok _

theorem within_contactLog :
    Within Failure.isOfStep s.contactLog := by
  unfold contactLog
  split
  · rename_i failure hType
    exact .error (s.within_require _ failure hType)
  · exact (ContactLog.within_ofFields _).mono
      Failure.isOfStep_of_isOfData

theorem within_tagSettings :
    Within Failure.isOfStep s.tagSettings := by
  unfold tagSettings
  split
  · rename_i failure hMode
    exact .error (s.within_require _ failure hMode)
  · split
    · exact .error rfl
    · split
      · rename_i failure hTags
        exact .error (s.within_require _ failure hTags)
      · exact .ok _
      · exact ((Value.within_items _).map _).mono
          Failure.isOfStep_of_isOfData

end Step

end EventFlow

------------------------------------------------------------
-- Execution
------------------------------------------------------------

namespace EventFlow

open Outcome

namespace Step

variable (s : Step)
variable (access : DataAccess)
variable (traces : List TraceEntry)

theorem within_failing
    {failure : Failure}
    (hKind : failure.isOfStep = true) :
    (s.failing access traces failure).Within
      Failure.isOfStep := by
  rintro failure ⟨⟩
  exact hKind

theorem within_deciding (met : Bool) :
    (s.deciding access traces met).Within
      Failure.isOfStep := by
  rintro failure ⟨⟩

theorem within_accessing :
    (s.accessing access traces).Within
      Failure.isOfStep := by
  rintro failure ⟨⟩

/- A use of the data access fails as this does, or for want of it. -/
theorem within_applying
    {used : Except Failure DataAccess}
    (hUsed : Within Failure.isOfData used) :
    (s.applying access traces used).Within
      Failure.isOfStep := by
  unfold applying reach
  split
  · rename_i failure hReach
    split at hReach
    · cases hReach
      exact s.within_failing _ _ rfl
    · exact s.within_failing _ _
        (Failure.isOfStep_of_isOfData (hUsed failure hReach))
  · exact s.within_accessing _ _

theorem within_compareValue
    (field operator value actual : Value) :
    (s.compareValue access field operator value
      actual).Within Failure.isOfStep := by
  unfold compareValue
  split
  · split
    · rename_i failure hMet
      exact s.within_failing _ _
        (FieldCondition.within_evaluate _ _ _ failure hMet)
    · exact s.within_deciding _ _ _
  · exact s.within_failing _ _ rfl

theorem within_compareField
    (subject : String)
    (payload : Value) :
    (s.compareField subject payload access).Within
      Failure.isOfStep := by
  unfold compareField
  split
  · rename_i failure hSettings
    exact s.within_failing _ _
      (s.within_comparisonSettings failure hSettings)
  · split
    · rename_i failure hActual
      exact s.within_failing _ _
        (Failure.isOfStep_of_isOfData
          (FieldCondition.within_actual? _ _ failure hActual))
    · exact s.within_deciding _ _ _
    · exact s.within_compareValue _ _ _ _ _

theorem within_addContactLog (payload : Value) :
    (s.addContactLog payload access).Within
      Failure.isOfStep := by
  unfold addContactLog
  split
  · rename_i failure hContact
    exact s.within_failing _ _
      (s.within_contact _ failure hContact)
  · split
    · rename_i failure hLog
      exact s.within_failing _ _
        (s.within_contactLog failure hLog)
    · exact s.within_applying _ _ (access.within_addLog _ _)

theorem within_changeContactTags (payload : Value) :
    (s.changeContactTags payload access).Within
      Failure.isOfStep := by
  unfold changeContactTags
  split
  · rename_i failure hContact
    exact s.within_failing _ _
      (s.within_contact _ failure hContact)
  · split
    · rename_i failure hTags
      exact s.within_failing _ _
        (s.within_tagSettings failure hTags)
    · exact s.within_applying _ _
        ((access.within_updateTags _ _ _).map _)

/-
  A step that its type brings no body for fails only with the
  failure of a step.
-/
theorem within_execute
    [Surroundings]
    (hOwn : s.type.behavior.isForeign = false)
    (payload : Value) :
    (s.execute payload access).Within Failure.isOfStep := by
  unfold execute
  split
  · exact s.within_compareField _ _ _
  · exact s.within_addContactLog _ _
  · exact s.within_changeContactTags _ _
  · rename_i hForeign
    rw [hForeign] at hOwn
    cases hOwn

end Step

end EventFlow
