import EventFlow.Engine.Creation
import EventFlow.Engine.Dispatch
import EventFlow.Engine.Loading
import EventFlow.Proofs.Validation
import Mathlib.Logic.Relation

/-
  What can become of an engine.

  Whatever is done with an engine, it changes in single
  changes of few kinds.  A property of engines that no
  single change destroys holds for as long as the engine is
  used.

  Key definitions include:
    * `Workflow.IsNew`
    * `Engine.Change`
    * `Engine.Evolves`
    * `Engine.Holds`

  Key theorems include:
    * `Engine.build_ensures_isNew`
    * `Engine.evolves_bindTrigger`
    * `Engine.triggerType_of_evolves`
    * `Engine.holds_of_evolves`
-/

------------------------------------------------------------
-- Single Changes
------------------------------------------------------------

namespace EventFlow

/- Whether no trigger of a workflow was used yet. -/
def Workflow.IsNew (w : Workflow) : Prop :=
  ∀ t ∈ w.triggers, t = { type := t.type }

/-
  Whether an identifier of a type of steps stands for an
  allowed type, if it stands for one.
-/
def Identifier.IsAllowed
    [Surroundings]
    (allowed : StepType → Prop)
    (i : Identifier) : Prop :=
  ∀ type, i.step = .ok type → allowed type

namespace Engine

/-
  A single change of an engine, where only allowed types of
  steps are registered.
-/
inductive Change
    (allowed : StepType → Prop) :
    Engine → Engine → Prop where
| told
    (e : Engine)
    (notices : List Notice) :
    Change allowed e (hear notices e)
| silenced
    (e : Engine) :
    Change allowed e e.silenced
| accessed
    (e : Engine)
    (access : DataAccess) :
    Change allowed e { e with access := access }
| limited
    (e : Engine)
    (limit : Int) :
    Change allowed e { e with limit := limit }
| triggerRegistered
    (e : Engine)
    (slug : String)
    (type : TriggerType)
    (hFree : e.triggerTypes.lookup slug = none) :
    Change allowed e
      { e with
        triggerTypes := Entries.put slug type e.triggerTypes }
| stepRegistered
    (e : Engine)
    (slug : String)
    (type : StepType)
    (notices : List Notice)
    (hAllowed : allowed type)
    (hReplaces :
      replacing e.isStrict slug type
        (e.stepTypes.lookup slug) = .ok notices) :
    Change allowed e
      { e with
        stepTypes :=
          Entries.put slug (.type type) e.stepTypes }
| placed
    (e : Engine)
    (w : Workflow)
    (hNew : w.IsNew) :
    Change allowed e { e with built := e.built ++ [w] }
| added
    (e : Engine)
    (place : Nat) :
    Change allowed e { e with added := e.added ++ [place] }
| subscribed
    (e : Engine)
    (event : String)
    (listener : Listener)
    (subscription : Subscription)
    (bus : Bus)
    (hBegan :
      e.bus.subscribe event listener =
        .ok (subscription, bus)) :
    Change allowed e { e with bus := bus }
| unsubscribed
    (e : Engine)
    (s : Subscription) :
    Change allowed e
      { e with bus := (e.bus.unsubscribe s).2 }
| triggerChanged
    (e : Engine)
    (place index : Nat)
    (f : Trigger → Trigger)
    (hType : ∀ t, (f t).type = t.type) :
    Change allowed e
      (changeWorkflow place (·.changeTrigger index f) e)

/- Any number of single changes. -/
def Evolves
    (allowed : StepType → Prop) : Engine → Engine → Prop :=
  Relation.ReflTransGen (Change allowed)

instance (allowed : StepType → Prop) :
    IsPreorder Engine (Evolves allowed) where
  refl := fun _ => .refl
  trans := fun _ _ _ => .trans

variable {allowed : StepType → Prop}

/- A single change is an evolution. -/
theorem Change.evolves
    {e e' : Engine}
    (hChange : Change allowed e e') :
    Evolves allowed e e' :=
  .single hChange

/- An act that makes a single change. -/
theorem evolves_change
    {f : Engine → Engine}
    (hChange : ∀ e, Change allowed e (f e)) :
    (Act.change f).Keeps (Evolves allowed) :=
  fun e => (hChange e).evolves

end Engine

end EventFlow

------------------------------------------------------------
-- New Workflows
------------------------------------------------------------

namespace EventFlow

namespace Engine

/- The workflow of a definition is new. -/
theorem isNew_workflowOf
    (e : Engine)
    (d : WorkflowDefinition) :
    (e.workflowOf d).IsNew := by
  intro t hTrigger
  rcases List.mem_map.mp hTrigger with ⟨type, -, rfl⟩
  rfl

/- A workflow that is built is new. -/
theorem build_ensures_isNew (d : WorkflowDefinition) :
    (build d).Ensures Workflow.IsNew := by
  intro e w e' hBuilt
  rcases admits_of_build (congrArg Prod.fst hBuilt) with
    ⟨-, rfl⟩
  exact isNew_workflowOf e d

end Engine

end EventFlow

------------------------------------------------------------
-- Binding
------------------------------------------------------------

namespace EventFlow

namespace Engine

variable {allowed : StepType → Prop}

theorem evolves_subscribe
    (event : String)
    (listener : Listener) :
    (subscribe event listener).Keeps (Evolves allowed) := by
  intro e
  unfold subscribe
  rw [Act.look_bind]
  cases hBegan : e.bus.subscribe event listener with
  | error failure => exact .refl
  | ok began =>
      rcases began with ⟨subscription, bus⟩
      have hChange :
          Change allowed e { e with bus := bus } :=
        .subscribed e event listener subscription bus hBegan
      exact hChange.evolves.trans (Change.told _ _).evolves

theorem evolves_changeTrigger
    (place index : Nat)
    {f : Trigger → Trigger}
    (hType : ∀ t, (f t).type = t.type) :
    (changeTrigger place index f).Keeps
      (Evolves allowed) :=
  evolves_change fun e =>
    .triggerChanged e place index f hType

theorem evolves_listen
    (place index : Nat)
    (events : List String) :
    (listen place index events).Keeps (Evolves allowed) := by
  induction events with
  | nil => exact .pure ()
  | cons event events ih =>
      refine .bind (evolves_subscribe _ _) fun s => ?_
      refine .bind ?_ fun _ => ih
      exact evolves_changeTrigger _ _ fun _ => rfl

theorem evolves_tellBound (place index : Nat) :
    (tellBound place index).Keeps (Evolves allowed) := by
  intro e
  unfold tellBound
  split
  · exact (Change.told e _).evolves
  · exact .refl

theorem evolves_bindTrigger
    (place index : Nat)
    (type : TriggerType) :
    (bindTrigger place index type).Keeps
      (Evolves allowed) := by
  refine .bind (evolves_changeTrigger _ _ fun _ => rfl)
    fun _ => ?_
  refine .bind (evolves_listen _ _ _) fun _ => ?_
  refine .bind (evolves_changeTrigger _ _ fun _ => rfl)
    fun _ => ?_
  exact evolves_tellBound _ _

end Engine

end EventFlow

------------------------------------------------------------
-- Registered Types
------------------------------------------------------------

namespace EventFlow

namespace Engine

/- Whether only allowed types of steps are registered. -/
def Holds
    (allowed : StepType → Prop)
    (e : Engine) : Prop :=
  ∀ slug entry,
    e.stepTypes.lookup slug = some entry →
      ∃ type, entry = .type type ∧ allowed type

variable {allowed : StepType → Prop}
variable {e e' : Engine}

/- An engine without types of steps holds allowed ones. -/
theorem holds_of_empty
    (hEmpty : e.stepTypes = []) :
    e.Holds allowed := by
  intro slug entry hEntry
  rw [hEmpty] at hEntry
  cases hEntry

theorem holds_of_change
    (hChange : Change allowed e e')
    (hHolds : e.Holds allowed) :
    e'.Holds allowed := by
  cases hChange with
  | stepRegistered slug type notices hAllowed hReplaces =>
      intro other entry hEntry
      by_cases hSame : other = slug
      · subst hSame
        rw [Entries.lookup_put_self] at hEntry
        cases hEntry
        exact ⟨type, rfl, hAllowed⟩
      · rw [Entries.lookup_put_of_ne hSame] at hEntry
        exact hHolds other entry hEntry
  | _ => exact hHolds

/- A type of triggers that is registered is never replaced. -/
theorem triggerType_of_change
    (hChange : Change allowed e e')
    {slug : String}
    {type : TriggerType}
    (hType : e.triggerTypes.lookup slug = some type) :
    e'.triggerTypes.lookup slug = some type := by
  cases hChange with
  | triggerRegistered other registered hFree =>
      have hNe : slug ≠ other := by
        intro hSame
        rw [hSame, hFree] at hType
        cases hType
      dsimp only
      rw [Entries.lookup_put_of_ne hNe]
      exact hType
  | _ => exact hType

theorem triggerType_of_evolves
    (hEvolves : Evolves allowed e e')
    {slug : String}
    {type : TriggerType}
    (hType : e.triggerTypes.lookup slug = some type) :
    e'.triggerTypes.lookup slug = some type := by
  induction hEvolves with
  | refl => exact hType
  | tail _ hChange ih => exact triggerType_of_change hChange ih

/- What holds allowed types holds no others later. -/
theorem holds_of_evolves
    (hEvolves : Evolves allowed e e')
    (hHolds : e.Holds allowed) :
    e'.Holds allowed := by
  induction hEvolves with
  | refl => exact hHolds
  | tail _ hChange ih => exact holds_of_change hChange ih

end Engine

end EventFlow
