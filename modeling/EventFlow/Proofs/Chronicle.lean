import EventFlow.Proofs.Subscriptions
import EventFlow.Proofs.Usage

/-
  Chronicles of engines.

  However an engine is used, it lives through turns of few
  kinds: a handler is subscribed, a subscription is ended, a
  trigger of an active workflow is given to be bound, or
  something is done that touches neither the bus nor a
  trigger.  Each turn has its deeds, and a chronicle holds
  the deeds of turns in order.

  Key definitions include:
    * `Deed`
    * `Engine.Turn`
    * `Engine.Chronicle`
    * `Engine.Lives`

  Key theorems include:
    * `Engine.evolves_of_lives`
    * `Engine.lives_of_registers`
    * `Engine.lives_of_used`
-/

------------------------------------------------------------
-- Deeds
------------------------------------------------------------

namespace EventFlow

/-
  What happens to subscriptions and triggers: a subscription
  begins, a subscription ends, or the trigger at an index of
  the workflow at a place is bound.
-/
inductive Deed where
| began (s : Subscription)
| ended (s : Subscription)
| bound (place index : Nat)
deriving DecidableEq

namespace Deed

/- A subscription that begins. -/
def beginning? : Deed → Option Subscription
| .began s => some s
| _ => none

/- A subscription that ends. -/
def ending? : Deed → Option Subscription
| .ended s => some s
| _ => none

/- What was begun, in order. -/
def allBegun (deeds : List Deed) : List Subscription :=
  deeds.filterMap beginning?

/- What was ended, in order. -/
def allEnded (deeds : List Deed) : List Subscription :=
  deeds.filterMap ending?

/-
  The deeds of an attempt to bind a trigger: what it began,
  and that the trigger was bound if it was done.
-/
def ofAttempt
    (place index : Nat)
    (begun : List Subscription)
    (isDone : Bool) : List Deed :=
  begun.map .began ++
    if isDone then [.bound place index] else []

/- What was begun for a trigger, in order. -/
def begunFor
    (place index : Nat)
    (deeds : List Deed) : List Subscription :=
  (allBegun deeds).filter fun s =>
    s.listener = .trigger place index

end Deed

end EventFlow

------------------------------------------------------------
-- Turns
------------------------------------------------------------

namespace EventFlow

namespace Engine

/-
  The deeds of an attempt to bind a trigger, which is done
  when it succeeds and begins what is live only behind it.
-/
def bindingDeeds
    (place index : Nat)
    (e : Engine)
    (attempt : Except Failure Unit × Engine) : List Deed :=
  Deed.ofAttempt place index
    (attempt.2.bus.live.drop e.bus.live.length)
    attempt.1.isOk

/- A turn of an engine, with its deeds. -/
inductive Turn
    (allowed : StepType → Prop) :
    Engine → List Deed → Engine → Prop where
| quiet
    {e e' : Engine}
    (hChange : Change allowed e e')
    (hBus : e'.bus = e.bus)
    (hBuilt :
      ∃ ws,
        (∀ w ∈ ws, w.IsNew) ∧ e'.built = e.built ++ ws) :
    Turn allowed e [] e'
| attempted
    (e : Engine)
    (place index : Nat)
    (w : Workflow)
    (t : Trigger)
    (hWorkflow : e.workflowAt? place = some w)
    (hActive : w.definition.active)
    (hTrigger : w.triggers[index]? = some t) :
    Turn allowed e
      (bindingDeeds place index e
        (bindTrigger place index t.type e))
      (bindTrigger place index t.type e).2
| subscribed
    (e : Engine)
    (event : String)
    (number : Nat)
    (s : Subscription)
    (bus : Bus)
    (hBegan :
      e.bus.subscribe event (.handler number) =
        .ok (s, bus)) :
    Turn allowed e [.began s] { e with bus := bus }
| unsubscribed
    (e : Engine)
    (s : Subscription) :
    Turn allowed e ((e.bus.ending s).map .ended)
      { e with bus := (e.bus.unsubscribe s).2 }

/- The deeds of any number of turns. -/
inductive Chronicle
    (allowed : StepType → Prop)
    (e : Engine) :
    List Deed → Engine → Prop where
| here : Chronicle allowed e [] e
| turned
    {deeds more : List Deed}
    {e' e'' : Engine}
    (hBefore : Chronicle allowed e deeds e')
    (hTurn : Turn allowed e' more e'') :
    Chronicle allowed e (deeds ++ more) e''

/- Any number of turns, whatever their deeds. -/
def Lives
    (allowed : StepType → Prop)
    (e e' : Engine) : Prop :=
  ∃ deeds, Chronicle allowed e deeds e'

variable {allowed : StepType → Prop}
variable {e e' e'' : Engine}

/- A chronicle is continued by another. -/
theorem Chronicle.append
    {deeds more : List Deed}
    (hBefore : Chronicle allowed e deeds e')
    (hAfter : Chronicle allowed e' more e'') :
    Chronicle allowed e (deeds ++ more) e'' := by
  induction hAfter with
  | here =>
      rw [List.append_nil]
      exact hBefore
  | turned _ hTurn ih =>
      rw [← List.append_assoc]
      exact ih.turned hTurn

instance (allowed : StepType → Prop) :
    IsPreorder Engine (Lives allowed) where
  refl := fun _ => ⟨[], .here⟩
  trans := fun _ _ _ ⟨deeds, hFirst⟩ ⟨more, hThen⟩ =>
    ⟨deeds ++ more, hFirst.append hThen⟩

theorem Lives.refl (e : Engine) : Lives allowed e e :=
  ⟨[], .here⟩

theorem Lives.trans
    (hFirst : Lives allowed e e')
    (hThen : Lives allowed e' e'') :
    Lives allowed e e'' :=
  IsTrans.trans _ _ _ hFirst hThen

/- A turn is lived through. -/
theorem Turn.lives
    {deeds : List Deed}
    (hTurn : Turn allowed e deeds e') :
    Lives allowed e e' :=
  ⟨[] ++ deeds, Chronicle.here.turned hTurn⟩

/- A change that leaves the bus and what was built. -/
theorem Change.lives
    (hChange : Change allowed e e')
    (hBus : e'.bus = e.bus)
    (hBuilt : e'.built = e.built) :
    Lives allowed e e' := by
  refine (Turn.quiet hChange hBus ⟨[], by simp, ?_⟩).lives
  rw [hBuilt, List.append_nil]

/- What an engine lives through, it evolves through. -/
theorem evolves_of_lives
    (hLives : Lives allowed e e') :
    Evolves allowed e e' := by
  rcases hLives with ⟨deeds, hChronicle⟩
  induction hChronicle with
  | here => exact .refl
  | turned _ hTurn ih =>
      refine ih.trans ?_
      cases hTurn with
      | quiet hChange hBus hBuilt => exact hChange.evolves
      | attempted place index w t hWorkflow hActive
          hTrigger =>
          exact evolves_bindTrigger place index t.type _
      | subscribed event number s bus hBegan =>
          exact (Change.subscribed _ event (.handler number) s
            bus hBegan).evolves
      | unsubscribed s =>
          exact (Change.unsubscribed _ s).evolves

end Engine

end EventFlow

------------------------------------------------------------
-- Uses
------------------------------------------------------------

namespace EventFlow

namespace Engine

variable {allowed : StepType → Prop}
variable {e e' : Engine}

theorem lives_hear
    (e : Engine)
    (notices : List Notice) :
    Lives allowed e (hear notices e) :=
  (Change.told e notices).lives rfl rfl

variable [Surroundings]

/- A call that registers a type touches no trigger. -/
theorem lives_of_registers
    {call : Registration}
    {outcome : Except Failure String}
    (hRegisters : Registers e call outcome e')
    (hAllowed :
      ∀ i, call = .step i → i.IsAllowed allowed) :
    Lives allowed e e' := by
  cases hRegisters with
  | refused call failure => exact .refl e
  | @trigger i type slug hType hSlug hFree =>
      have hPut :
          Change allowed e
            { e with
              triggerTypes :=
                Entries.put slug type e.triggerTypes } :=
        .triggerRegistered e slug type hFree
      exact (hPut.lives rfl rfl).trans (lives_hear _ _)
  | @step i type slug notices hType hSlug hReplaces =>
      have hPut :=
        Change.stepRegistered (hear notices e) slug type
          notices (hAllowed i rfl type hType) hReplaces
      have hTold : Lives allowed e (hear notices e) :=
        lives_hear e notices
      exact (hTold.trans (hPut.lives rfl rfl)).trans
        (lives_hear _ _)

omit [Surroundings] in
theorem lives_subscribe
    (event : String)
    (number : Nat) :
    (subscribe event (.handler number)).Keeps
      (Lives allowed) := by
  intro e
  unfold subscribe
  rw [Act.look_bind]
  cases hBegan : e.bus.subscribe event (.handler number) with
  | error failure => exact .refl e
  | ok began =>
      rcases began with ⟨subscription, bus⟩
      have hTurn :
          Turn allowed e [.began subscription]
            { e with bus := bus } :=
        .subscribed e event number subscription bus hBegan
      exact hTurn.lives.trans (lives_hear _ _)

/- A permitted call registers allowed steps only. -/
theorem isAllowed_of_permitsCall
    {p : Policy}
    {call : Registration}
    (hPermitted : p.PermitsCall call) :
    ∀ i, call = .step i → i.IsAllowed p.steps := by
  intro i hCall
  subst hCall
  exact hPermitted

/- A single use is lived through. -/
theorem lives_of_use
    {p : Policy}
    (hUse : Use p e e') :
    Lives p.steps e e' := by
  have hAccessed (access : DataAccess) :
      Lives p.steps e { e with access := access } :=
    (Change.accessed e access).lives rfl rfl
  cases hUse with
  | told notices => exact lives_hear e notices
  | silenced => exact (Change.silenced e).lives rfl rfl
  | registered call hPermitted =>
      exact lives_of_registers (registers_act call)
        (isAllowed_of_permitsCall hPermitted)
  | placed w hMakes =>
      refine (Turn.quiet (Change.placed e w hMakes.isNew) rfl
        ⟨[w], ?_, rfl⟩).lives
      rw [List.forall_mem_singleton]
      exact hMakes.isNew
  | added place => exact (Change.added e place).lives rfl rfl
  | subscribed event number => exact lives_subscribe _ _ e
  | unsubscribed s => exact (Turn.unsubscribed e s).lives
  | attempted place index w t hWorkflow hActive hTrigger =>
      exact (Turn.attempted e place index w t hWorkflow
        hActive hTrigger).lives
  | walked d trigger payload correlationId =>
      exact hAccessed _
  | executed step payload hGives => exact hAccessed _
  | logged contact log access hLogged => exact hAccessed _
  | tagged contact tags mode access members hTagged =>
      exact hAccessed _
  | opened access hPermitted => exact hAccessed _
  | limited limit hPermitted =>
      exact (Change.limited e limit).lives rfl rfl

/- However an engine is used, it lives on. -/
theorem lives_of_used
    {p : Policy}
    (hUsed : Used p e e') :
    Lives p.steps e e' := by
  induction hUsed with
  | refl => exact .refl e
  | tail _ hUse ih => exact ih.trans (lives_of_use hUse)

theorem lives_registerBuiltins
    (hAllowed : ∀ type ∈ Builtin.steps, allowed type) :
    registerBuiltins.Keeps (Lives allowed) :=
  fun e => lives_of_used (used_registerBuiltins
    (Policy.permitsBuiltins_only hAllowed) e)

end Engine

end EventFlow
