import EventFlow.Proofs.Evolution
import EventFlow.Proofs.Loading
import EventFlow.Proofs.Registries

/-
  How an engine is used.

  Whatever is done with an engine, it is put to single uses
  of few kinds: a call registers a type, a workflow of a
  definition that is admitted gets a place, a handler is
  subscribed, a trigger of an active workflow is given to be
  bound, and so on.  A policy tells what is permitted.  What
  is known of every single use that is permitted is known of
  everything that is done with an engine under the policy.

  Key definitions include:
    * `Engine.Policy`
    * `Engine.Makes`
    * `Engine.Gives`
    * `Engine.Use`
    * `Engine.Used`
    * `Workflow.Becomes`

  Key theorems include:
    * `Engine.bindTrigger_attempt`
    * `Engine.types_of_use`
    * `Engine.makes_or_becomes_of_use`
    * `Engine.makes_of_buildAll`
    * `Engine.used_init`
    * `Engine.used_load`
    * `Engine.used_fire`
-/

------------------------------------------------------------
-- Uses
------------------------------------------------------------

namespace EventFlow

namespace Engine

/-
  What is permitted with an engine: which types may be
  registered, which data access may be put in the place of
  another, and whether the limit may be changed.
-/
structure Policy where
  triggers : TriggerType → Prop
  steps : StepType → Prop
  opens : DataAccess → Prop
  limits : Prop

/- The policy under which only some steps are permitted. -/
def Policy.only (allowed : StepType → Prop) : Policy where
  triggers := fun _ => True
  steps := allowed
  opens := fun _ => True
  limits := True

/- Whether the built-in types may be registered. -/
structure Policy.PermitsBuiltins (p : Policy) : Prop where
  triggers : ∀ type ∈ Builtin.triggers, p.triggers type
  steps : ∀ type ∈ Builtin.steps, p.steps type

/-
  Where only steps are restricted, the built-in types are
  permitted when the built-in steps are allowed.
-/
theorem Policy.permitsBuiltins_only
    {allowed : StepType → Prop}
    (hAllowed : ∀ type ∈ Builtin.steps, allowed type) :
    (Policy.only allowed).PermitsBuiltins :=
  ⟨fun _ _ => trivial, hAllowed⟩

variable [Surroundings]

/- Whether a call registers nothing that is not permitted. -/
def Policy.PermitsCall
    (p : Policy) : Registration → Prop
| .trigger i => ∀ type, i.trigger = .ok type → p.triggers type
| .step i => i.IsAllowed p.steps

/- Whether an engine builds a workflow of some definition. -/
def Makes
    (e : Engine)
    (w : Workflow) : Prop :=
  ∃ d, e.Admits d ∧ w = e.workflowOf d

/-
  Whether an engine may be given a step to execute: one that
  was made of a registered type, or without an engine.
-/
def Gives
    (e : Engine)
    (step : Step) : Prop :=
  step.isDetached = true ∨
    ∃ slug,
      e.stepTypes.lookup slug = some (.type step.type)

/- A single use of an engine under a policy. -/
inductive Use
    (p : Policy)
    (e : Engine) : Engine → Prop where
| told
    (notices : List Notice) :
    Use p e (hear notices e)
| silenced :
    Use p e e.silenced
| registered
    (call : Registration)
    (hPermitted : p.PermitsCall call) :
    Use p e (call.act e).2
| placed
    (w : Workflow)
    (hMakes : e.Makes w) :
    Use p e { e with built := e.built ++ [w] }
| added
    (place : Nat) :
    Use p e { e with added := e.added ++ [place] }
| subscribed
    (event : String)
    (number : Nat) :
    Use p e (subscribe event (.handler number) e).2
| unsubscribed
    (s : Subscription) :
    Use p e (unsubscribe s e).2
| attempted
    (place index : Nat)
    (w : Workflow)
    (t : Trigger)
    (hWorkflow : e.workflowAt? place = some w)
    (hActive : w.definition.active)
    (hTrigger : w.triggers[index]? = some t) :
    Use p e (bindTrigger place index t.type e).2
| walked
    (d : WorkflowDefinition)
    (trigger : TriggerType)
    (payload correlationId : Value) :
    Use p e
      { e with
        access :=
          ((e.walkOf d trigger payload correlationId).take
            e.access).access }
| executed
    (step : Step)
    (payload : Value)
    (hGives : e.Gives step) :
    Use p e
      { e with
        access := (step.execute payload e.access).access }
| logged
    (contact : Value)
    (log : ContactLog)
    (access : DataAccess)
    (hLogged : e.access.addLog contact log = .ok access) :
    Use p e { e with access := access }
| tagged
    (contact tags mode : Value)
    (access : DataAccess)
    (members : Value)
    (hTagged :
      e.access.updateTags contact tags mode =
        .ok (access, members)) :
    Use p e { e with access := access }
| opened
    (access : DataAccess)
    (hPermitted : p.opens access) :
    Use p e { e with access := access }
| limited
    (limit : Int)
    (hPermitted : p.limits) :
    Use p e { e with limit := limit }

/- Any number of single uses. -/
def Used (p : Policy) : Engine → Engine → Prop :=
  Relation.ReflTransGen (Use p)

instance (p : Policy) : IsPreorder Engine (Used p) where
  refl := fun _ => .refl
  trans := fun _ _ _ => .trans

variable {p : Policy}

/- A single use is a use. -/
theorem Use.used
    {e e' : Engine}
    (hUse : Use p e e') :
    Used p e e' :=
  .single hUse

theorem used_hear
    (e : Engine)
    (notices : List Notice) :
    Used p e (hear notices e) :=
  (Use.told notices).used

theorem used_tell (notice : Notice) :
    (tell notice).Keeps (Used p) :=
  fun e => used_hear e _

omit [Surroundings] in
/- A workflow that is made stays one with the same types. -/
theorem Makes.of_types
    {e e' : Engine}
    {w : Workflow}
    (hMakes : e.Makes w)
    (hTriggers : e'.triggerTypes = e.triggerTypes)
    (hSteps : e'.stepTypes = e.stepTypes) :
    e'.Makes w := by
  rcases hMakes with ⟨d, hAdmits, rfl⟩
  refine ⟨d, ⟨?_, hAdmits.initial, ?_⟩, ?_⟩
  · rw [hTriggers]
    exact hAdmits.triggers
  · rw [hSteps]
    exact hAdmits.steps
  · rw [workflowOf, workflowOf, typesOf, typesOf, hTriggers]

omit [Surroundings] in
/- A workflow that is made is new. -/
theorem Makes.isNew
    {e : Engine}
    {w : Workflow}
    (hMakes : e.Makes w) :
    w.IsNew := by
  rcases hMakes with ⟨d, -, rfl⟩
  exact isNew_workflowOf e d

end Engine

end EventFlow

------------------------------------------------------------
-- Attempts
------------------------------------------------------------

namespace EventFlow

namespace Trigger

/- A trigger that was given to be bound. -/
def attempted
    (place : Nat)
    (subscriptions : List Subscription)
    (isDone : Bool)
    (t : Trigger) : Trigger :=
  if isDone then
    t.bound place subscriptions
  else
    t.claimed place subscriptions

@[simp] theorem attempted_type
    (t : Trigger)
    (place : Nat)
    (begun : List Subscription)
    (isDone : Bool) :
    (t.attempted place begun isDone).type = t.type := by
  cases isDone with
  | true => rfl
  | false => rfl

end Trigger

namespace TriggerType

/- What a trigger comes to ask for when it is to be bound. -/
def heardRequests
    (type : TriggerType)
    (place index : Nat) : List Bus.Request :=
  type.heard.map fun event =>
    ⟨event, .trigger place index⟩

/- A type that can be heard comes to ask for all events. -/
theorem heardRequests_of_isAudible
    {type : TriggerType}
    (hAudible : type.IsAudible)
    {place index : Nat} :
    type.heardRequests place index =
      type.requests place index := by
  rw [heardRequests, type.heard_eq_events_iff.mpr hAudible]
  rfl

end TriggerType

namespace Engine

/-
  An attempt to bind a trigger begins a subscription to each
  event that the trigger comes to hear, and succeeds when it
  hears all of them.
-/
theorem bindTrigger_attempt
    (e : Engine)
    (place index : Nat)
    (type : TriggerType) :
    let requests := type.heardRequests place index
    ∃ outcome ns,
      (outcome.isOk ↔ type.IsAudible) ∧
        bindTrigger place index type e =
          (outcome,
            hear ns <|
              withTrigger place index
                (Trigger.attempted place
                  (Bus.numbered e.bus.issued requests)
                  outcome.isOk)
                { e with
                  bus := e.bus.extended requests }) := by
  by_cases hAudible : type.IsAudible
  · rcases bindTrigger_eq (e := e) hAudible place index with
      ⟨ns, hBind⟩
    refine ⟨.ok (), ns, ?_, ?_⟩
    · exact iff_of_true rfl hAudible
    · rw [TriggerType.heardRequests_of_isAudible hAudible]
      exact hBind
  · rcases bindTrigger_of_blank (e := e) hAudible place index
      with ⟨ns, hBind⟩
    refine ⟨.error .eventBlank, ns, ?_, hBind⟩
    exact iff_of_false Bool.false_ne_true hAudible

/- A workflow whose trigger is changed keeps its place. -/
theorem workflowAt?_withTrigger
    {e : Engine}
    {place : Nat}
    {w : Workflow}
    (hFound : e.workflowAt? place = some w)
    (index : Nat)
    (f : Trigger → Trigger) :
    (withTrigger place index f e).workflowAt? place =
      some (w.changeTrigger index f) := by
  unfold workflowAt? at hFound ⊢
  simp [withTrigger, changeWorkflow, hFound]

end Engine

end EventFlow

------------------------------------------------------------
-- Registration
------------------------------------------------------------

namespace EventFlow

namespace Engine

variable {p : Policy}

variable [Surroundings]

theorem used_registerTrigger
    {i : Identifier}
    (hPermitted :
      ∀ type, i.trigger = .ok type → p.triggers type) :
    (registerTrigger i).Keeps (Used p) :=
  fun _ => (Use.registered (.trigger i) hPermitted).used

theorem used_registerStep
    {i : Identifier}
    (hPermitted : i.IsAllowed p.steps) :
    (registerStep i).Keeps (Used p) :=
  fun _ => (Use.registered (.step i) hPermitted).used

theorem used_registerTriggers
    {types : List TriggerType}
    (hPermitted : ∀ type ∈ types, p.triggers type) :
    (registerTriggers types).Keeps (Used p) := by
  induction types with
  | nil => exact .pure ()
  | cons type types ih =>
      rw [List.forall_mem_cons] at hPermitted
      refine .bind (used_registerTrigger ?_) fun _ =>
        ih hPermitted.2
      intro found hFound
      cases hFound
      exact hPermitted.1

theorem used_registerSteps
    {types : List StepType}
    (hPermitted : ∀ type ∈ types, p.steps type) :
    (registerSteps types).Keeps (Used p) := by
  induction types with
  | nil => exact .pure ()
  | cons type types ih =>
      rw [List.forall_mem_cons] at hPermitted
      refine .bind (used_registerStep ?_) fun _ =>
        ih hPermitted.2
      intro found hFound
      cases hFound
      exact hPermitted.1

theorem used_registerBuiltins
    (hBuiltins : p.PermitsBuiltins) :
    registerBuiltins.Keeps (Used p) :=
  .bind (used_registerTriggers hBuiltins.triggers) fun _ =>
    used_registerSteps hBuiltins.steps

theorem used_furnish
    (hBuiltins : p.PermitsBuiltins)
    (withBuiltins : Bool) :
    (furnish withBuiltins).Keeps (Used p) := by
  have hCreated :
      tellCreated.Keeps (Used p) := by
    intro e
    exact used_hear e _
  cases withBuiltins with
  | false => exact hCreated
  | true =>
      exact .bind (used_registerBuiltins hBuiltins)
        fun _ => hCreated

end Engine

end EventFlow

------------------------------------------------------------
-- Building and Binding
------------------------------------------------------------

namespace EventFlow

namespace Engine

variable {p : Policy}

variable [Surroundings]

theorem used_build (d : WorkflowDefinition) :
    (build d).Keeps (Used p) := by
  intro e
  cases hProblems : e.problems d with
  | error failure =>
      rw [build_of_failure hProblems]
      exact .refl
  | ok problems =>
      cases problems with
      | nil =>
          rw [build_of_admits
            (problems_eq_nil_iff.mp hProblems)]
          exact .refl
      | cons problem problems =>
          rw [build_of_problems hProblems (by simp)]
          exact used_hear e _

omit [Surroundings] in
/- What an engine builds, it makes, and it stays the same. -/
theorem makes_of_build
    {d : WorkflowDefinition}
    {e e' : Engine}
    {w : Workflow}
    (hBuilt : build d e = (.ok w, e')) :
    e' = e ∧ e.Makes w := by
  rcases admits_of_build (congrArg Prod.fst hBuilt) with
    ⟨hAdmits, rfl⟩
  rw [build_of_admits hAdmits] at hBuilt
  cases hBuilt
  exact ⟨rfl, d, hAdmits, rfl⟩

theorem used_buildValue (v : Value) :
    (buildValue v).Keeps (Used p) :=
  .bind (.ofExcept _) fun d => used_build d

omit [Surroundings] in
theorem buildValue_leaves (v : Value) :
    (buildValue v).Leaves Makes := by
  intro e w e' hBuilt
  rcases Act.bind_eq_ok hBuilt with ⟨d, e₁, hRead, hBuild⟩
  rcases makes_of_build hBuild with ⟨rfl, hMakes⟩
  exact hMakes

theorem used_place
    {e : Engine}
    {w : Workflow}
    (hMakes : e.Makes w) :
    Used p e (place w e).2 :=
  (Use.placed w hMakes).used

theorem used_subscribe
    (event : String)
    (number : Nat) :
    (subscribe event (.handler number)).Keeps
      (Used p) :=
  fun _ => (Use.subscribed event number).used

theorem used_unsubscribe (s : Subscription) :
    (unsubscribe s).Keeps (Used p) :=
  fun _ => (Use.unsubscribed s).used

/-
  Triggers of an active workflow from an index on are bound
  in turn, until one of them fails.
-/
theorem used_bindTriggers
    {e : Engine}
    {place index : Nat}
    {w : Workflow}
    (hFound : e.workflowAt? place = some w)
    (hActive : w.definition.active)
    {types : List TriggerType}
    (hTypes :
      (w.triggers.drop index).map Trigger.type = types) :
    Used p e (bindTriggers place index types e).2 := by
  induction types generalizing e index w with
  | nil => exact .refl
  | cons type types ih =>
      rcases List.map_eq_cons_iff.mp hTypes with
        ⟨t, ts, hDrop, rfl, hRest⟩
      have hTrigger : w.triggers[index]? = some t := by
        rw [← List.head?_drop, hDrop, List.head?_cons]
      have hUse :
          Use p e
            (bindTrigger place index t.type e).2 :=
        .attempted place index w t hFound hActive hTrigger
      rcases bindTrigger_attempt e place index t.type with
        ⟨outcome, ns, -, hAttempt⟩
      rw [bindTriggers]
      cases outcome with
      | error failure =>
          rw [Act.bind_of_error hAttempt]
          rw [hAttempt] at hUse
          exact hUse.used
      | ok done =>
          rw [Act.bind_of_ok hAttempt]
          rw [hAttempt] at hUse
          refine hUse.used.trans (ih
            (workflowAt?_withTrigger hFound index _) hActive
            ?_)
          have hLater (f : Trigger → Trigger) :
              (w.triggers.modify index f).drop (index + 1) =
                ts := by
            rw [List.drop_modify_of_lt _ _ _ _
                (Nat.lt_succ_self index),
              ← List.tail_drop, hDrop, List.tail_cons]
          exact (congrArg (List.map Trigger.type)
            (hLater _)).trans hRest

theorem used_init (place : Nat) :
    (init place).Keeps (Used p) := by
  refine .look_then fun e => ?_
  cases hFound : e.workflowAt? place with
  | none => exact .refl
  | some w =>
      dsimp only
      by_cases hActive : w.definition.active
      · rw [if_pos hActive]
        exact used_bindTriggers hFound hActive rfl
      · rw [if_neg hActive]
        exact used_tell _ e

theorem used_initAll (places : List Nat) :
    (initAll places).Keeps (Used p) := by
  induction places with
  | nil => exact .pure ()
  | cons place places ih =>
      exact .bind (used_init place) fun _ => ih

theorem used_initAdded :
    initAdded.Keeps (Used p) :=
  .bind (.look _) fun places => used_initAll places

end Engine

end EventFlow

------------------------------------------------------------
-- Types
------------------------------------------------------------

namespace EventFlow

namespace Engine

variable {p : Policy}
variable {e e' : Engine}

/- To begin a subscription changes the bus and tells of it. -/
theorem exists_subscribe_eq
    (e : Engine)
    (event : String)
    (listener : Listener) :
    ∃ bus ns,
      (subscribe event listener e).2 =
        hear ns { e with bus := bus } := by
  unfold subscribe
  rw [Act.look_bind]
  cases e.bus.subscribe event listener with
  | error failure => exact ⟨e.bus, [], hear_nil.symm⟩
  | ok began => exact ⟨began.2, _, rfl⟩

/- Only a call that registers a type changes the types. -/
theorem types_of_use
    [Surroundings]
    (hUse : Use p e e') :
    (∃ call outcome, Registers e call outcome e') ∨
      e'.triggerTypes = e.triggerTypes ∧
        e'.stepTypes = e.stepTypes := by
  cases hUse with
  | registered call hPermitted =>
      exact .inl ⟨call, _, registers_act call⟩
  | subscribed event number =>
      rcases exists_subscribe_eq e event (.handler number)
        with ⟨bus, ns, hEngine⟩
      rw [hEngine]
      exact .inr ⟨rfl, rfl⟩
  | attempted place index w t hWorkflow hActive hTrigger =>
      rcases bindTrigger_attempt e place index t.type with
        ⟨outcome, ns, -, hAttempt⟩
      rw [hAttempt]
      exact .inr ⟨rfl, rfl⟩
  | _ => exact .inr ⟨rfl, rfl⟩

end Engine

end EventFlow

------------------------------------------------------------
-- What Becomes of Workflows
------------------------------------------------------------

namespace EventFlow

namespace Workflow

/- Whether a workflow became another by binding triggers. -/
structure Becomes (w w' : Workflow) : Prop where
  definition : w'.definition = w.definition
  types :
    w'.triggers.map Trigger.type =
      w.triggers.map Trigger.type

variable {w w' w'' : Workflow}

theorem Becomes.refl (w : Workflow) : w.Becomes w :=
  ⟨rfl, rfl⟩

theorem Becomes.trans
    (hFirst : w.Becomes w')
    (hThen : w'.Becomes w'') :
    w.Becomes w'' :=
  ⟨hThen.definition.trans hFirst.definition,
    hThen.types.trans hFirst.types⟩

/- A workflow becomes one whose trigger was changed. -/
theorem becomes_changeTrigger
    (w : Workflow)
    (index : Nat)
    {f : Trigger → Trigger}
    (hType : ∀ t, (f t).type = t.type) :
    w.Becomes (w.changeTrigger index f) := by
  refine ⟨rfl, List.ext_getElem? fun other => ?_⟩
  rw [List.getElem?_map, List.getElem?_map, changeTrigger,
    List.getElem?_modify]
  cases w.triggers[other]? with
  | none => rfl
  | some t =>
      refine congrArg some ?_
      dsimp only
      split
      · exact hType t
      · rfl

end Workflow

namespace Engine

variable {p : Policy}
variable {e e' : Engine}

/- A workflow with a changed trigger came of one before. -/
theorem becomes_of_mem_withTrigger
    {place index : Nat}
    {f : Trigger → Trigger}
    (hType : ∀ t, (f t).type = t.type)
    {w' : Workflow}
    (hMem : w' ∈ (withTrigger place index f e).built) :
    ∃ w ∈ e.built, w.Becomes w' := by
  rcases List.mem_iff_getElem?.mp hMem with ⟨i, hAt⟩
  rw [withTrigger, changeWorkflow, List.getElem?_modify]
    at hAt
  rcases Option.map_eq_some_iff.mp hAt with ⟨w, hFound, rfl⟩
  refine ⟨w, List.mem_of_getElem? hFound, ?_⟩
  split
  · exact w.becomes_changeTrigger index hType
  · exact .refl w

/- A workflow was made just now, or came of one before. -/
theorem makes_or_becomes_of_use
    [Surroundings]
    (hUse : Use p e e')
    {w' : Workflow}
    (hMem : w' ∈ e'.built) :
    e.Makes w' ∨ ∃ w ∈ e.built, w.Becomes w' := by
  cases hUse with
  | registered call hPermitted =>
      have hBuilt : (call.act e).2.built = e.built := by
        rcases hCalled : call.act e with ⟨outcome, e''⟩
        have hRegisters := registers_act (e := e) call
        rw [hCalled] at hRegisters
        cases hRegisters <;> rfl
      rw [hBuilt] at hMem
      exact .inr ⟨w', hMem, .refl w'⟩
  | placed w hMakes =>
      rcases List.mem_append.mp hMem with hOld | hNew
      · exact .inr ⟨w', hOld, .refl w'⟩
      · rw [List.mem_singleton.mp hNew]
        exact .inl hMakes
  | subscribed event number =>
      rcases exists_subscribe_eq e event (.handler number)
        with ⟨bus, ns, hEngine⟩
      rw [hEngine] at hMem
      exact .inr ⟨w', hMem, .refl w'⟩
  | attempted place index w t hWorkflow hActive hTrigger =>
      rcases bindTrigger_attempt e place index t.type with
        ⟨outcome, ns, -, hAttempt⟩
      rw [hAttempt] at hMem
      exact .inr (becomes_of_mem_withTrigger
        (fun t => t.attempted_type _ _ _) hMem)
  | _ => exact .inr ⟨w', hMem, .refl w'⟩

end Engine

end EventFlow

------------------------------------------------------------
-- Adding and Loading
------------------------------------------------------------

namespace EventFlow

namespace Engine

variable {p : Policy}

variable [Surroundings]

theorem used_add
    (place : Nat)
    (shouldInit : Bool) :
    (add place shouldInit).Keeps (Used p) := by
  refine .bind ?_ fun _ => .bind (.look _) fun w? => ?_
  · exact fun _ => (Use.added place).used
  cases w? with
  | none => exact .pure ()
  | some w =>
      refine .bind (used_tell _) fun _ => ?_
      cases shouldInit with
      | false => exact .pure ()
      | true => exact used_init place

/- A workflow that is built gets a place behind it. -/
theorem used_buildAndPlace (v : Value) :
    (buildValue v >>= place).Keeps (Used p) :=
  .bind_left (buildValue_leaves v) (used_buildValue v)
    fun _ _ hMakes => used_place hMakes

theorem used_buildAndAdd
    (v : Value)
    (shouldInit : Bool) :
    (buildAndAdd v shouldInit).Keeps (Used p) := by
  refine .bind_left (buildValue_leaves v)
    (used_buildValue v) fun e w hMakes => ?_
  have hLater :
      (add e.built.length shouldInit >>= fun _ =>
        Pure.pure e.built.length).Keeps (Used p) :=
    .bind (used_add _ _) fun _ => .pure _
  exact (used_place hMakes).trans (hLater _)

theorem used_buildAll (ds : List WorkflowDefinition) :
    (buildAll ds).Keeps (Used p) := by
  induction ds with
  | nil => exact .pure []
  | cons d ds ih =>
      refine .bind (used_build d) fun w => ?_
      exact .bind ih fun ws => .pure (w :: ws)

omit [Surroundings] in
theorem makes_of_buildAll
    {ds : List WorkflowDefinition}
    {e e' : Engine}
    {ws : List Workflow}
    (hBuilt : buildAll ds e = (.ok ws, e')) :
    e' = e ∧ ∀ w ∈ ws, e.Makes w := by
  induction ds generalizing ws with
  | nil =>
      cases hBuilt
      exact ⟨rfl, fun w hNone => by cases hNone⟩
  | cons d ds ih =>
      rcases Act.bind_eq_ok hBuilt with
        ⟨w, e₁, hBuild, hRest⟩
      rcases makes_of_build hBuild with ⟨rfl, hMakes⟩
      rcases Act.bind_eq_ok hRest with
        ⟨ws', e₂, hBuildAll, hPure⟩
      cases hPure
      rcases ih hBuildAll with ⟨rfl, hOthers⟩
      rw [List.forall_mem_cons]
      exact ⟨rfl, hMakes, hOthers⟩

omit [Surroundings] in
theorem buildAll_leaves (ds : List WorkflowDefinition) :
    (buildAll ds).Leaves fun e ws =>
      ∀ w ∈ ws, e.Makes w := by
  intro e ws e' hBuilt
  rcases makes_of_buildAll hBuilt with ⟨rfl, hMakes⟩
  exact hMakes

/- Workflows that an engine makes join it in order. -/
theorem used_joined
    {ws : List Workflow}
    {e : Engine}
    (hMakes : ∀ w ∈ ws, e.Makes w) :
    Used p e (e.joined ws) := by
  induction ws generalizing e with
  | nil =>
      have hSame : e.joined [] = e := by simp [joined]
      rw [hSame]
      exact .refl
  | cons w ws ih =>
      rw [List.forall_mem_cons] at hMakes
      have hFirst : Used p e (e.joined [w]) :=
        (used_place hMakes.1).trans
          (Use.added e.built.length).used
      have hRest :
          Used p (e.joined [w])
            ((e.joined [w]).joined ws) :=
        ih fun v hMem => (hMakes.2 v hMem).of_types rfl rfl
      have hOrder := joined_joined (e := e) [w] ws []
      rw [hear_nil, hear_nil] at hOrder
      rw [hOrder] at hRest
      exact hFirst.trans hRest

theorem used_load
    (entries : List Value)
    (path : Path)
    (shouldInit : Bool) :
    (load entries path shouldInit).Keeps
      (Used p) := by
  refine .bind (.ofExcept _) fun ds => ?_
  refine .bind_left (buildAll_leaves ds)
    (used_buildAll ds) fun e ws hMakes => ?_
  rcases addAll_eq (e := e) ws with ⟨ns, hAdd⟩
  rw [Act.bind_of_ok hAdd]
  refine ((used_joined hMakes).trans
    (used_hear _ ns)).trans ?_
  have hEnd (a : Act Engine Unit)
      (hKeeps : a.Keeps (Used p)) :
      (a >>= fun _ =>
        tell (.workflowsLoaded path.text ws.length
          shouldInit) >>= fun _ =>
            Pure.pure ws.length).Keeps (Used p) :=
    .bind hKeeps fun _ =>
      .bind (used_tell _) fun _ => .pure _
  cases shouldInit with
  | false => exact hEnd (Pure.pure ()) (.pure ()) _
  | true => exact hEnd _ (used_initAll _) _

theorem used_loadFile
    (files : Files)
    (path : Path)
    (shouldInit : Bool) :
    (loadFile files path shouldInit).Keeps
      (Used p) := by
  refine .bind ?_ fun entries =>
    used_load entries path shouldInit
  refine .bind (.ofExcept _) fun listing => ?_
  refine .bind ?_ fun _ => .pure _
  exact fun e => used_hear e _

end Engine

end EventFlow

------------------------------------------------------------
-- Running
------------------------------------------------------------

namespace EventFlow

namespace Engine

variable {p : Policy}

variable [Surroundings]

theorem used_execute
    (d : WorkflowDefinition)
    (trigger : TriggerType)
    (payload correlationId : Value) :
    (execute d trigger payload correlationId).Keeps
      (Used p) := by
  intro e
  have hWalked :=
    Use.walked (p := p) (e := e) d trigger payload correlationId
  exact hWalked.used.trans (used_hear _ _)

theorem used_fireTrigger
    (t : Trigger)
    (payload correlationId : Value) :
    (fireTrigger t payload correlationId).Keeps
      (Used p) := by
  refine .bind (.look _) fun owner? => ?_
  cases owner? with
  | none => exact .fail _
  | some w =>
      cases t.isBound with
      | false => exact .fail _
      | true => exact used_execute _ _ _ _

theorem used_fire
    (place index : Nat)
    (payload correlationId : Value) :
    (fire place index payload correlationId).Keeps
      (Used p) := by
  refine .bind (.look _) fun trigger? => ?_
  cases trigger? with
  | none => exact .fail _
  | some t => exact used_fireTrigger _ _ _

end Engine

end EventFlow
