import EventFlow.Proofs.Chronicle

/-
  Engines that accord with a chronicle.

  The deeds of a chronicle tell what its engine holds.  The
  bus has begun and ended what the deeds began and ended.  A
  trigger keeps what was begun for it, and is bound if the
  deeds bound it: then it belongs to the workflow at its
  place, which is active, and has heard each of its events
  once for each time.

  Key definitions include:
    * `Deed.Spares`
    * `Trigger.Accords`
    * `Engine.Accords`

  Key theorems include:
    * `Engine.bindTrigger_deeds`
    * `Engine.history_of_turn`
    * `Engine.history_of_chronicle`
    * `Engine.accords_of_turn`
    * `Engine.accords_of_chronicle`
-/

------------------------------------------------------------
-- Deeds
------------------------------------------------------------

namespace EventFlow

namespace Deed

variable {place index : Nat}
variable {deeds more : List Deed}

@[simp] theorem allBegun_append :
    allBegun (deeds ++ more) =
      allBegun deeds ++ allBegun more :=
  List.filterMap_append

@[simp] theorem allEnded_append :
    allEnded (deeds ++ more) =
      allEnded deeds ++ allEnded more :=
  List.filterMap_append

@[simp] theorem begunFor_append :
    begunFor place index (deeds ++ more) =
      begunFor place index deeds ++
        begunFor place index more := by
  simp [begunFor]

@[simp] theorem allBegun_map_began (ss : List Subscription) :
    allBegun (ss.map .began) = ss := by
  rw [allBegun, List.filterMap_map]
  exact List.filterMap_some

@[simp] theorem allEnded_map_began (ss : List Subscription) :
    allEnded (ss.map .began) = [] := by
  simp [allEnded, ending?]

@[simp] theorem allBegun_map_ended (ss : List Subscription) :
    allBegun (ss.map .ended) = [] := by
  simp [allBegun, beginning?]

@[simp] theorem allEnded_map_ended (ss : List Subscription) :
    allEnded (ss.map .ended) = ss := by
  rw [allEnded, List.filterMap_map]
  exact List.filterMap_some

@[simp] theorem allBegun_ofAttempt
    (begun : List Subscription)
    (isDone : Bool) :
    allBegun (ofAttempt place index begun isDone) =
      begun := by
  rw [ofAttempt, allBegun_append, allBegun_map_began]
  cases isDone with
  | true => exact List.append_nil begun
  | false => exact List.append_nil begun

@[simp] theorem allEnded_ofAttempt
    (begun : List Subscription)
    (isDone : Bool) :
    allEnded (ofAttempt place index begun isDone) = [] := by
  rw [ofAttempt, allEnded_append, allEnded_map_began]
  cases isDone with
  | true => rfl
  | false => rfl

/-
  Whether deeds spare a trigger: nothing is begun for it,
  and it is not bound.
-/
def Spares
    (place index : Nat)
    (deeds : List Deed) : Prop :=
  begunFor place index deeds = [] ∧
    .bound place index ∉ deeds

theorem spares_append :
    Spares place index (deeds ++ more) ↔
      Spares place index deeds ∧
        Spares place index more := by
  simp only [Spares, begunFor_append,
    List.append_eq_nil_iff, List.mem_append, not_or]
  exact and_and_and_comm

/- What ends spares every trigger. -/
theorem spares_map_ended (ss : List Subscription) :
    Spares place index (ss.map .ended) := by
  simp [Spares, begunFor]

/- What is begun for a handler spares every trigger. -/
theorem spares_began
    {s : Subscription}
    {number : Nat}
    (hListener : s.listener = .handler number) :
    Spares place index [.began s] := by
  simp [Spares, begunFor, allBegun, beginning?, hListener]

end Deed

end EventFlow

------------------------------------------------------------
-- Deeds of an Attempt
------------------------------------------------------------

namespace EventFlow

namespace Engine

/-
  The deeds of an attempt to bind a trigger are that what it
  comes to hear is begun, and that it is bound when it hears
  everything.
-/
theorem bindTrigger_deeds
    (e : Engine)
    (place index : Nat)
    (type : TriggerType) :
    let begun :=
      Bus.numbered e.bus.issued
        (type.heardRequests place index)
    ∃ (isDone : Bool) (ns : List Notice),
      (isDone ↔ type.IsAudible) ∧
        (bindTrigger place index type e).2 =
          hear ns
            (withTrigger place index
              (Trigger.attempted place begun isDone)
              { e with
                bus :=
                  e.bus.extended
                    (type.heardRequests place index) }) ∧
        bindingDeeds place index e
            (bindTrigger place index type e) =
          Deed.ofAttempt place index begun isDone := by
  rcases bindTrigger_attempt e place index type with
    ⟨outcome, ns, hDone, hAttempt⟩
  refine ⟨outcome.isOk, ns, hDone, ?_, ?_⟩
  · rw [hAttempt]
  · rw [hAttempt, bindingDeeds]
    have hBegun :
        (e.bus.extended
          (type.heardRequests place index)).live.drop
            e.bus.live.length =
          Bus.numbered e.bus.issued
            (type.heardRequests place index) :=
      List.drop_left
    exact congrArg (Deed.ofAttempt place index · _) hBegun

end Engine

end EventFlow

------------------------------------------------------------
-- The Bus
------------------------------------------------------------

namespace EventFlow

namespace Engine

variable {allowed : StepType → Prop}
variable {e e' : Engine}
variable {deeds more : List Deed}

/- The deeds of a turn go on with the history of the bus. -/
theorem history_of_turn
    (hTurn : Turn allowed e more e')
    {begun ended : List Subscription}
    (hBus : Bus.History begun ended e.bus) :
    Bus.History (begun ++ Deed.allBegun more)
      (ended ++ Deed.allEnded more) e'.bus := by
  cases hTurn with
  | quiet hChange hSame hBuilt =>
      rw [hSame]
      simpa [Deed.allBegun, Deed.allEnded] using hBus
  | attempted place index w t hWorkflow hActive hTrigger =>
      rcases bindTrigger_deeds e place index t.type with
        ⟨isDone, ns, -, hEngine, hDeeds⟩
      have hHeard :
          ∀ request ∈ t.type.heardRequests place index,
            ¬ Text.isBlankText request.event := by
        intro request hRequest
        rcases List.mem_map.mp hRequest with
          ⟨event, hEvent, rfl⟩
        have hNot := List.mem_takeWhile_imp hEvent
        simpa using hNot
      rw [hDeeds, hEngine]
      rw [Deed.allBegun_ofAttempt, Deed.allEnded_ofAttempt,
        List.append_nil]
      exact hBus.extended hHeard
  | subscribed event number s bus hBegan =>
      have hBegun := Deed.allBegun_map_began [s]
      have hEnded := Deed.allEnded_map_began [s]
      rw [List.map_singleton] at hBegun hEnded
      rw [hBegun, hEnded, List.append_nil]
      exact hBus.began event _ hBegan
  | unsubscribed s =>
      simpa using hBus.ended s

/- The deeds of a chronicle are the history of the bus. -/
theorem history_of_chronicle
    (hNew : e.bus = {})
    (hChronicle : Chronicle allowed e deeds e') :
    Bus.History (Deed.allBegun deeds) (Deed.allEnded deeds)
      e'.bus := by
  induction hChronicle with
  | here =>
      rw [hNew]
      exact .new
  | turned hBefore hTurn ih =>
      rw [Deed.allBegun_append, Deed.allEnded_append]
      exact history_of_turn hTurn ih

end Engine

end EventFlow

------------------------------------------------------------
-- Changed Triggers
------------------------------------------------------------

namespace EventFlow

namespace Engine

variable {e e' : Engine}

/- The definition of the workflow at a place. -/
def definitionAt?
    (e : Engine)
    (place : Nat) : Option WorkflowDefinition :=
  (e.workflowAt? place).map Workflow.definition

/- Whether the workflow at a place is active. -/
def IsActiveAt (e : Engine) (place : Nat) : Prop :=
  ∃ d, e.definitionAt? place = some d ∧ d.active

/- Only the trigger that is changed is another one. -/
theorem triggerAt?_withTrigger
    (e : Engine)
    (place index place' index' : Nat)
    (f : Trigger → Trigger) :
    (withTrigger place index f e).triggerAt? place' index' =
      if place' = place ∧ index' = index then
        (e.triggerAt? place index).map f
      else
        e.triggerAt? place' index' := by
  unfold triggerAt? workflowAt? withTrigger changeWorkflow
  by_cases hPlace : place = place'
  · subst hPlace
    cases hFound : e.built[place]? with
    | none => simp [hFound]
    | some w =>
        by_cases hIndex : index = index'
        · subst hIndex
          simp [hFound, Workflow.changeTrigger]
        · have hOther : ¬ index' = index := Ne.symm hIndex
          simp [hFound, Workflow.changeTrigger, hIndex,
            hOther]
  · have hOther : ¬ place' = place := Ne.symm hPlace
    simp [hPlace, hOther]

/- To change a trigger changes no definition. -/
theorem definitionAt?_withTrigger
    (e : Engine)
    (place index place' : Nat)
    (f : Trigger → Trigger) :
    (withTrigger place index f e).definitionAt? place' =
      e.definitionAt? place' := by
  unfold definitionAt? workflowAt? withTrigger changeWorkflow
  by_cases hPlace : place = place'
  · subst hPlace
    cases hFound : e.built[place]? with
    | none => simp [hFound]
    | some w => simp [hFound, Workflow.changeTrigger]
  · simp [hPlace]

/- Workflows that are built stand behind the others. -/
theorem workflowAt?_of_built
    {ws : List Workflow}
    (hBuilt : e'.built = e.built ++ ws)
    {place : Nat}
    {w : Workflow}
    (hFound : e'.workflowAt? place = some w) :
    e.workflowAt? place = some w ∨
      e.workflowAt? place = none ∧ w ∈ ws := by
  unfold workflowAt? at hFound ⊢
  rw [hBuilt] at hFound
  by_cases hOld : place < e.built.length
  · rw [List.getElem?_append_left hOld] at hFound
    exact .inl hFound
  · have hBehind : e.built.length ≤ place :=
      Nat.le_of_not_lt hOld
    rw [List.getElem?_append_right hBehind] at hFound
    exact .inr ⟨List.getElem?_eq_none hBehind,
      List.mem_of_getElem? hFound⟩

/- A workflow that was built stays at its place. -/
theorem workflowAt?_append
    {ws : List Workflow}
    (hBuilt : e'.built = e.built ++ ws)
    {place : Nat}
    {w : Workflow}
    (hFound : e.workflowAt? place = some w) :
    e'.workflowAt? place = some w := by
  unfold workflowAt? at hFound ⊢
  rw [hBuilt, List.getElem?_append_left]
  · exact hFound
  · exact (List.getElem?_eq_some_iff.mp hFound).1

end Engine

end EventFlow

------------------------------------------------------------
-- Triggers and Deeds
------------------------------------------------------------

namespace EventFlow

namespace TriggerType

/- What is begun for a trigger is begun with it as listener. -/
theorem listener_of_heardRequests
    {type : TriggerType}
    {place index issued : Nat}
    {s : Subscription}
    (hBegun :
      s ∈ Bus.numbered issued
        (type.heardRequests place index)) :
    s.listener = .trigger place index := by
  have hListener :=
    List.mem_map_of_mem (f := Subscription.listener) hBegun
  rw [Bus.map_listener_numbered] at hListener
  simp only [heardRequests, List.map_map, List.mem_map,
    Function.comp_apply] at hListener
  rcases hListener with ⟨event, -, hEq⟩
  exact hEq.symm

/- What is begun for a trigger is begun for what it hears. -/
theorem map_event_heardRequests
    (type : TriggerType)
    (place index issued : Nat) :
    (Bus.numbered issued
      (type.heardRequests place index)).map
        Subscription.event = type.heard := by
  rw [Bus.map_event_numbered, heardRequests, List.map_map]
  exact List.map_id type.heard

end TriggerType

namespace Deed

variable {place index : Nat}
variable {begun : List Subscription}

/- An attempt begins what it begins for its trigger. -/
theorem begunFor_ofAttempt
    (hListener :
      ∀ s ∈ begun, s.listener = .trigger place index)
    (isDone : Bool) :
    begunFor place index
      (ofAttempt place index begun isDone) = begun := by
  rw [begunFor, allBegun_ofAttempt, List.filter_eq_self]
  intro s hMem
  exact decide_eq_true (hListener s hMem)

/- An attempt binds its trigger if it is done. -/
theorem mem_ofAttempt (isDone : Bool) :
    .bound place index ∈
        ofAttempt place index begun isDone ↔
      isDone := by
  cases isDone with
  | true => simp [ofAttempt]
  | false => simp [ofAttempt]

/- An attempt binds its trigger once if it is done. -/
theorem count_ofAttempt (isDone : Bool) :
    (ofAttempt place index begun isDone).count
      (.bound place index) = if isDone then 1 else 0 := by
  have hNone :
      (begun.map began).count (.bound place index) = 0 := by
    rw [List.count_eq_zero]
    simp
  rw [ofAttempt, List.count_append, hNone, Nat.zero_add]
  cases isDone with
  | true => exact List.count_singleton_self
  | false => rfl

/- An attempt spares every other trigger. -/
theorem spares_ofAttempt
    (hListener :
      ∀ s ∈ begun, s.listener = .trigger place index)
    (isDone : Bool)
    {place' index' : Nat}
    (hOther : ¬ (place' = place ∧ index' = index)) :
    Spares place' index'
      (ofAttempt place index begun isDone) := by
  rw [ofAttempt, spares_append]
  constructor
  · constructor
    · rw [begunFor, allBegun_map_began,
        List.filter_eq_nil_iff]
      intro s hMem
      rw [hListener s hMem]
      intro hSame
      rcases of_decide_eq_true hSame with ⟨rfl, rfl⟩
      exact hOther ⟨rfl, rfl⟩
    · simp
  · cases isDone with
    | false => exact ⟨rfl, List.not_mem_nil⟩
    | true =>
        refine ⟨rfl, ?_⟩
        intro hMem
        rcases List.mem_singleton.mp hMem with ⟨rfl, rfl⟩
        exact hOther ⟨rfl, rfl⟩

end Deed

/-
  Whether a trigger accords with deeds: it keeps what was
  begun for it, it is bound if it ever was, and then it
  belongs to the workflow at its place and has heard each of
  its events once for each time.
-/
structure Trigger.Accords
    (place index : Nat)
    (deeds : List Deed)
    (t : Trigger) : Prop where
  keeps : t.subscriptions = Deed.begunFor place index deeds
  isBound : t.isBound ↔ .bound place index ∈ deeds
  owned : t.isBound → t.owner? = some place
  audible : t.isBound → t.type.IsAudible
  heard : ∀ s ∈ t.subscriptions, s.event ∈ t.type.heard
  counted :
    t.type.IsAudible →
      t.subscriptions.map Subscription.event =
        (List.replicate (deeds.count (.bound place index))
          t.type.events).flatten

namespace Trigger

@[simp] theorem attempted_owner?
    (t : Trigger)
    (place : Nat)
    (begun : List Subscription)
    (isDone : Bool) :
    (t.attempted place begun isDone).owner? =
      some place := by
  cases isDone with
  | true => rfl
  | false => rfl

@[simp] theorem attempted_isBound
    (t : Trigger)
    (place : Nat)
    (begun : List Subscription)
    (isDone : Bool) :
    (t.attempted place begun isDone).isBound =
      (isDone || t.isBound) := by
  cases isDone with
  | true => rfl
  | false => rfl

@[simp] theorem attempted_subscriptions
    (t : Trigger)
    (place : Nat)
    (begun : List Subscription)
    (isDone : Bool) :
    (t.attempted place begun isDone).subscriptions =
      t.subscriptions ++ begun := by
  cases isDone with
  | true => rfl
  | false => rfl

variable {place index : Nat}
variable {deeds more : List Deed}
variable {t : Trigger}

/- A new trigger accords with deeds that spare it. -/
theorem accords_of_spares
    (hSpares : Deed.Spares place index deeds)
    (type : TriggerType) :
    Accords place index deeds { type := type } where
  keeps := hSpares.1.symm
  isBound := iff_of_false Bool.false_ne_true hSpares.2
  owned := fun hBound => absurd hBound Bool.false_ne_true
  audible := fun hBound => absurd hBound Bool.false_ne_true
  heard := fun s hMem => absurd hMem List.not_mem_nil
  counted := by
    intro _
    rw [List.count_eq_zero.mpr hSpares.2]
    rfl

/- Deeds that spare a trigger leave it as it was. -/
theorem Accords.append
    (hAccords : t.Accords place index deeds)
    (hSpares : Deed.Spares place index more) :
    t.Accords place index (deeds ++ more) where
  keeps := by
    rw [Deed.begunFor_append, hSpares.1, List.append_nil]
    exact hAccords.keeps
  isBound := by
    rw [List.mem_append, or_iff_left hSpares.2]
    exact hAccords.isBound
  owned := hAccords.owned
  audible := hAccords.audible
  heard := hAccords.heard
  counted := by
    rw [List.count_append, List.count_eq_zero.mpr hSpares.2]
    exact hAccords.counted

/- An attempt makes of a trigger what its deeds say. -/
theorem Accords.attempted
    (hAccords : t.Accords place index deeds)
    {isDone : Bool}
    (hDone : isDone ↔ t.type.IsAudible)
    (issued : Nat) :
    let begun :=
      Bus.numbered issued (t.type.heardRequests place index)
    (t.attempted place begun isDone).Accords place index
      (deeds ++ Deed.ofAttempt place index begun isDone) := by
  intro begun
  have hListener :
      ∀ s ∈ begun, s.listener = .trigger place index :=
    fun s hMem => t.type.listener_of_heardRequests hMem
  constructor
  · rw [attempted_subscriptions, Deed.begunFor_append,
      Deed.begunFor_ofAttempt hListener, ← hAccords.keeps]
  · rw [attempted_isBound, List.mem_append,
      Deed.mem_ofAttempt, ← hAccords.isBound,
      Bool.or_eq_true, or_comm]
  · intro _
    exact t.attempted_owner? place begun isDone
  · intro hBound
    rw [attempted_isBound, Bool.or_eq_true] at hBound
    rw [attempted_type]
    rcases hBound with hNow | hBefore
    · exact hDone.mp hNow
    · exact hAccords.audible hBefore
  · intro s hMem
    rw [attempted_subscriptions, List.mem_append] at hMem
    rw [attempted_type]
    rcases hMem with hOld | hNew
    · exact hAccords.heard s hOld
    · rw [← t.type.map_event_heardRequests place index issued]
      exact List.mem_map_of_mem hNew
  · intro hAudible
    rw [attempted_type] at hAudible ⊢
    rw [attempted_subscriptions, List.map_append,
      hAccords.counted hAudible,
      t.type.map_event_heardRequests,
      t.type.heard_eq_events_iff.mpr hAudible,
      List.count_append, Deed.count_ofAttempt,
      if_pos (hDone.mpr hAudible), List.replicate_succ',
      List.flatten_append, List.flatten_singleton]

end Trigger

end EventFlow

------------------------------------------------------------
-- Engines and Deeds
------------------------------------------------------------

namespace EventFlow

namespace Engine

/-
  Whether an engine accords with deeds: each of its triggers
  does, and the deeds are about triggers that are there, of
  workflows that are active.
-/
structure Accords
    (deeds : List Deed)
    (e : Engine) : Prop where
  triggers :
    ∀ place index t,
      e.triggerAt? place index = some t →
        t.Accords place index deeds
  spared :
    ∀ place index,
      e.triggerAt? place index = none →
        Deed.Spares place index deeds
  active :
    ∀ place index,
      Deed.Spares place index deeds ∨ e.IsActiveAt place

variable {allowed : StepType → Prop}
variable {e e' : Engine}
variable {deeds more : List Deed}

/- A bound trigger is one of an active workflow. -/
theorem Accords.isActiveAt
    (hAccords : e.Accords deeds)
    {place index : Nat}
    {t : Trigger}
    (hTrigger : e.triggerAt? place index = some t)
    (hBound : t.isBound) :
    e.IsActiveAt place := by
  rcases hAccords.active place index with hSpares | hActive
  · have hMem :=
      (hAccords.triggers place index t hTrigger).isBound.mp
        hBound
    exact absurd hMem hSpares.2
  · exact hActive

/- A new engine accords with no deeds. -/
theorem accords_nil (hNew : e.built = []) :
    e.Accords [] where
  triggers := by
    intro place index t hTrigger
    simp [triggerAt?, workflowAt?, hNew] at hTrigger
  spared := fun _ _ _ => ⟨rfl, List.not_mem_nil⟩
  active := fun _ _ => .inl ⟨rfl, List.not_mem_nil⟩

/-
  Deeds that spare all triggers leave them as they were, and
  the triggers of workflows that are built are new.
-/
theorem Accords.built
    (hAccords : e.Accords deeds)
    {ws : List Workflow}
    (hNew : ∀ w ∈ ws, w.IsNew)
    (hBuilt : e'.built = e.built ++ ws)
    (hSpares : ∀ place index, Deed.Spares place index more) :
    e'.Accords (deeds ++ more) := by
  constructor
  · intro place index t hTrigger
    rcases Option.bind_eq_some_iff.mp hTrigger with
      ⟨w, hWorkflow, hAt⟩
    rcases workflowAt?_of_built hBuilt hWorkflow with
      hOld | ⟨hNone, hMem⟩
    · have hBefore : e.triggerAt? place index = some t :=
        Option.bind_eq_some_iff.mpr ⟨w, hOld, hAt⟩
      exact (hAccords.triggers place index t hBefore).append
        (hSpares place index)
    · have hAbsent : e.triggerAt? place index = none := by
        rw [triggerAt?, hNone]
        rfl
      rw [hNew w hMem t (List.mem_of_getElem? hAt)]
      exact Trigger.accords_of_spares (Deed.spares_append.mpr
        ⟨hAccords.spared place index hAbsent,
          hSpares place index⟩) t.type
  · intro place index hNone
    refine Deed.spares_append.mpr ⟨?_, hSpares place index⟩
    refine hAccords.spared place index ?_
    rw [Option.eq_none_iff_forall_ne_some]
    intro t hTrigger
    rcases Option.bind_eq_some_iff.mp hTrigger with
      ⟨w, hWorkflow, hAt⟩
    have hAfter : e'.triggerAt? place index = some t :=
      Option.bind_eq_some_iff.mpr
        ⟨w, workflowAt?_append hBuilt hWorkflow, hAt⟩
    rw [hNone] at hAfter
    cases hAfter
  · intro place index
    rcases hAccords.active place index with
      hBefore | ⟨d, hFound, hActive⟩
    · exact .inl (Deed.spares_append.mpr
        ⟨hBefore, hSpares place index⟩)
    · rcases Option.map_eq_some_iff.mp hFound with
        ⟨w, hWorkflow, hDefinition⟩
      refine .inr ⟨d, ?_, hActive⟩
      exact Option.map_eq_some_iff.mpr
        ⟨w, workflowAt?_append hBuilt hWorkflow,
          hDefinition⟩

/- An attempt to bind a trigger changes what its deeds say. -/
theorem Accords.attempted
    (hAccords : e.Accords deeds)
    {place index : Nat}
    {t : Trigger}
    (hActive : e.IsActiveAt place)
    (hTrigger : e.triggerAt? place index = some t)
    {isDone : Bool}
    (hDone : isDone ↔ t.type.IsAudible)
    (hTriggers :
      ∀ place' index',
        e'.triggerAt? place' index' =
          (withTrigger place index
            (Trigger.attempted place
              (Bus.numbered e.bus.issued
                (t.type.heardRequests place index)) isDone)
            e).triggerAt? place' index')
    (hDefinitions :
      ∀ place', e'.definitionAt? place' =
        e.definitionAt? place') :
    e'.Accords
      (deeds ++
        Deed.ofAttempt place index
          (Bus.numbered e.bus.issued
            (t.type.heardRequests place index)) isDone) := by
  have hListener :
      ∀ s ∈ Bus.numbered e.bus.issued
          (t.type.heardRequests place index),
        s.listener = .trigger place index :=
    fun s hMem => t.type.listener_of_heardRequests hMem
  constructor
  · intro place' index' u hAfter
    rw [hTriggers, triggerAt?_withTrigger] at hAfter
    split at hAfter
    · next hSame =>
        rcases hSame with ⟨rfl, rfl⟩
        rw [hTrigger] at hAfter
        cases hAfter
        exact (hAccords.triggers _ _ t hTrigger).attempted
          hDone e.bus.issued
    · next hOther =>
        exact (hAccords.triggers _ _ u hAfter).append
          (Deed.spares_ofAttempt hListener isDone hOther)
  · intro place' index' hNone
    rw [hTriggers, triggerAt?_withTrigger] at hNone
    split at hNone
    · rw [hTrigger] at hNone
      cases hNone
    · next hOther =>
        exact Deed.spares_append.mpr
          ⟨hAccords.spared _ _ hNone,
            Deed.spares_ofAttempt hListener isDone hOther⟩
  · intro place' index'
    by_cases hSame : place' = place ∧ index' = index
    · rcases hSame with ⟨rfl, rfl⟩
      rcases hActive with ⟨d, hFound, hIs⟩
      exact .inr ⟨d, (hDefinitions _).trans hFound, hIs⟩
    · rcases hAccords.active place' index' with
        hBefore | ⟨d, hFound, hIs⟩
      · exact .inl (Deed.spares_append.mpr
          ⟨hBefore,
            Deed.spares_ofAttempt hListener isDone hSame⟩)
      · exact .inr ⟨d, (hDefinitions _).trans hFound, hIs⟩

/- After a turn the engine accords with its deeds as well. -/
theorem accords_of_turn
    (hTurn : Turn allowed e more e')
    (hAccords : e.Accords deeds) :
    e'.Accords (deeds ++ more) := by
  cases hTurn with
  | quiet hChange hBus hBuilt =>
      rcases hBuilt with ⟨ws, hNew, hBuilt⟩
      exact hAccords.built hNew hBuilt
        fun _ _ => ⟨rfl, List.not_mem_nil⟩
  | attempted place index w t hWorkflow hActive hTrigger =>
      rcases bindTrigger_deeds e place index t.type with
        ⟨isDone, ns, hDone, hEngine, hDeeds⟩
      have hAt : e.triggerAt? place index = some t :=
        Option.bind_eq_some_iff.mpr ⟨w, hWorkflow, hTrigger⟩
      have hIs : e.IsActiveAt place :=
        ⟨w.definition,
          Option.map_eq_some_iff.mpr ⟨w, hWorkflow, rfl⟩,
          hActive⟩
      rw [hDeeds, hEngine]
      refine hAccords.attempted hIs hAt hDone
        (fun _ _ => rfl) fun place' => ?_
      exact definitionAt?_withTrigger _ place index place' _
  | subscribed event number s bus hBegan =>
      rcases Bus.subscribe_eq_ok hBegan with ⟨-, rfl, -⟩
      exact hAccords.built (by simp)
        (List.append_nil e.built).symm
        fun _ _ => Deed.spares_began rfl
  | unsubscribed s =>
      exact hAccords.built (by simp)
        (List.append_nil e.built).symm
        fun _ _ => Deed.spares_map_ended _

/- An engine always accords with its chronicle. -/
theorem accords_of_chronicle
    (hNew : e.built = [])
    (hChronicle : Chronicle allowed e deeds e') :
    e'.Accords deeds := by
  induction hChronicle with
  | here => exact accords_nil hNew
  | turned hBefore hTurn ih => exact accords_of_turn hTurn ih

end Engine

end EventFlow
