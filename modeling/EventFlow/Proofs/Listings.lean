import EventFlow.Proofs.Siblings

/-
  How often an event runs a workflow.

  A definition lists the slugs of its triggers, and each of
  them that is listed becomes a trigger of the workflow.  So
  a workflow over the built-in triggers that was bound once
  is run by an event as often as it lists the trigger of the
  event: at most once only if it lists no trigger twice.

  Key definitions include:
    * `Listener.indexAt?`
    * `Bus.called`
    * `Engine.HoldsPlain`
    * `Engine.CallsAsListed`

  Key theorems include:
    * `Host.calledBy_prefix`
    * `Engine.HoldsPlain.nodup_called`
    * `Engine.HoldsPlain.length_called`
    * `Engine.runs_as_listed`
-/

------------------------------------------------------------
-- Called Triggers
------------------------------------------------------------

namespace EventFlow

namespace Listener

/- The index of a trigger of the workflow at a place. -/
def indexAt? (place : Nat) : Listener → Option Nat
| .trigger place' index =>
    if place' = place then some index else none
| .handler _ => none

theorem indexAt?_eq_some_iff
    {place index : Nat}
    {listener : Listener} :
    listener.indexAt? place = some index ↔
      listener = .trigger place index := by
  cases listener with
  | trigger place' index' => simp [indexAt?]
  | handler number => simp [indexAt?]

end Listener

namespace Bus

/-
  The triggers of the workflow at a place that an event
  calls: their indices, in the order of the calls.
-/
def called
    (b : Bus)
    (event : String)
    (place : Nat) : List Nat :=
  (b.subscribers event).filterMap fun s =>
    s.listener.indexAt? place

theorem mem_called
    {b : Bus}
    {event : String}
    {place index : Nat} :
    index ∈ b.called event place ↔
      ∃ s ∈ b.subscribers event,
        s.listener = .trigger place index := by
  simp [called, Listener.indexAt?_eq_some_iff]

end Bus

namespace Host

variable {σ : Type}
variable {h : Host σ}
variable {s : σ}
variable {event : String}
variable {payload correlationId : Value}

/- The triggers of a workflow that a dispatch called. -/
def calledBy
    (calls : List Served)
    (place : Nat) : List Nat :=
  calls.filterMap fun call => call.listener.indexAt? place

/- The requests of calls tell what triggers were called. -/
theorem calledBy_eq
    (calls : List Served)
    (place : Nat) :
    calledBy calls place =
      (calls.map Served.request).filterMap fun request =>
        request.1.indexAt? place := by
  rw [List.filterMap_map]
  rfl

theorem called_eq
    (b : Bus)
    (event : String)
    (place : Nat)
    (payload correlationId : Value) :
    b.called event place =
      ((b.subscribers event).map
        (requestOf payload correlationId)).filterMap
          fun request => request.1.indexAt? place := by
  rw [List.filterMap_map]
  rfl

/-
  A dispatch calls the triggers of a workflow that its event
  calls, in order, up to a listener that asks to stop.
-/
theorem calledBy_prefix (place : Nat) :
    calledBy (h.callsOf event payload correlationId s) place
      <+: (h.engine s).bus.called event place := by
  rw [calledBy_eq,
    called_eq _ event place payload correlationId]
  exact (h.requests_callsOf event payload correlationId
    s).filterMap _

/- A dispatch in which no listener does calls all of them. -/
theorem calledBy_of_caught
    (hCaught :
      ∀ call ∈ h.callsOf event payload correlationId s,
        call.IsCaught)
    (place : Nat) :
    calledBy (h.callsOf event payload correlationId s) place
      = (h.engine s).bus.called event place := by
  rw [calledBy_eq, (dispatch_of_caught hCaught).1,
    called_eq _ event place payload correlationId]
  rfl

end Host

end EventFlow

------------------------------------------------------------
-- Plain Workflows
------------------------------------------------------------

namespace EventFlow

namespace Engine

variable {e : Engine}
variable {deeds : List Deed}
variable {place index : Nat}
variable {w : Workflow}
variable {event : String}

/-
  Whether an engine, after deeds, holds at a place a
  workflow with plain triggers only.
-/
structure HoldsPlain
    (e : Engine)
    (deeds : List Deed)
    (place : Nat)
    (w : Workflow) : Prop where
  accords : e.Accords deeds
  history :
    Bus.History (Deed.allBegun deeds)
      (Deed.allEnded deeds) e.bus
  found : e.workflowAt? place = some w
  plain : ∀ t ∈ w.triggers, t.type.IsPlain

/- The plain triggers of a workflow are in order. -/
theorem HoldsPlain.isInOrder
    (hHolds : e.HoldsPlain deeds place w)
    {t : Trigger}
    (hTrigger : e.triggerAt? place index = some t) :
    w.triggers[index]? = some t ∧
      t.IsInOrder deeds e place index := by
  have hAt : w.triggers[index]? = some t := by
    rw [triggerAt?, hHolds.found] at hTrigger
    exact hTrigger
  exact ⟨hAt, isInOrder_of_accords hHolds.accords
    hHolds.history hTrigger
    (hHolds.plain t (List.mem_of_getElem? hAt))⟩

/-
  A plain trigger subscribes to an event no more often than
  it was bound.
-/
theorem HoldsPlain.length_subscribers_le
    (hHolds : e.HoldsPlain deeds place w)
    (event : String)
    (index : Nat) :
    ((e.bus.subscribers event).filter fun s =>
        s.listener = .trigger place index).length ≤
      deeds.count (.bound place index) := by
  have hLive :
      ((e.bus.subscribers event).filter fun s =>
          s.listener = .trigger place index).Sublist
        (e.bus.live.filter fun s =>
          s.listener = .trigger place index) :=
    List.filter_sublist.filter _
  refine hLive.length_le.trans ?_
  cases hTrigger : e.triggerAt? place index with
  | none =>
      have hSpared :=
        (hHolds.accords.spared place index hTrigger).1
      rw [Deed.begunFor, List.filter_eq_nil_iff] at hSpared
      rw [List.filter_eq_nil_iff.mpr]
      · exact Nat.zero_le _
      · intro s hMem
        exact hSpared s
          (hHolds.history.live_and_ended_subset.1 hMem)
  | some t =>
      have hOrder := (hHolds.isInOrder hTrigger).2
      rw [hOrder.live, ← hOrder.counted]
      exact List.length_filter_le _ _

/-
  If the triggers of a workflow were bound once at most, no
  event calls one of them twice.
-/
theorem HoldsPlain.nodup_called
    (hHolds : e.HoldsPlain deeds place w)
    (hOnce :
      ∀ index, deeds.count (.bound place index) ≤ 1)
    (event : String) :
    (e.bus.called event place).Nodup := by
  have hApart :
      (e.bus.subscribers event).Pairwise fun s later =>
        ∀ index,
          s.listener = .trigger place index →
            later.listener ≠ .trigger place index := by
    rw [List.pairwise_iff_forall_sublist]
    intro s later hBoth index hFirst hSecond
    have hTwo :=
      (hBoth.filter fun s =>
        s.listener = .trigger place index).length_le
    have hOne :=
      (hHolds.length_subscribers_le event index).trans
        (hOnce index)
    simp only [hFirst, hSecond, decide_true,
      List.filter_cons_of_pos, List.filter_nil,
      List.length_cons, List.length_nil] at hTwo
    omega
  refine hApart.filterMap _ ?_
  intro s later hApart index hFirst other hSecond hSame
  rw [Listener.indexAt?_eq_some_iff] at hFirst hSecond
  subst hSame
  exact hApart index hFirst hSecond

/- A trigger that an event calls is bound and hears it. -/
theorem HoldsPlain.exists_of_called
    (hHolds : e.HoldsPlain deeds place w)
    (hCalled : index ∈ e.bus.called event place) :
    ∃ t,
      w.triggers[index]? = some t ∧
        t.type.event = event ∧
        t.isBound ∧
        t.owner? = some place := by
  rcases Bus.mem_called.mp hCalled with
    ⟨s, hLive, hListener⟩
  rcases mem_subscriptions_of_subscriber hHolds.accords
    hHolds.history hLive hListener with ⟨t, hTrigger, hKept⟩
  rcases hHolds.isInOrder hTrigger with ⟨hAt, hOrder⟩
  have hBound : t.isBound :=
    hOrder.isBound.mpr (List.ne_nil_of_mem hKept)
  have hEvent : s.event = event := by
    simpa using (List.mem_filter.mp hLive).2
  exact ⟨t, hAt, (hOrder.events s hKept).symm.trans hEvent,
    hBound, (hOrder.owned hBound).1⟩

/-
  A bound trigger is called by the event that it hears, if
  none of its subscriptions was ended.
-/
theorem HoldsPlain.called_of_bound
    (hHolds : e.HoldsPlain deeds place w)
    (hBound : .bound place index ∈ deeds)
    (hKept :
      ∀ s ∈ Deed.allEnded deeds,
        s.listener ≠ .trigger place index)
    {t : Trigger}
    (hAt : w.triggers[index]? = some t) :
    index ∈ e.bus.called t.type.event place := by
  have hTrigger : e.triggerAt? place index = some t := by
    rw [triggerAt?, hHolds.found]
    exact hAt
  have hOrder := (hHolds.isInOrder hTrigger).2
  have hSome : 0 < t.subscriptions.length := by
    rw [hOrder.counted]
    exact List.count_pos_iff.mpr hBound
  rcases List.exists_mem_of_length_pos hSome with
    ⟨s, hMem⟩
  have hListener :=
    ((mem_subscriptions_iff
      (hHolds.accords.triggers place index t hTrigger) s).mp
        hMem).2
  have hLive :
      s ∈ t.subscriptions.filter fun s =>
        s ∉ Deed.allEnded deeds := by
    rw [List.mem_filter]
    exact ⟨hMem, decide_eq_true fun hEnded =>
      hKept s hEnded hListener⟩
  rw [← hOrder.live] at hLive
  refine Bus.mem_called.mpr ⟨s, ?_, hListener⟩
  exact List.mem_filter.mpr ⟨(List.mem_filter.mp hLive).1,
    by simpa using hOrder.events s hMem⟩

/- The events that the triggers of a workflow hear. -/
def eventsOf (w : Workflow) : List String :=
  w.triggers.map fun t => t.type.event

theorem mem_idxsOf_eventsOf :
    index ∈ (eventsOf w).idxsOf event ↔
      ∃ t,
        w.triggers[index]? = some t ∧
          t.type.event = event := by
  rw [List.mem_idxsOf_iff_exists_getElem_pos]
  simp [eventsOf, List.getElem?_eq_some_iff]

/-
  An event calls no more triggers of a workflow than hear
  it, and all that do if each was bound and stayed so.
-/
theorem HoldsPlain.length_called
    (hHolds : e.HoldsPlain deeds place w)
    (hOnce :
      ∀ index, deeds.count (.bound place index) ≤ 1)
    (event : String) :
    (e.bus.called event place).length ≤
        (eventsOf w).count event ∧
      ((∀ index < w.triggers.length,
          .bound place index ∈ deeds) →
        (∀ s ∈ Deed.allEnded deeds,
          s.listener.indexAt? place = none) →
          (e.bus.called event place).length =
            (eventsOf w).count event) := by
  have hNodup := hHolds.nodup_called hOnce event
  have hSubset :
      e.bus.called event place ⊆
        (eventsOf w).idxsOf event := by
    intro index hCalled
    rcases hHolds.exists_of_called hCalled with
      ⟨t, hAt, hEvent, -, -⟩
    exact mem_idxsOf_eventsOf.mpr ⟨t, hAt, hEvent⟩
  rw [← List.length_idxsOf]
  refine ⟨(hNodup.subperm hSubset).length_le, ?_⟩
  intro hAll hKept
  refine List.Perm.length_eq ?_
  refine (List.perm_ext_iff_of_nodup hNodup
    List.nodup_idxsOf).mpr fun index => ⟨(hSubset ·), ?_⟩
  intro hMem
  rcases mem_idxsOf_eventsOf.mp hMem with ⟨t, hAt, rfl⟩
  have hLt : index < w.triggers.length :=
    (List.getElem?_eq_some_iff.mp hAt).1
  refine hHolds.called_of_bound (hAll index hLt) ?_ hAt
  intro s hEnded hListener
  have hNone := hKept s hEnded
  rw [Listener.indexAt?_eq_some_iff.mpr hListener] at hNone
  cases hNone

end Engine

end EventFlow

------------------------------------------------------------
-- Listed Triggers
------------------------------------------------------------

namespace EventFlow

namespace Builtin

/- The slug of the built-in trigger that hears an event. -/
def slugOf (event : String) : String :=
  "crm/" ++ event

theorem slugOf_injective : Function.Injective slugOf :=
  fun _ _ hSame => (String.append_right_inj "crm/").mp hSame

/- A built-in trigger hears the event of its slug only. -/
theorem hears_triggers :
    ∀ type ∈ triggers,
      type.slug = slugOf type.event ∧ type.IsPlain := by
  unfold TriggerType.IsPlain
  decide

end Builtin

/- Whether a definition lists built-in triggers only. -/
def WorkflowDefinition.ListsBuiltins
    (d : WorkflowDefinition) : Prop :=
  ∀ slug ∈ d.triggers,
    slug ∈ Builtin.triggers.map TriggerType.slug

namespace Engine

/- Whether the built-in triggers are registered. -/
def HasBuiltins (e : Engine) : Prop :=
  ∀ type ∈ Builtin.triggers,
    e.triggerTypes.lookup type.slug = some type

variable {e : Engine}

/- The types of built-in slugs are the built-in types. -/
theorem typesOf_of_builtins
    (hBuiltins : e.HasBuiltins)
    {slugs : List String}
    (hListed :
      ∀ slug ∈ slugs,
        slug ∈ Builtin.triggers.map TriggerType.slug) :
    (e.typesOf slugs).map TriggerType.slug = slugs ∧
      ∀ type ∈ e.typesOf slugs, type ∈ Builtin.triggers := by
  induction slugs with
  | nil => exact ⟨rfl, by simp [typesOf]⟩
  | cons slug slugs ih =>
      rw [List.forall_mem_cons] at hListed
      rcases ih hListed.2 with ⟨hSlugs, hTypes⟩
      rcases List.mem_map.mp hListed.1 with
        ⟨type, hType, rfl⟩
      have hFirst :
          e.typesOf (type.slug :: slugs) =
            type :: e.typesOf slugs :=
        List.filterMap_cons_some (hBuiltins type hType)
      rw [hFirst, List.map_cons, hSlugs, List.forall_mem_cons]
      exact ⟨rfl, hType, hTypes⟩

/- The slugs of built-in types are those of their events. -/
theorem triggers_of_eventsOf
    {w : Workflow}
    {types : List TriggerType}
    (hTypes : w.triggers.map Trigger.type = types)
    (hBuiltins : ∀ type ∈ types, type ∈ Builtin.triggers) :
    types.map TriggerType.slug =
      (eventsOf w).map Builtin.slugOf := by
  have hEvents :
      eventsOf w = types.map TriggerType.event := by
    rw [eventsOf, ← hTypes, List.map_map]
    rfl
  rw [hEvents, List.map_map]
  exact List.map_congr_left fun type hType =>
    (Builtin.hears_triggers type (hBuiltins type hType)).1

/-
  What runs the workflow of a definition that stands at a
  place of an engine after deeds.  An event calls as many of
  its triggers as the definition lists, or fewer if some are
  not bound or were ended; a dispatch calls those in order;
  each one that is called runs the workflow, and no trigger
  of another workflow does.
-/
structure CallsAsListed
    [Surroundings]
    (d : WorkflowDefinition)
    (place : Nat)
    (deeds : List Deed)
    (e : Engine) : Prop where
  atMost :
    ∀ event,
      (e.bus.called event place).length ≤
        d.triggers.count (Builtin.slugOf event)
  once :
    d.triggers.Nodup →
      ∀ event, (e.bus.called event place).length ≤ 1
  exactly :
    (∀ index < d.triggers.length,
      .bound place index ∈ deeds) →
    (∀ s ∈ Deed.allEnded deeds,
      s.listener.indexAt? place = none) →
      ∀ event,
        (e.bus.called event place).length =
          d.triggers.count (Builtin.slugOf event)
  runs :
    ∀ event, ∀ index ∈ e.bus.called event place,
      ∃ t,
        e.triggerAt? place index = some t ∧
          ∀ payload correlationId,
            fire place index payload correlationId e =
              execute d t.type payload correlationId e
  alone :
    ∀ place' index t,
      e.triggerAt? place' index = some t →
        t.isBound →
          t.owner? = some place'
  dispatched :
    ∀ {σ : Type} (h : Host σ) (s : σ)
        (event : String) (payload correlationId : Value),
      h.engine s = e →
        let calls :=
          h.callsOf event payload correlationId s
        Host.calledBy calls place <+:
            e.bus.called event place ∧
          ((∀ call ∈ calls, call.IsCaught) →
            Host.calledBy calls place =
              e.bus.called event place)

variable {allowed : StepType → Prop}
variable {e₀ e₁ e₂ : Engine}
variable {deeds : List Deed}
variable {d : WorkflowDefinition}
variable {w : Workflow}

/- Nothing has happened at a place that is not taken yet. -/
theorem spares_of_new
    {pre : List Deed}
    (hAccords : e.Accords pre)
    (index : Nat) :
    Deed.Spares e.built.length index pre := by
  refine hAccords.spared _ _ ?_
  simp [triggerAt?, workflowAt?]

/-
  What runs a workflow of plain triggers that hear what its
  definition lists.
-/
theorem callsAsListed_of_holdsPlain
    [Surroundings]
    {place : Nat}
    (hHolds : e.HoldsPlain deeds place w)
    (hListed :
      w.definition.triggers =
        (eventsOf w).map Builtin.slugOf)
    (hOnce :
      ∀ index, deeds.count (.bound place index) ≤ 1) :
    CallsAsListed w.definition place deeds e := by
  have hCount (event : String) :
      w.definition.triggers.count (Builtin.slugOf event) =
        (eventsOf w).count event := by
    rw [hListed]
    exact List.count_map_of_injective _ _
      Builtin.slugOf_injective _
  have hLength :
      w.definition.triggers.length = w.triggers.length := by
    rw [hListed, List.length_map, eventsOf, List.length_map]
  have hAtMost (event : String) :
      (e.bus.called event place).length ≤
        w.definition.triggers.count
          (Builtin.slugOf event) := by
    rw [hCount]
    exact (hHolds.length_called hOnce event).1
  constructor
  · exact hAtMost
  · intro hNodup event
    exact (hAtMost event).trans
      (List.nodup_iff_count_le_one.mp hNodup _)
  · intro hAll hKept event
    rw [hLength] at hAll
    rw [hCount]
    exact (hHolds.length_called hOnce event).2 hAll hKept
  · intro event index hCalled
    rcases hHolds.exists_of_called hCalled with
      ⟨t, hAt, -, hBound, hOwner⟩
    refine ⟨t, ?_, ?_⟩
    · rw [triggerAt?, hHolds.found]
      exact hAt
    · exact fire_of_bound hHolds.found hAt hOwner hBound
  · intro place' index t hTrigger hBound
    exact (hHolds.accords.triggers place' index t
      hTrigger).owned hBound
  · intro σ h s event payload correlationId hEngine calls
    rw [← hEngine]
    exact ⟨h.calledBy_prefix place,
      fun hCaught => h.calledBy_of_caught hCaught place⟩

/-
  A workflow over the built-in triggers that was built and
  placed stays a workflow of plain triggers, which hear what
  its definition lists.
-/
theorem exists_holdsPlain
    {pre : List Deed}
    (hMade : e₀.IsMade)
    (hBefore : Chronicle allowed e₀ pre e₁)
    (hBuiltins : e.HasBuiltins)
    (hListed : d.ListsBuiltins)
    (hBuilt : (build d e).1 = .ok w)
    (hSince : Chronicle allowed (place w e₁).2 deeds e₂) :
    ∃ w',
      e₂.HoldsPlain (pre ++ deeds) e₁.built.length w' ∧
        w'.definition = d ∧
        d.triggers = (eventsOf w').map Builtin.slugOf := by
  have hNew : w.IsNew :=
    build_ensures_isNew d (Prod.ext hBuilt rfl)
  have hPlaced :
      Chronicle allowed e₀ (pre ++ []) (place w e₁).2 :=
    hBefore.turned
      (.quiet (.placed e₁ w hNew) rfl ⟨[w], by simpa, rfl⟩)
  rw [List.append_nil] at hPlaced
  have hChronicle := hPlaced.append hSince
  have hFound :
      (place w e₁).2.workflowAt? e₁.built.length =
        some w := by
    simp [place, workflowAt?]
  -- What stands at the place is the workflow, bound or not.
  rcases workflowAt?_of_lives ⟨deeds, hSince⟩ hFound with
    ⟨w', hFound', hBecomes⟩
  rcases admits_of_build hBuilt with ⟨-, rfl⟩
  rcases typesOf_of_builtins hBuiltins hListed with
    ⟨hSlugs, hTypes⟩
  have hSame :
      w'.triggers.map Trigger.type = e.typesOf d.triggers := by
    rw [hBecomes.types, workflowOf, List.map_map]
    exact List.map_id _
  have hPlain : ∀ t ∈ w'.triggers, t.type.IsPlain := by
    intro t hMem
    refine (Builtin.hears_triggers t.type (hTypes _ ?_)).2
    rw [← hSame]
    exact List.mem_map_of_mem hMem
  refine ⟨w', ⟨?_, ?_, hFound', hPlain⟩,
    hBecomes.definition, ?_⟩
  · exact accords_of_chronicle hMade.built_eq hChronicle
  · exact history_of_chronicle hMade.bus_eq hChronicle
  · rw [← triggers_of_eventsOf hSame hTypes, hSlugs]

/- No subscription that was ended was one of a new place. -/
theorem indexAt?_of_ended
    {pre : List Deed}
    (hMade : e₀.IsMade)
    (hBefore : Chronicle allowed e₀ pre e)
    {s : Subscription}
    (hEnded : s ∈ Deed.allEnded pre) :
    s.listener.indexAt? e.built.length = none := by
  have hBegun : s ∈ Deed.allBegun pre :=
    (history_of_chronicle hMade.bus_eq
      hBefore).live_and_ended_subset.2 hEnded
  rw [Option.eq_none_iff_forall_ne_some]
  intro index hIndex
  have hNone :=
    (spares_of_new
      (accords_of_chronicle hMade.built_eq hBefore) index).1
  rw [Deed.begunFor, List.filter_eq_nil_iff] at hNone
  exact hNone s hBegun (decide_eq_true
    (Listener.indexAt?_eq_some_iff.mp hIndex))

/-
  A workflow over the built-in triggers, which are bound
  once at most since it was built, is run by an event as
  often as its definition lists the trigger of the event.
-/
theorem runs_as_listed
    [Surroundings]
    (hMade : e₀.IsMade)
    (hUntil : Lives allowed e₀ e)
    (hBuiltins : e.HasBuiltins)
    (hListed : d.ListsBuiltins)
    (hBuilt : (build d e).1 = .ok w)
    (hBetween : Lives allowed e e₁)
    (hSince : Chronicle allowed (place w e₁).2 deeds e₂)
    (hOnce :
      ∀ index,
        deeds.count (.bound e₁.built.length index) ≤ 1) :
    CallsAsListed d e₁.built.length deeds e₂ := by
  rcases hUntil.trans hBetween with ⟨pre, hBefore⟩
  rcases exists_holdsPlain hMade hBefore hBuiltins hListed
    hBuilt hSince with ⟨w', hHolds, rfl, hTriggers⟩
  have hSpares :=
    spares_of_new
      (accords_of_chronicle hMade.built_eq hBefore)
  have hWhole :
      CallsAsListed w'.definition e₁.built.length
        (pre ++ deeds) e₂ := by
    refine callsAsListed_of_holdsPlain hHolds hTriggers ?_
    intro index
    rw [List.count_append,
      List.count_eq_zero.mpr (hSpares index).2, Nat.zero_add]
    exact hOnce index
  -- What was done before the workflow had its place counts
  -- for nothing there.
  refine { hWhole with exactly := ?_ }
  intro hAll hKept
  refine hWhole.exactly
    (fun index hLt =>
      List.mem_append_right _ (hAll index hLt)) ?_
  intro s hEnded
  rw [Deed.allEnded_append, List.mem_append] at hEnded
  rcases hEnded with hEarly | hLate
  · exact indexAt?_of_ended hMade hBefore hEarly
  · exact hKept s hLate

/- A definition that notes every event of its triggers. -/
def diary (triggers : List String) : WorkflowDefinition :=
  { id := "diary"
    name := "Diary"
    triggers := triggers
    initialStep := "note"
    steps := [
      ("note",
        { slug := "crm/add_contact_log"
          attributes := [("type", .str "note")] })
    ] }

/- An engine with the built-in types that keeps contacts. -/
def keeper
    [Surroundings]
    : Engine :=
  (registerBuiltins { access := .contacts {} }).2

/- A keeper with a diary that was built and placed. -/
def shelving
    [Surroundings]
    (triggers : List String) : Engine :=
  (place (workflowOf keeper (diary triggers)) keeper).2

/- A keeper with a diary whose triggers were bound. -/
def keeping
    [Surroundings]
    (triggers : List String) : Engine :=
  (init 0 (shelving triggers)).2

/- The two triggers of a diary. -/
def bothSlugs : List String :=
  ["crm/transaction_updated", "crm/contact_created"]

/- The events that these hear. -/
def bothEvents : List String :=
  ["transaction_updated", "contact_created"]

open scoped Bare in
/-
  A diary that lists two triggers is run once by the event
  of either.
-/
theorem runs_as_listed_diary :
    let e := keeping bothSlugs
    ∀ event ∈ bothEvents,
      (e.bus.called event 0).length = 1 ∧
        ∀ payload correlationId,
          (Host.calledBy
            (host.callsOf event payload
              correlationId e) 0).length ≤ 1 := by
  intro e
  let deeds : List Deed :=
    [ .began ⟨1, "transaction_updated", .trigger 0 0⟩,
      .bound 0 0,
      .began ⟨2, "contact_created", .trigger 0 1⟩,
      .bound 0 1 ]
  have hMade : IsMade { access := .contacts {} } :=
    ⟨defaultLimit, false, .contacts {}, rfl⟩
  have hUntil :
      Lives StepType.IsAny { access := .contacts {} }
        keeper :=
    lives_registerBuiltins (fun _ _ => trivial) _
  have hBuiltins : keeper.HasBuiltins := by
    unfold HasBuiltins
    decide +kernel
  have hListed : (diary bothSlugs).ListsBuiltins := by
    unfold WorkflowDefinition.ListsBuiltins
    decide +kernel
  have hBuilt :
      (build (diary bothSlugs) keeper).1 =
        .ok (workflowOf keeper (diary bothSlugs)) := by
    have hAdmits : keeper.Admits (diary bothSlugs) := by
      decide +kernel
    rw [build_of_admits hAdmits]
  have hSince :
      Chronicle StepType.IsAny (shelving bothSlugs) deeds e :=
    (Chronicle.here.turned
      (.attempted (shelving bothSlugs) 0 0 _
        { type := Builtin.transactionUpdated }
        rfl rfl rfl)).turned
      (.attempted
        (bindTrigger 0 0 Builtin.transactionUpdated
          (shelving bothSlugs)).2 0 1 _
        { type := Builtin.contactCreated } rfl rfl rfl)
  have hDeeds : deeds.Nodup := by
    decide
  have hOnce (index : Nat) :
      deeds.count (.bound keeper.built.length index) ≤ 1 :=
    List.nodup_iff_count_le_one.mp hDeeds _
  have hCalls :
      CallsAsListed (diary bothSlugs) 0 deeds e :=
    runs_as_listed hMade hUntil hBuiltins hListed hBuilt
      (.refl keeper) hSince hOnce
  have hBound :
      ∀ index < (diary bothSlugs).triggers.length,
        .bound 0 index ∈ deeds := by
    decide
  have hExactly := hCalls.exactly hBound
    (fun s hEnded => absurd hEnded List.not_mem_nil)
  have hCounts :
      ∀ event ∈ bothEvents,
        (diary bothSlugs).triggers.count
          (Builtin.slugOf event) = 1 := by
    decide +kernel
  intro event hEvent
  refine ⟨(hExactly event).trans (hCounts event hEvent), ?_⟩
  intro payload correlationId
  have hDispatched :=
    hCalls.dispatched host e event payload correlationId rfl
  refine hDispatched.1.length_le.trans
    (hCalls.once ?_ event)
  decide +kernel

open scoped Bare in
/-
  A diary that lists its trigger twice is accepted, and one
  event runs it twice and notes itself twice.
-/
theorem runs_twice_if_listed_twice :
    let twice :=
      [ "crm/transaction_updated",
        "crm/transaction_updated" ]
    let ran :=
      dispatch "transaction_updated"
        (.object [("id", .int 7)]) .null (keeping twice)
    (build (diary twice) keeper).1.isOk ∧
      (keeping twice).bus.called "transaction_updated" 0 =
        [0, 1] ∧
      (ran.1.toOption.map fun r =>
        r.runs.map ExecutionResult.stepIds) =
        some [["note"], ["note"]] ∧
      (match ran.2.access with
        | .contacts store =>
            (store.logsOf (.int 7)).map ContactLog.type
        | _ => []) = ["note", "note"] := by
  decide +kernel

end Engine

end EventFlow
