import EventFlow.Proofs.Accords
import EventFlow.Proofs.Refusals

/-
  What adding a workflow does when its triggers are bound.

  A workflow stands behind those that were added before its
  first trigger is given to be bound, and its triggers are
  given in order.  The first one that hears a blank event
  ends this, and nothing is taken back: the workflow stays
  added, the triggers in front stay bound, and the one that
  failed keeps what it heard before its blank event.

  Key definitions include:
    * `Trigger.BecameBound`
    * `Engine.addedAs`
    * `Engine.AddsInOrder`

  Key theorems include:
    * `Trigger.becameBound_boundFrom`
    * `Engine.bindTriggers_of_blank`
    * `Engine.add_binds_in_order`
-/

------------------------------------------------------------
-- Bound Triggers
------------------------------------------------------------

namespace EventFlow

namespace Trigger

/-
  Whether a trigger became bound to the workflow at a place,
  with one more live subscription to each of its events.
-/
structure BecameBound
    (b : Bus)
    (place index : Nat)
    (t t' : Trigger) : Prop where
  type : t'.type = t.type
  owned : t'.owner? = some place
  bound : t'.isBound
  heard :
    ∃ begun,
      t'.subscriptions = t.subscriptions ++ begun ∧
      begun.map Subscription.event = t.type.events ∧
      ∀ s ∈ begun,
        s ∈ b.live ∧ s.listener = .trigger place index

theorem requestsFrom_cons
    (place index : Nat)
    (t : Trigger)
    (ts : List Trigger) :
    requestsFrom place index (t :: ts) =
      t.type.requests place index ++
        requestsFrom place (index + 1) ts := by
  simp [requestsFrom]

/- A trigger is bound when its requests are taken. -/
theorem becameBound_bound
    {b : Bus}
    {t : Trigger}
    (hAudible : t.type.IsAudible)
    {place index : Nat}
    {rest : List Bus.Request} :
    BecameBound
      (b.extended (t.type.requests place index ++ rest))
      place index t
      (t.bound place
        (Bus.numbered b.issued
          (t.type.requests place index))) := by
  refine ⟨rfl, rfl, rfl, _, rfl, ?_, ?_⟩
  · rw [← TriggerType.heardRequests_of_isAudible hAudible,
      TriggerType.map_event_heardRequests,
      t.type.heard_eq_events_iff.mpr hAudible]
  · intro s hBegun
    refine ⟨?_, ?_⟩
    · rw [Bus.extended, Bus.numbered_append]
      exact List.mem_append_right _
        (List.mem_append_left _ hBegun)
    · rw [← TriggerType.heardRequests_of_isAudible hAudible]
        at hBegun
      exact TriggerType.listener_of_heardRequests hBegun

/- Each of the triggers that are bound in order is bound. -/
theorem becameBound_boundFrom
    {b : Bus}
    {ts : List Trigger}
    (hAudible : ∀ t ∈ ts, t.type.IsAudible)
    (place first : Nat)
    {index : Nat}
    {t : Trigger}
    (hTrigger : ts[index]? = some t)
    (rest : List Bus.Request) :
    ∃ t',
      (boundFrom b.issued place first ts)[index]? =
          some t' ∧
        t.BecameBound
          (b.extended (requestsFrom place first ts ++ rest))
          place (first + index) t' := by
  induction ts generalizing b first index with
  | nil => cases hTrigger
  | cons u us ih =>
      rw [List.forall_mem_cons] at hAudible
      rw [requestsFrom_cons, List.append_assoc]
      cases index with
      | zero =>
          cases hTrigger
          exact ⟨_, rfl, becameBound_bound hAudible.1⟩
      | succ index =>
          have hIndex :
              first + (index + 1) = first + 1 + index := by
            omega
          -- Later triggers meet the bus as the first left it.
          rw [← Bus.extended_extended, hIndex]
          exact ih
            (b := b.extended (u.type.requests place first))
            hAudible.2 (first + 1) hTrigger

@[simp] theorem length_boundFrom
    (issued place index : Nat)
    (ts : List Trigger) :
    (boundFrom issued place index ts).length = ts.length := by
  induction ts generalizing issued index with
  | nil => rfl
  | cons t ts ih => simp [boundFrom, ih]

/-
  Triggers one of which hears a blank event have a first one
  that does.
-/
theorem exists_first_of_blank
    {ts : List Trigger}
    (hBlank : ¬ ∀ t ∈ ts, t.type.IsAudible) :
    ∃ done t rest,
      ts = done ++ t :: rest ∧
      (∀ u ∈ done, u.type.IsAudible) ∧
      ¬ t.type.IsAudible := by
  induction ts with
  | nil => exact absurd (by simp) hBlank
  | cons t ts ih =>
      by_cases hFirst : t.type.IsAudible
      · have hRest : ¬ ∀ t ∈ ts, t.type.IsAudible :=
          fun hAll =>
            hBlank (List.forall_mem_cons.mpr ⟨hFirst, hAll⟩)
        rcases ih hRest with
          ⟨done, u, rest, rfl, hDone, hDeaf⟩
        exact ⟨t :: done, u, rest, rfl,
          List.forall_mem_cons.mpr ⟨hFirst, hDone⟩, hDeaf⟩
      · exact ⟨[], t, ts, rfl, by simp, hFirst⟩

end Trigger

end EventFlow

------------------------------------------------------------
-- Binding up to a Blank Event
------------------------------------------------------------

namespace EventFlow

namespace Engine

variable {e e' : Engine}
variable {before after : List Workflow}

/- To bind triggers is to bind some, and then the others. -/
theorem bindTriggers_append
    {place index : Nat}
    {types : List TriggerType}
    (hFirst :
      bindTriggers place index types e = (.ok (), e'))
    (others : List TriggerType) :
    bindTriggers place index (types ++ others) e =
      bindTriggers place (index + types.length) others
        e' := by
  induction types generalizing e index with
  | nil =>
      cases hFirst
      rfl
  | cons type types ih =>
      rcases Act.bind_eq_ok hFirst with
        ⟨_, between, hHead, hTail⟩
      rw [List.cons_append, bindTriggers,
        Act.bind_of_ok hHead, ih hTail, List.length_cons,
        Nat.add_right_comm, Nat.add_assoc]

/-
  Triggers are bound in order up to one that hears a blank
  event, which is given to its workflow but not bound.
-/
theorem bindTriggers_of_blank
    {d : WorkflowDefinition}
    {done rest : List Trigger}
    {t : Trigger}
    (hBuilt :
      e.built = before ++ ⟨d, done ++ t :: rest⟩ :: after)
    (hDone : ∀ u ∈ done, u.type.IsAudible)
    (hBlank : ¬ t.type.IsAudible) :
    let requests :=
      Trigger.requestsFrom before.length 0 done
    let heard :=
      t.type.heardRequests before.length done.length
    ∃ ns,
      bindTriggers before.length 0
          ((done ++ t :: rest).map Trigger.type) e =
        (.error .eventBlank,
          hear ns <|
            e.bound (requests ++ heard)
              (before ++
                ⟨d,
                  Trigger.boundFrom e.bus.issued
                      before.length 0 done ++
                    t.claimed before.length
                      (Bus.numbered
                        (e.bus.issued + requests.length)
                        heard) ::
                    rest⟩ ::
                after)) := by
  have hWhole :
      e.built =
        before ++
          ⟨d, [] ++ (done ++ t :: rest)⟩ :: after :=
    hBuilt
  intro requests heard
  rcases bindTriggers_eq [] (t :: rest) hWhole hDone with
    ⟨ns, hFirst⟩
  rw [List.length_nil, List.nil_append] at hFirst
  let bound :=
    Trigger.boundFrom e.bus.issued before.length 0 done
  let between :=
    hear ns <|
      e.bound requests
        (before ++ ⟨d, bound ++ t :: rest⟩ :: after)
  have hBetween :
      between.built =
        before ++ ⟨d, bound ++ t :: rest⟩ :: after := rfl
  rcases bindTrigger_of_blank (e := between) hBlank
    before.length done.length with ⟨ms, hThen⟩
  have hClaimed :=
    withTrigger_of_built hBetween
      (Trigger.claimed before.length
        (Bus.numbered between.bus.issued heard)) heard
  rw [Trigger.length_boundFrom] at hClaimed
  refine ⟨ns ++ ms, ?_⟩
  rw [List.map_append, bindTriggers_append hFirst,
    List.length_map, List.map_cons, bindTriggers,
    Nat.zero_add]
  refine Act.bind_of_error (hThen.trans ?_)
  rw [← hear_hear, ← bound_bound]
  exact congrArg (Except.error Failure.eventBlank, hear ms ·)
    hClaimed

end Engine

end EventFlow

------------------------------------------------------------
-- Added Workflows
------------------------------------------------------------

namespace EventFlow

namespace Engine

/-
  An engine to which the workflow at a place was added as it
  came to be when the bus took requests.
-/
def addedAs
    (place : Nat)
    (requests : List Bus.Request)
    (w : Workflow)
    (e : Engine) : Engine :=
  { e.bound requests (e.built.set place w) with
    added := e.added ++ [place] }

/-
  What it is to add the workflow at a place and to bind its
  triggers in order: how it ends, and what it leaves behind.
-/
structure AddsInOrder
    (e : Engine)
    (place : Nat)
    (w : Workflow)
    (ran : Except Failure Unit × Engine) : Prop where
  returns :
    (w.definition.active → w.IsAudible) → ran.1 = .ok ()
  fails :
    w.definition.active →
    ¬ w.IsAudible →
      ran.1 = .error .eventBlank
  idle :
    ¬ w.definition.active →
      ∃ ns, ran.2 = hear ns (e.addedAs place [] w)
  whole :
    w.definition.active →
    w.IsAudible →
      (∃ ns,
        ran.2 =
          hear ns
            (e.addedAs place
              (Trigger.requestsFrom place 0 w.triggers)
              ⟨w.definition,
                Trigger.boundFrom e.bus.issued place 0
                  w.triggers⟩)) ∧
      ∀ index t,
        w.triggers[index]? = some t →
          ∃ t',
            ran.2.triggerAt? place index = some t' ∧
              t.BecameBound ran.2.bus place index t'
  broken :
    ∀ done t rest,
      w.definition.active →
      w.triggers = done ++ t :: rest →
      (∀ u ∈ done, u.type.IsAudible) →
      ¬ t.type.IsAudible →
        let requests := Trigger.requestsFrom place 0 done
        let heard :=
          t.type.heardRequests place done.length
        (∃ ns,
          ran.2 =
            hear ns
              (e.addedAs place (requests ++ heard)
                ⟨w.definition,
                  Trigger.boundFrom e.bus.issued place 0
                      done ++
                    t.claimed place
                      (Bus.numbered
                        (e.bus.issued + requests.length)
                        heard) ::
                    rest⟩)) ∧
        ∀ index u,
          done[index]? = some u →
            ∃ u',
              ran.2.triggerAt? place index = some u' ∧
                u.BecameBound ran.2.bus place index u'

variable {e : Engine}
variable {place : Nat}
variable {w : Workflow}

/- A workflow that has a place stands between others. -/
theorem exists_between
    (hFound : e.workflowAt? place = some w) :
    ∃ before after,
      e.built = before ++ w :: after ∧
      before.length = place ∧
      ∀ w', e.built.set place w' = before ++ w' :: after := by
  rcases List.getElem?_eq_some_iff.mp hFound with
    ⟨hPlace, hHere⟩
  rcases @List.exists_of_set _ place w _ hPlace with
    ⟨before, after, hBuilt, rfl, -⟩
  rw [hHere] at hBuilt
  refine ⟨before, after, hBuilt, rfl, ?_⟩
  intro w'
  simp [hBuilt]

/- A workflow is added before its triggers are bound. -/
theorem exists_add_eq
    (hFound : e.workflowAt? place = some w) :
    ∃ ns,
      add place true e =
        init place
          (hear ns
            { e with added := e.added ++ [place] }) := by
  have hKept :
      workflowAt? { e with added := e.added ++ [place] }
        place = some w := hFound
  refine
    ⟨[.workflowAdded w.id w.definition.triggers true], ?_⟩
  rw [add, Act.change_bind, Act.look_bind, hKept]
  rfl

/- A workflow that is not active is added as it is. -/
theorem add_of_idle
    (hFound : e.workflowAt? place = some w)
    (hIdle : ¬ w.definition.active) :
    ∃ ns,
      add place true e =
        (.ok (), hear ns (e.addedAs place [] w)) := by
  rcases exists_add_eq hFound with ⟨ns, hAdd⟩
  rcases exists_between hFound with
    ⟨before, after, hBuilt, -, hSet⟩
  refine ⟨ns ++ [.bindingSkipped w.id], ?_⟩
  have hKept :
      workflowAt?
          (hear ns { e with added := e.added ++ [place] })
          place = some w := hFound
  rw [hAdd, init, Act.look_bind, hKept]
  dsimp only
  rw [if_neg hIdle, addedAs, hSet, ← hBuilt, bound_nil rfl,
    ← hear_hear]
  rfl

/- All triggers are bound if none hears a blank event. -/
theorem add_of_audible
    (hFound : e.workflowAt? place = some w)
    (hActive : w.definition.active)
    (hAudible : w.IsAudible) :
    ∃ ns,
      add place true e =
        (.ok (),
          hear ns
            (e.addedAs place
              (Trigger.requestsFrom place 0 w.triggers)
              ⟨w.definition,
                Trigger.boundFrom e.bus.issued place 0
                  w.triggers⟩)) := by
  rcases exists_add_eq hFound with ⟨ns, hAdd⟩
  rcases exists_between hFound with
    ⟨before, after, hBuilt, rfl, hSet⟩
  rcases init_eq (e := hear ns { e with added := _ }) hBuilt
    hAudible with ⟨ms, hInit⟩
  rw [Workflow.requests, if_pos hActive, Workflow.bound,
    if_pos hActive] at hInit
  refine ⟨ns ++ ms, ?_⟩
  rw [hAdd, hInit, addedAs, hSet, ← hear_hear]
  rfl

/- Triggers are bound up to one that hears a blank event. -/
theorem add_of_blank
    (hFound : e.workflowAt? place = some w)
    (hActive : w.definition.active)
    {done rest : List Trigger}
    {t : Trigger}
    (hTriggers : w.triggers = done ++ t :: rest)
    (hDone : ∀ u ∈ done, u.type.IsAudible)
    (hBlank : ¬ t.type.IsAudible) :
    let requests := Trigger.requestsFrom place 0 done
    let heard := t.type.heardRequests place done.length
    ∃ ns,
      add place true e =
        (.error .eventBlank,
          hear ns
            (e.addedAs place (requests ++ heard)
              ⟨w.definition,
                Trigger.boundFrom e.bus.issued place 0
                    done ++
                  t.claimed place
                    (Bus.numbered
                      (e.bus.issued + requests.length)
                      heard) ::
                  rest⟩)) := by
  rcases w with ⟨d, ts⟩
  cases hTriggers
  rcases exists_add_eq hFound with ⟨ns, hAdd⟩
  rcases exists_between hFound with
    ⟨before, after, hBuilt, rfl, hSet⟩
  rcases bindTriggers_of_blank
    (e := hear ns { e with added := _ }) hBuilt hDone hBlank
    with ⟨ms, hBind⟩
  refine ⟨ns ++ ms, ?_⟩
  have hKept :
      workflowAt?
          (hear ns
            { e with added := e.added ++ [before.length] })
          before.length =
        some ⟨d, done ++ t :: rest⟩ := hFound
  rw [hAdd, init, Act.look_bind, hKept]
  dsimp only
  rw [if_pos hActive, hBind, addedAs, hSet, ← hear_hear]
  rfl

/- The triggers of the workflow that was added. -/
theorem triggerAt?_addedAs
    (hFound : e.workflowAt? place = some w)
    (requests : List Bus.Request)
    (w' : Workflow)
    (ns : List Notice)
    (index : Nat) :
    (hear ns (e.addedAs place requests w')).triggerAt? place
        index =
      w'.triggers[index]? := by
  rcases List.getElem?_eq_some_iff.mp hFound with
    ⟨hPlace, -⟩
  simp [hear, addedAs, bound, triggerAt?, workflowAt?,
    hPlace]

/- To add a workflow binds its triggers in order. -/
theorem addsInOrder_add
    (hFound : e.workflowAt? place = some w) :
    AddsInOrder e place w (add place true e) := by
  constructor
  · intro hWhole
    by_cases hActive : w.definition.active
    · rcases add_of_audible hFound hActive (hWhole hActive)
        with ⟨ns, hAdd⟩
      rw [hAdd]
    · rcases add_of_idle hFound hActive with ⟨ns, hAdd⟩
      rw [hAdd]
  · intro hActive hBlank
    rcases Trigger.exists_first_of_blank hBlank with
      ⟨done, t, rest, hTriggers, hDone, hDeaf⟩
    rcases add_of_blank hFound hActive hTriggers hDone hDeaf
      with ⟨ns, hAdd⟩
    rw [hAdd]
  · intro hIdle
    rcases add_of_idle hFound hIdle with ⟨ns, hAdd⟩
    exact ⟨ns, congrArg Prod.snd hAdd⟩
  · intro hActive hAudible
    rcases add_of_audible hFound hActive hAudible with
      ⟨ns, hAdd⟩
    refine ⟨⟨ns, congrArg Prod.snd hAdd⟩, ?_⟩
    intro index t hTrigger
    rcases Trigger.becameBound_boundFrom (b := e.bus)
      hAudible place 0 hTrigger [] with ⟨t', hAt, hBound⟩
    rw [List.append_nil, Nat.zero_add] at hBound
    rw [hAdd, triggerAt?_addedAs hFound]
    exact ⟨t', hAt, hBound⟩
  · intro done t rest hActive hTriggers hDone hBlank
    rcases add_of_blank hFound hActive hTriggers hDone hBlank
      with ⟨ns, hAdd⟩
    refine ⟨⟨ns, congrArg Prod.snd hAdd⟩, ?_⟩
    intro index u hTrigger
    rcases Trigger.becameBound_boundFrom (b := e.bus)
      hDone place 0 hTrigger
      (t.type.heardRequests place done.length) with
      ⟨u', hAt, hBound⟩
    rw [Nat.zero_add] at hBound
    have hPlace :
        index <
          (Trigger.boundFrom e.bus.issued place 0
            done).length := by
      rw [Trigger.length_boundFrom]
      exact (List.getElem?_eq_some_iff.mp hTrigger).1
    rw [hAdd, triggerAt?_addedAs hFound,
      List.getElem?_append_left hPlace]
    exact ⟨u', hAt, hBound⟩

/-
  To add a workflow and to bind its triggers, or to build it
  first, puts it behind the others before its triggers are
  bound in order.  A trigger that hears a blank event ends
  this, and what was done before it is kept; a definition
  that cannot be built is not added.
-/
theorem add_binds_in_order (e : Engine) :
    (∀ place w,
      e.workflowAt? place = some w →
        AddsInOrder e place w (add place true e)) ∧
    ∀ v,
      (∀ failure,
        (buildValue v e).1 = .error failure →
          ∃ ns,
            buildAndAdd v true e =
              (.error failure, hear ns e)) ∧
      ∀ w,
        (buildValue v e).1 = .ok w →
          let placed := { e with built := e.built ++ [w] }
          ∃ ran,
            AddsInOrder placed e.built.length w ran ∧
              buildAndAdd v true e =
                (ran.1.map fun _ => e.built.length,
                  ran.2) := by
  refine ⟨fun place w => addsInOrder_add, ?_⟩
  intro v
  rcases buildValue_tells (e := e) v with ⟨ns, hTells⟩
  constructor
  · intro failure hFails
    have hBuild :
        buildValue v e = (.error failure, hear ns e) :=
      Prod.ext hFails hTells
    exact ⟨ns, Act.bind_of_error hBuild⟩
  · intro w hBuilds placed
    have hFound :
        placed.workflowAt? e.built.length = some w := by
      simp [placed, workflowAt?]
    refine ⟨_, addsInOrder_add hFound, ?_⟩
    rw [buildAndAdd, Act.bind_of_ok (buildValue_of_ok hBuilds)]
    exact Act.bind_pure_apply _ (fun _ => e.built.length) _

/- A type of triggers whose event is the default, blank. -/
def mute : TriggerType :=
  { name := "Mute", slug := "mute" }

open scoped Bare in
/- An engine with a type that hears and one that does not. -/
def halfDeaf : Engine :=
  (registerAll
    [ .trigger (.item (.trigger Builtin.contactCreated)),
      .trigger (.item (.trigger mute)),
      .step (.item (.step Builtin.addContactLog)) ] {}).2

/- A definition that lists both types. -/
def halfHeard : Value :=
  .object [
    ("id", .str "w"),
    ("name", .str "W"),
    ("triggers",
      .list [.str "crm/contact_created", .str "mute"]),
    ("initial_step", .str "s"),
    ("steps", .object [
      ("s", .object [
        ("slug", .str "crm/add_contact_log"),
        ("attributes", .object [("type", .str "note")])
      ])
    ])
  ]

/- It can be built, and its second trigger is not heard. -/
theorem add_binds_in_order_halfHeard :
    ∃ w first second ns,
      (buildValue halfHeard halfDeaf).1 = .ok w ∧
        w.triggers = [first, second] ∧
        first.type.IsAudible ∧
        ¬ second.type.IsAudible ∧
        buildAndAdd halfHeard true halfDeaf =
          (.error .eventBlank,
            hear ns
              (addedAs 0
                (Trigger.requestsFrom 0 0 [first])
                ⟨w.definition,
                  [ first.bound 0
                      (Bus.numbered 0
                        (first.type.requests 0 0)),
                    second.claimed 0 [] ]⟩
                { halfDeaf with built := [w] })) := by
  have hSeen :
      (buildValue halfHeard halfDeaf).1.toOption.map
          (fun w =>
            (w.definition.active,
              w.triggers.map Trigger.type)) =
        some (true, [Builtin.contactCreated, mute]) := by
    decide +kernel
  cases hBuilds : (buildValue halfHeard halfDeaf).1 with
  | error failure =>
      rw [hBuilds] at hSeen
      cases hSeen
  | ok w =>
      rw [hBuilds] at hSeen
      rcases Prod.mk.inj (Option.some.inj hSeen) with
        ⟨hActive, hTypes⟩
      rcases List.map_eq_cons_iff.mp hTypes with
        ⟨first, rest, hTriggers, hFirst, hRest⟩
      rcases List.map_eq_singleton_iff.mp hRest with
        ⟨second, rfl, hSecond⟩
      have hAudible : first.type.IsAudible := by
        rw [hFirst]
        decide
      have hBlank : ¬ second.type.IsAudible := by
        rw [hSecond]
        decide
      have hNothing :
          second.type.heardRequests 0 1 = [] := by
        rw [hSecond]
        decide
      rcases ((add_binds_in_order halfDeaf).2 halfHeard).2 w
        hBuilds with ⟨ran, hAdds, hRan⟩
      rcases (hAdds.broken [first] second [] hActive
        hTriggers (by simpa using hAudible) hBlank).1 with
        ⟨ns, hLeft⟩
      have hFails := hAdds.fails hActive fun hAll =>
        hBlank (hAll second (by simp [hTriggers]))
      refine ⟨w, first, second, ns, rfl, hTriggers,
        hAudible, hBlank, ?_⟩
      have hNew :
          halfDeaf.built = [] ∧ halfDeaf.bus = {} :=
        ⟨rfl, rfl⟩
      rw [hRan, hFails, hLeft]
      simp [hNew, hNothing, Trigger.boundFrom, Bus.numbered,
        Except.map]

/-
  The workflow is added although adding it fails, its first
  trigger is bound, and its second is given to it.
-/
theorem buildAndAdd_keeps_bound_trigger :
    let ran := buildAndAdd halfHeard true halfDeaf
    ran.1 = .error .eventBlank ∧
      halfDeaf.workflows.map Workflow.id = [] ∧
      halfDeaf.bus.live = [] ∧
      ran.2.workflows.map Workflow.id = ["w"] ∧
      ran.2.bus.live.map Subscription.event =
        ["contact_created"] ∧
      (ran.2.workflows.map fun w =>
        w.triggers.map fun t => (t.owner?, t.isBound)) =
        [[(some 0, true), (some 0, false)]] := by
  refine ⟨?_, ?_⟩
  · rfl
  · decide +kernel

end Engine

end EventFlow
