import EventFlow.Proofs.ClosedGraph
import EventFlow.Proofs.Registries

/-
  What contacts hold decides no walk.

  A contact store is tidy when each of its tags can be a
  member of a set.  Whatever is done with a tidy store it
  stays tidy, and whether a step fails, and how, is the same
  over any two tidy stores: what a step tells and where it
  leads to never depends on what others have written.  So a
  walk yields one outcome over all of them.

  Key definitions include:
    * `ContactStore.IsTidy`
    * `DataAccess.IsTidy`
    * `Effect.Matches`
    * `Walk.BodiesWithin`
    * `Engine.HasOwnSteps`
    * `Walked.Matches`

  Key theorems include:
    * `Tags.failure?_updated`
    * `Step.execute_matches`
    * `Walk.follow_matches`
    * `Walk.take_matches`
    * `Engine.isInterrupt_of_execute`
-/

------------------------------------------------------------
-- Members of Sets
------------------------------------------------------------

namespace EventFlow

namespace Value

/- Whether a value can be a member of a set. -/
def IsMember (v : Value) : Prop :=
  v.key = .ok v

variable {v w : Value}
variable {vs ws : List Value}

/- What is made a member is unchanged. -/
theorem isMember_of_key
    (hKey : v.key = .ok w) :
    w = v ∧ v.IsMember := by
  unfold IsMember
  unfold key at hKey ⊢
  by_cases hContainer : v.isContainer
  · rw [if_pos hContainer] at hKey
    cases hKey
  · rw [if_neg hContainer] at hKey ⊢
    exact ⟨(Except.ok.inj hKey).symm, rfl⟩

theorem isMember_of_mapM_key
    (hKeys : vs.mapM key = .ok ws) :
    ws = vs ∧ ∀ v ∈ vs, v.IsMember := by
  induction vs generalizing ws with
  | nil =>
      cases hKeys
      exact ⟨rfl, fun v hMem => absurd hMem List.not_mem_nil⟩
  | cons v vs ih =>
      rw [List.mapM_cons] at hKeys
      rcases Outcome.bind_eq_ok hKeys with
        ⟨x, hFirst, hKeys⟩
      rcases Outcome.bind_eq_ok hKeys with
        ⟨xs, hRest, hPure⟩
      rcases isMember_of_key hFirst with ⟨rfl, hMember⟩
      rcases ih hRest with ⟨rfl, hMembers⟩
      cases hPure
      refine ⟨rfl, ?_⟩
      rw [List.forall_mem_cons]
      exact ⟨hMember, hMembers⟩

theorem mapM_key_of_isMember
    (hMembers : ∀ v ∈ vs, v.IsMember) :
    vs.mapM key = .ok vs := by
  induction vs with
  | nil => rfl
  | cons v vs ih =>
      rw [List.forall_mem_cons] at hMembers
      rw [List.mapM_cons, hMembers.1, ih hMembers.2]
      rfl

/- A set has no members but those that are listed. -/
theorem mem_of_mem_distinct
    (hMem : v ∈ distinct vs) :
    v ∈ vs := by
  have hKept (kept : List Value)
      (hFold :
        v ∈ vs.foldl
          (fun kept v =>
            if v.isAmong kept then kept else kept ++ [v])
          kept) :
      v ∈ kept ∨ v ∈ vs := by
    clear hMem
    induction vs generalizing kept with
    | nil => exact .inl hFold
    | cons w vs ih =>
        rw [List.mem_cons]
        rcases ih _ hFold with hOld | hLater
        · dsimp only at hOld
          split at hOld
          · exact .inl hOld
          · rw [List.mem_append, List.mem_singleton] at hOld
            rcases hOld with hOld | hNew
            · exact .inl hOld
            · exact .inr (.inl hNew)
        · exact .inr (.inr hLater)
  rcases hKept [] hMem with hNone | hListed
  · exact absurd hNone List.not_mem_nil
  · exact hListed

end Value

end EventFlow

------------------------------------------------------------
-- Tags
------------------------------------------------------------

namespace EventFlow

namespace Tags

variable {current current' vs ws : List Value}
variable {tags : Value}

theorem isMember_of_members
    (hMembers : members vs = .ok ws) :
    ∀ v ∈ ws, v.IsMember := by
  rcases Outcome.map_eq_ok hMembers with ⟨xs, hKeys, rfl⟩
  rcases Value.isMember_of_mapM_key hKeys with ⟨rfl, hEach⟩
  intro v hMem
  exact hEach v (Value.mem_of_mem_distinct hMem)

theorem sublist_of_removed
    (hRemoved : removed tags current = .ok ws) :
    List.Sublist ws current := by
  induction current generalizing ws with
  | nil =>
      cases hRemoved
      exact .slnil
  | cons tag rest ih =>
      rw [removed] at hRemoved
      cases hListed : listed tags tag with
      | error failure =>
          rw [hListed] at hRemoved
          cases hRemoved
      | ok isListed =>
          rw [hListed] at hRemoved
          rcases Outcome.map_eq_ok hRemoved with
            ⟨kept, hRest, rfl⟩
          cases isListed with
          | true => exact (ih hRest).cons tag
          | false => exact (ih hRest).cons_cons tag

/- An update leaves members only, whatever it is given. -/
theorem isMember_of_updated
    {mode : TagMode}
    (hCurrent : ∀ v ∈ current, v.IsMember)
    (hUpdated : updated mode current tags = .ok ws) :
    ∀ v ∈ ws, v.IsMember := by
  cases mode with
  | replace =>
      change replaced tags = .ok ws at hUpdated
      unfold replaced at hUpdated
      cases hItems : tags.items with
      | error failure =>
          rw [hItems] at hUpdated
          cases hUpdated
      | ok vs =>
          rw [hItems] at hUpdated
          exact isMember_of_members hUpdated
  | append =>
      change appended current tags = .ok ws at hUpdated
      unfold appended at hUpdated
      cases hItems : tags.items? with
      | none =>
          rw [hItems] at hUpdated
          cases hUpdated
      | some vs =>
          rw [hItems] at hUpdated
          exact isMember_of_members hUpdated
  | remove =>
      intro v hMem
      apply hCurrent v
      exact (sublist_of_removed hUpdated).subset hMem

/- Behind members, other values fail as on their own. -/
theorem failure?_members_append
    (hCurrent : ∀ v ∈ current, v.IsMember)
    (vs : List Value) :
    Outcome.failure? (members (current ++ vs)) =
      Outcome.failure? (members vs) := by
  unfold members
  rw [List.mapM_append, Value.mapM_key_of_isMember hCurrent]
  cases vs.mapM Value.key with
  | error failure => rfl
  | ok ws => rfl

/- Nothing keeps tags from being removed by a list. -/
theorem failure?_removed
    (vs current : List Value) :
    Outcome.failure? (removed (.list vs) current) = none := by
  induction current with
  | nil => rfl
  | cons tag rest ih =>
      rw [removed]
      change Outcome.failure?
        ((removed (.list vs) rest).map _) = none
      cases hRest : removed (.list vs) rest with
      | error failure =>
          rw [hRest] at ih
          cases ih
      | ok kept => rfl

/-
  Whether an update by a list fails, and how, does not depend
  on the tags that there are.
-/
theorem failure?_updated
    (hCurrent : ∀ v ∈ current, v.IsMember)
    (hCurrent' : ∀ v ∈ current', v.IsMember)
    (mode : TagMode)
    (vs : List Value) :
    Outcome.failure? (updated mode current (.list vs)) =
      Outcome.failure? (updated mode current' (.list vs)) := by
  cases mode with
  | replace => rfl
  | append =>
      change Outcome.failure? (members (current ++ vs)) =
        Outcome.failure? (members (current' ++ vs))
      rw [failure?_members_append hCurrent,
        failure?_members_append hCurrent']
  | remove =>
      change Outcome.failure? (removed (.list vs) current) =
        Outcome.failure? (removed (.list vs) current')
      rw [failure?_removed, failure?_removed]

end Tags

end EventFlow

------------------------------------------------------------
-- Tidy Stores
------------------------------------------------------------

namespace EventFlow

namespace ContactStore

/- Whether every tag can be a member of a set. -/
def IsTidy (s : ContactStore) : Prop :=
  ∀ entry ∈ s.tags, ∀ tag ∈ entry.2, tag.IsMember

variable {s s' : ContactStore}

/- An empty store is tidy. -/
theorem isTidy_empty : IsTidy {} :=
  fun _ hMem => absurd hMem List.not_mem_nil

theorem IsTidy.tagsOf
    (hTidy : s.IsTidy)
    (contact : Value) :
    ∀ tag ∈ s.tagsOf contact, tag.IsMember := by
  unfold ContactStore.tagsOf
  cases hFound : s.tags.lookup contact.text with
  | none => exact fun tag hMem => absurd hMem List.not_mem_nil
  | some tags => exact hTidy _ (Entries.mem_of_lookup hFound)

/- To add a log leaves the tags. -/
theorem IsTidy.addLog
    (hTidy : s.IsTidy)
    (contact : Value)
    (log : ContactLog) :
    (s.addLog contact log).IsTidy :=
  hTidy

/- An update leaves a tidy store. -/
theorem IsTidy.updateTags
    (hTidy : s.IsTidy)
    {contact tags mode : Value}
    {written : List Value}
    (hUpdated :
      s.updateTags contact tags mode = .ok (s', written)) :
    s'.IsTidy := by
  unfold ContactStore.updateTags at hUpdated
  cases hMode : TagMode.ofValue? mode with
  | none =>
      rw [hMode] at hUpdated
      cases hUpdated
  | some mode =>
      rw [hMode] at hUpdated
      dsimp only at hUpdated
      cases hTags :
          Tags.updated mode (s.tagsOf contact) tags with
      | error failure =>
          rw [hTags] at hUpdated
          cases hUpdated
      | ok new =>
          rw [hTags] at hUpdated
          cases hUpdated
          intro entry hMem
          rcases Entries.mem_of_mem_put hMem with rfl | hOld
          · exact Tags.isMember_of_updated
              (hTidy.tagsOf contact) hTags
          · exact hTidy entry hOld

/- Over tidy stores an update by a list fails alike. -/
theorem failure?_updateTags
    (hTidy : s.IsTidy)
    (hTidy' : s'.IsTidy)
    (contact mode : Value)
    (vs : List Value) :
    Outcome.failure?
        (s.updateTags contact (.list vs) mode) =
      Outcome.failure?
        (s'.updateTags contact (.list vs) mode) := by
  unfold ContactStore.updateTags
  cases TagMode.ofValue? mode with
  | none => rfl
  | some mode =>
      have hSame :=
        Tags.failure?_updated (hTidy.tagsOf contact)
          (hTidy'.tagsOf contact) mode vs
      dsimp only
      cases hFirst : Tags.updated mode (s.tagsOf contact)
          (.list vs) <;>
        cases hSecond : Tags.updated mode (s'.tagsOf contact)
            (.list vs) <;>
          rw [hFirst, hSecond] at hSame <;> exact hSame

end ContactStore

namespace DataAccess

/- Whether the access is one to a tidy store. -/
def IsTidy : DataAccess → Prop
| .contacts store => store.IsTidy
| _ => False

variable {access access' : DataAccess}

theorem IsTidy.exists_store
    (hTidy : access.IsTidy) :
    ∃ store, access = .contacts store ∧ store.IsTidy := by
  cases access with
  | contacts store => exact ⟨store, rfl, hTidy⟩
  | none => exact False.elim hTidy
  | recorder calls => exact False.elim hTidy
  | refusing => exact False.elim hTidy

theorem IsTidy.addLog
    (hTidy : access.IsTidy)
    {contact : Value}
    {log : ContactLog}
    (hAdded : access.addLog contact log = .ok access') :
    access'.IsTidy := by
  rcases hTidy.exists_store with ⟨store, rfl, hStore⟩
  cases hAdded
  exact hStore.addLog contact log

theorem IsTidy.updateTags
    (hTidy : access.IsTidy)
    {contact tags mode written : Value}
    (hUpdated :
      access.updateTags contact tags mode =
        .ok (access', written)) :
    access'.IsTidy := by
  rcases hTidy.exists_store with ⟨store, rfl, hStore⟩
  rcases Outcome.map_eq_ok hUpdated with
    ⟨⟨store', new⟩, hStored, hSame⟩
  cases hSame
  exact hStore.updateTags hStored

end DataAccess

end EventFlow

------------------------------------------------------------
-- Effects That Match
------------------------------------------------------------

namespace EventFlow

/-
  Whether effects over two data accesses match: they differ
  in what the accesses hold only, and both are tidy.
-/
structure Effect.Matches (x y : Effect) : Prop where
  step : x.step = y.step
  traces : x.traces = y.traces
  failure? : x.failure? = y.failure?
  tidy : x.access.IsTidy
  tidy' : y.access.IsTidy

namespace Step

variable {s : Step}
variable {access access' : DataAccess}
variable {traces : List TraceEntry}
variable {payload : Value}

theorem failing_matches
    (hTidy : access.IsTidy)
    (hTidy' : access'.IsTidy)
    (failure : Failure) :
    (s.failing access traces failure).Matches
      (s.failing access' traces failure) :=
  ⟨rfl, rfl, rfl, hTidy, hTidy'⟩

theorem deciding_matches
    (hTidy : access.IsTidy)
    (hTidy' : access'.IsTidy)
    (met : Bool) :
    (s.deciding access traces met).Matches
      (s.deciding access' traces met) :=
  ⟨rfl, rfl, rfl, hTidy, hTidy'⟩

theorem accessing_matches
    (hTidy : access.IsTidy)
    (hTidy' : access'.IsTidy) :
    (s.accessing access traces).Matches
      (s.accessing access' traces) :=
  ⟨rfl, rfl, rfl, hTidy, hTidy'⟩

/- Uses that fail alike and leave tidy stores match. -/
theorem applying_matches
    (hTidy : access.IsTidy)
    (hTidy' : access'.IsTidy)
    {used used' : Except Failure DataAccess}
    (hFails :
      Outcome.failure? used = Outcome.failure? used')
    (hUsed : ∀ after, used = .ok after → after.IsTidy)
    (hUsed' : ∀ after, used' = .ok after → after.IsTidy) :
    (s.applying access traces used).Matches
      (s.applying access' traces used') := by
  unfold applying reach
  by_cases hDetached : s.isDetached
  · rw [if_pos hDetached, if_pos hDetached]
    exact failing_matches hTidy hTidy' _
  · rw [if_neg hDetached, if_neg hDetached]
    cases used with
    | error failure =>
        cases used' with
        | error failure' =>
            cases hFails
            exact failing_matches hTidy hTidy' failure
        | ok after' => cases hFails
    | ok after =>
        cases used' with
        | error failure' => cases hFails
        | ok after' =>
            exact accessing_matches (hUsed after rfl)
              (hUsed' after' rfl)

theorem compareField_matches
    (hTidy : access.IsTidy)
    (hTidy' : access'.IsTidy)
    (subject : String) :
    (s.compareField subject payload access).Matches
      (s.compareField subject payload access') := by
  unfold compareField
  cases s.comparisonSettings with
  | error failure => exact failing_matches hTidy hTidy' _
  | ok settings =>
      rcases settings with ⟨field, operator, value⟩
      dsimp only
      cases FieldCondition.actual? payload field with
      | error failure => exact failing_matches hTidy hTidy' _
      | ok actual? =>
          cases actual? with
          | none => exact deciding_matches hTidy hTidy' _
          | some actual =>
              dsimp only
              unfold compareValue
              by_cases hAllowed : s.type.allowsOperator operator
              · rw [if_pos hAllowed, if_pos hAllowed]
                cases FieldCondition.evaluate operator actual
                    value with
                | error failure =>
                    exact failing_matches hTidy hTidy' _
                | ok met =>
                    exact deciding_matches hTidy hTidy' _
              · rw [if_neg hAllowed, if_neg hAllowed]
                exact failing_matches hTidy hTidy' _

theorem addContactLog_matches
    (hTidy : access.IsTidy)
    (hTidy' : access'.IsTidy) :
    (s.addContactLog payload access).Matches
      (s.addContactLog payload access') := by
  unfold addContactLog
  cases s.contact payload with
  | error failure => exact failing_matches hTidy hTidy' _
  | ok contact =>
      dsimp only
      cases s.contactLog with
      | error failure => exact failing_matches hTidy hTidy' _
      | ok log =>
          refine applying_matches hTidy hTidy' ?_
            (fun after hUsed => hTidy.addLog hUsed)
            (fun after hUsed => hTidy'.addLog hUsed)
          rcases hTidy.exists_store with ⟨store, rfl, -⟩
          rcases hTidy'.exists_store with ⟨store', rfl, -⟩
          rfl

/-
  The tags of a step come as a list, so that its update fails
  alike over tidy stores.
-/
theorem changeContactTags_matches
    (hTidy : access.IsTidy)
    (hTidy' : access'.IsTidy) :
    (s.changeContactTags payload access).Matches
      (s.changeContactTags payload access') := by
  unfold changeContactTags
  cases s.contact payload with
  | error failure => exact failing_matches hTidy hTidy' _
  | ok contact =>
      dsimp only
      cases s.tagSettings with
      | error failure => exact failing_matches hTidy hTidy' _
      | ok settings =>
          rcases settings with ⟨mode, tags⟩
          have hLeft {a : DataAccess} (hA : a.IsTidy)
              (after : DataAccess)
              (hUsed :
                (a.updateTags contact (.list tags) mode).map
                  Prod.fst = .ok after) :
              after.IsTidy := by
            rcases Outcome.map_eq_ok hUsed with
              ⟨⟨after, written⟩, hUpdated, rfl⟩
            exact hA.updateTags hUpdated
          refine applying_matches hTidy hTidy' ?_
            (hLeft hTidy) (hLeft hTidy')
          rcases hTidy.exists_store with ⟨store, rfl, hStore⟩
          rcases hTidy'.exists_store with
            ⟨store', rfl, hStore'⟩
          have hFails :=
            ContactStore.failure?_updateTags hStore hStore'
              contact mode tags
          simp only [DataAccess.updateTags,
            Outcome.failure?_map]
          exact hFails

/-
  Over tidy stores a step has one effect, unless its type
  brings a body along.
-/
theorem execute_matches
    [Surroundings]
    (hOwn : s.type.behavior.isForeign = false)
    (hTidy : access.IsTidy)
    (hTidy' : access'.IsTidy)
    (payload : Value) :
    (s.execute payload access).Matches
      (s.execute payload access') := by
  unfold execute
  cases hBehavior : s.type.behavior with
  | compareField subject =>
      exact compareField_matches hTidy hTidy' subject
  | addContactLog => exact addContactLog_matches hTidy hTidy'
  | changeContactTags =>
      exact changeContactTags_matches hTidy hTidy'
  | foreign variant =>
      rw [hBehavior] at hOwn
      cases hOwn

end Step

end EventFlow

------------------------------------------------------------
-- Walks of the Library's Own Steps
------------------------------------------------------------

namespace EventFlow

namespace Walk

variable [Surroundings]

/-
  Whether the bodies that the steps of a walk bring along
  fail with failures of a kind only.
-/
def BodiesWithin
    (kind : Failure → Bool)
    (w : Walk) : Prop :=
  ∀ id s step access,
    w.definition.steps.lookup id = some s →
      w.makeStep s.slug (WorkflowDefinition.dataOf id s) =
          .ok step →
        step.type.behavior.isForeign = true →
          let effect := step.execute w.payload access
          effect.Within kind ∧
            Outcome.Within kind effect.step.next

/- Whether no step of a walk brings a body along. -/
def IsOwn (w : Walk) : Prop :=
  ∀ id s step,
    w.definition.steps.lookup id = some s →
      w.makeStep s.slug (WorkflowDefinition.dataOf id s) =
          .ok step →
        step.type.behavior.isForeign = false

/- Where no body is brought along, none fails. -/
theorem IsOwn.bodiesWithin
    {w : Walk}
    (hOwn : w.IsOwn)
    (kind : Failure → Bool) :
    w.BodiesWithin kind := by
  intro id s step access hDefined hMade hForeign
  rw [hOwn id s step hDefined hMade] at hForeign
  cases hForeign

end Walk

namespace Engine

variable {e : Engine}

/- Whether no registered type of steps brings a body along. -/
def HasOwnSteps (e : Engine) : Prop :=
  e.Holds fun type => type.behavior.isForeign = false

/- A walk makes its steps of the types that are registered. -/
theorem HasOwnSteps.isOwn_walkOf
    (hOwn : e.HasOwnSteps)
    (d : WorkflowDefinition)
    (trigger : TriggerType)
    (payload correlationId : Value) :
    (e.walkOf d trigger payload correlationId).IsOwn := by
  intro id s step hDefined hMade
  rcases hOwn _ _ (lookup_of_makeStep hMade).1 with
    ⟨type, hSame, hType⟩
  cases hSame
  exact hType

/- The built-in types bring no bodies along. -/
theorem hasOwnSteps_stocked
    [Surroundings] :
    stocked.HasOwnSteps := by
  intro slug entry hEntry
  rw [stepTypes_stocked, lookup_slugs] at hEntry
  rcases Option.map_eq_some_iff.mp hEntry with
    ⟨type, hFound, rfl⟩
  exact ⟨type, rfl, Builtin.isForeign_of_typeOf? hFound⟩

end Engine

end EventFlow

------------------------------------------------------------
-- Walks That Match
------------------------------------------------------------

namespace EventFlow

/-
  Whether walks over two data accesses match: they differ in
  what the accesses hold only, and both are tidy.
-/
structure Walked.Matches (x y : Walked) : Prop where
  notices : x.notices = y.notices
  outcome : x.outcome = y.outcome
  tidy : x.access.IsTidy
  tidy' : y.access.IsTidy

namespace Walk

variable {access access' : DataAccess}

/- Walks that match still do so behind the same step. -/
theorem behind_matches
    {x y : Walked}
    (hMatches : x.Matches y)
    (notices : List Notice)
    (o : StepOutcome) :
    (x.behind notices o).Matches (y.behind notices o) where
  notices := congrArg (notices ++ ·) hMatches.notices
  outcome :=
    congrArg (Except.map (o :: ·)) hMatches.outcome
  tidy := hMatches.tidy
  tidy' := hMatches.tidy'

/- By induction on the steps left, each of which matches. -/
theorem follow_matches
    [Surroundings]
    {w : Walk}
    (hOwn : w.IsOwn)
    (hTidy : access.IsTidy)
    (hTidy' : access'.IsTidy)
    (n : Nat)
    (v : Value) :
    (w.follow n v access).Matches (w.follow n v access') := by
  induction n generalizing v access access' with
  | zero =>
      by_cases hEnd : v = .null
      · subst hEnd
        rw [follow_null, follow_null]
        exact ⟨rfl, rfl, hTidy, hTidy'⟩
      · rw [follow_zero hEnd, follow_zero hEnd]
        exact ⟨rfl, rfl, hTidy, hTidy'⟩
  | succ n ih =>
      by_cases hEnd : v = .null
      · subst hEnd
        rw [follow_null, follow_null]
        exact ⟨rfl, rfl, hTidy, hTidy'⟩
      rw [follow_succ hEnd, follow_succ hEnd]
      cases hAt : w.definitionAt v with
      | error failure => exact ⟨rfl, rfl, hTidy, hTidy'⟩
      | ok found =>
          rcases found with ⟨id, s⟩
          dsimp only [executeAt]
          cases hMade : w.makeStep s.slug
              (WorkflowDefinition.dataOf id s) with
          | error failure => exact ⟨rfl, rfl, hTidy, hTidy'⟩
          | ok step =>
              dsimp only [Except.map]
              have hStep :=
                Step.execute_matches
                  (hOwn id s step (definitionAt_eq_ok hAt).2
                    hMade)
                  hTidy hTidy' w.payload
              rw [hStep.step, hStep.traces, hStep.failure?]
              split
              · exact ⟨rfl, rfl, hStep.tidy, hStep.tidy'⟩
              · split
                · exact ⟨rfl, rfl, hStep.tidy, hStep.tidy'⟩
                · exact behind_matches
                    (ih hStep.tidy hStep.tidy' _) _ _

/- Over tidy stores a walk has one outcome. -/
theorem take_matches
    [Surroundings]
    {w : Walk}
    (hOwn : w.IsOwn)
    (hTidy : access.IsTidy)
    (hTidy' : access'.IsTidy) :
    (w.take access).Matches (w.take access') := by
  have hFollow :=
    follow_matches hOwn hTidy hTidy' w.limit.toNat
      (.str w.definition.initialStep)
  refine ⟨?_, hFollow.outcome, hFollow.tidy, hFollow.tidy'⟩
  simp only [take, hFollow.notices, hFollow.outcome]

end Walk

end EventFlow

------------------------------------------------------------
-- Failures of Walks
------------------------------------------------------------

namespace EventFlow

namespace Engine

variable {e : Engine}
variable {d : WorkflowDefinition}
variable {trigger : TriggerType}
variable {payload correlationId : Value}

/- A step can be made unless its type is not there. -/
theorem isLookup_of_makeStep
    {id : String}
    {s : StepDefinition}
    {failure : Failure}
    (hMade :
      e.makeStep s.slug (WorkflowDefinition.dataOf id s) =
        .error failure) :
    failure.isLookup = true := by
  unfold makeStep stepEntry at hMade
  cases hEntry : e.stepTypes.lookup s.slug with
  | none =>
      rw [hEntry] at hMade
      cases hMade
      rfl
  | some entry =>
      rw [hEntry] at hMade
      cases entry with
      | stale =>
          cases hMade
          rfl
      | type type =>
          dsimp only at hMade
          rw [Step.make_dataOf] at hMade
          cases hMade

variable [Surroundings]

/-
  A walk breaks as a step fails, or as a lookup does, or as a
  body does that is brought along.
-/
theorem kind_of_breaks
    {kind : Failure → Bool}
    (hBodies :
      (e.walkOf d trigger payload correlationId).BodiesWithin
        kind)
    {v : Value}
    {access access' : DataAccess}
    {ns : List Notice}
    {failure : Failure}
    (hBreaks :
      (e.walkOf d trigger payload correlationId).Breaks
        v access access' ns failure) :
    failure.isOfStep = true ∨
      failure.isLookup = true ∨
        kind failure = true := by
  cases hBreaks with
  | undefined hSome hAt =>
      unfold Walk.definitionAt at hAt
      split at hAt
      · split at hAt
        · cases hAt
        · cases hAt
          exact .inr (.inl rfl)
      · split at hAt
        · cases hAt
          exact .inr (.inl rfl)
        · next other hKey =>
            cases hAt
            have hData := Value.within_key _ _ hKey
            exact .inl (Failure.isOfStep_of_isOfData hData)
  | unmade hSome hAt hMade =>
      exact .inr (.inl (isLookup_of_makeStep
        (Outcome.map_eq_error hMade)))
  | failed hSome hAt hEffect hFailed =>
      rcases Outcome.map_eq_ok hEffect with
        ⟨step, hMade, rfl⟩
      cases hForeign : step.type.behavior.isForeign with
      | false =>
          exact .inl (step.within_execute _ hForeign _ _
            hFailed)
      | true =>
          have hBody :=
            hBodies _ _ _ access
              (Walk.definitionAt_eq_ok hAt).2 hMade hForeign
          exact .inr (.inr (hBody.1 failure hFailed))
  | lost hSome hAt hEffect hFine hNext =>
      rcases Outcome.map_eq_ok hEffect with
        ⟨step, hMade, rfl⟩
      cases hForeign : step.type.behavior.isForeign with
      | false =>
          rw [Step.next_of_own
            (by rw [Step.type_execute]; exact hForeign)]
            at hNext
          cases hNext
      | true =>
          have hBody :=
            hBodies _ _ _ access
              (Walk.definitionAt_eq_ok hAt).2 hMade hForeign
          exact .inr (.inr (hBody.2 failure hNext))

/-
  Where no body is brought along, no walk breaks with a
  request to stop.
-/
theorem isInterrupt_of_breaks
    (hOwn : e.HasOwnSteps)
    {v : Value}
    {access access' : DataAccess}
    {ns : List Notice}
    {failure : Failure}
    (hBreaks :
      (e.walkOf d trigger payload correlationId).Breaks
        v access access' ns failure) :
    failure.isInterrupt = false := by
  have hBodies :=
    (hOwn.isOwn_walkOf d trigger payload
      correlationId).bodiesWithin fun _ => false
  rcases kind_of_breaks hBodies hBreaks with
    hStep | hLookup | hNone
  · exact Failure.isInterrupt_of_isOfStep hStep
  · exact Failure.isInterrupt_of_isLookup hLookup
  · cases hNone

/- Nor does any walk fail with one. -/
theorem isInterrupt_of_execute
    (hOwn : e.HasOwnSteps)
    {failure : Failure}
    (hFailure :
      (execute d trigger payload correlationId e).1 =
        .error failure) :
    failure.isInterrupt = false := by
  rcases (e.walkOf d trigger payload
    correlationId).exists_runs e.limit.toNat
      (e.walkOf d trigger payload correlationId).start
      e.access with
    ⟨os, ns, access', hLe, hRuns⟩ |
      ⟨os, ns, v', access', hEq, hSome, hRuns⟩ |
        ⟨os, ns, v', access', access'', ms, reason, hLt,
          hRuns, hBreaks⟩
  · rw [execute_of_take
      (Walk.take_of_finished hRuns hLe)] at hFailure
    cases hFailure
  · rw [execute_of_take
      (Walk.take_of_exhausted hRuns hSome hEq)] at hFailure
    cases hFailure
    rfl
  · rw [execute_of_take
      (Walk.take_of_broken hRuns hLt hBreaks)] at hFailure
    cases hFailure
    exact isInterrupt_of_breaks hOwn hBreaks

end Engine

end EventFlow
