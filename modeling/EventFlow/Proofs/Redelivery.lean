import EventFlow.Proofs.ContactTags
import EventFlow.Proofs.Cycles

/-
  A payload that is delivered again.

  Whether a contact has a tag behind a step depends on
  whether it had the tag before, and not the other way
  round: an update of tags sets a tag, clears it, or leaves
  it.  So a whole path takes the truth value of having a tag
  to another monotonically, and what is monotone on truth
  values does no more when it is done again.  The order of
  the tags may well change.

  Key definitions include:
    * `TagMode.keeps`
    * `StepDefinition.hasTag`
    * `WorkflowDefinition.hasTag`
    * `Engine.redelivered`

  Key theorems include:
    * `again_iff_of_monotone`
    * `StepDefinition.tags_of_performed`
    * `Course.tags`
    * `Course.anew`
    * `Engine.execute_again_keeps_tags`
-/

------------------------------------------------------------
-- Texts as Tags
------------------------------------------------------------

namespace EventFlow

namespace Value

/- Whether a value is a text. -/
def IsText (v : Value) : Prop :=
  ∃ s, v = .str s

variable {v w : Value}
variable {kept vs : List Value}

/- A text is the same as itself only. -/
theorem IsText.sameMember_iff
    (hText : v.IsText)
    (w : Value) :
    v.sameMember w = true ↔ v = w := by
  rcases hText with ⟨s, rfl⟩
  cases w with
  | float y =>
      cases y <;>
        simp [sameMember, areNaN, same, sameScalar, integer?]
  | _ =>
      simp [sameMember, areNaN, same, sameScalar, integer?]

/- Nothing but a text is the same as it. -/
theorem IsText.sameMember_iff'
    (hText : w.IsText)
    (v : Value) :
    v.sameMember w = true ↔ v = w := by
  rcases hText with ⟨s, rfl⟩
  cases v with
  | float x =>
      cases x <;>
        simp [sameMember, areNaN, same, sameScalar, integer?]
  | _ =>
      simp [sameMember, areNaN, same, sameScalar, integer?]

theorem IsText.isAmong_iff
    (hText : v.IsText) :
    v.isAmong kept = true ↔ v ∈ kept := by
  unfold isAmong
  simp [hText.sameMember_iff]

/- A value is among texts if it is one of them. -/
theorem isAmong_texts_iff
    (hTexts : ∀ w ∈ vs, w.IsText) :
    v.isAmong vs = true ↔ v ∈ vs := by
  unfold isAmong
  rw [List.any_eq_true]
  constructor
  · rintro ⟨w, hMem, hSame⟩
    rw [(hTexts w hMem).sameMember_iff'] at hSame
    rw [hSame]
    exact hMem
  · intro hMem
    exact ⟨v, hMem,
      ((hTexts v hMem).sameMember_iff' v).mpr rfl⟩

/- No text is lost when texts are gathered. -/
theorem mem_gathered_texts
    (hTexts : ∀ w ∈ vs, w.IsText)
    (v : Value) :
    v ∈ gathered kept vs ↔ v ∈ kept ∨ v ∈ vs := by
  induction vs generalizing kept with
  | nil => simp [gathered]
  | cons w vs ih =>
      rw [List.forall_mem_cons] at hTexts
      by_cases hAmong : w.isAmong kept = true
      · have hOld := hTexts.1.isAmong_iff.mp hAmong
        rw [gathered_cons_of_isAmong hAmong, ih hTexts.2,
          List.mem_cons]
        constructor
        · rintro (hKept | hLater)
          · exact .inl hKept
          · exact .inr (.inr hLater)
        · rintro (hKept | rfl | hLater)
          · exact .inl hKept
          · exact .inl hOld
          · exact .inr hLater
      · rw [Bool.not_eq_true] at hAmong
        rw [gathered_cons_of_not_isAmong hAmong,
          ih hTexts.2, List.mem_append, List.mem_singleton,
          List.mem_cons, or_assoc]

end Value

end EventFlow

------------------------------------------------------------
-- Tags That Stay Apart
------------------------------------------------------------

namespace EventFlow

namespace TagMode

/-
  Whether a tag is left by an update, by whether it was
  there and whether it is given.
-/
def keeps
    (mode : TagMode)
    (had isGiven : Prop) : Prop :=
  match mode with
  | .append => had ∨ isGiven
  | .replace => isGiven
  | .remove => had ∧ ¬ isGiven

/- An update never leaves a tag only where it was not. -/
theorem monotone_keeps
    (mode : TagMode)
    (isGiven : Prop) :
    Monotone fun had => mode.keeps had isGiven := by
  intro had had' hLe
  cases mode with
  | append => exact Or.imp_left hLe
  | replace => exact le_rfl
  | remove => exact And.imp_left hLe

end TagMode

namespace Tags

variable {current vs ws : List Value}
variable {tags : Value}
variable {mode : TagMode}

theorem eq_distinct_of_members
    (hMembers : members vs = .ok ws) :
    ws = Value.distinct vs := by
  rcases Outcome.map_eq_ok hMembers with ⟨xs, hKeys, rfl⟩
  rw [(Value.isMember_of_mapM_key hKeys).1]

/- An update leaves tags that are apart, if they were. -/
theorem areApart_updated
    (hApart : Value.AreApart current)
    (hUpdated : updated mode current tags = .ok ws) :
    Value.AreApart ws := by
  have hDistinct (vs : List Value) :
      Value.AreApart (Value.distinct vs) :=
    Value.areApart_gathered List.Pairwise.nil vs
  cases mode with
  | replace =>
      change replaced tags = .ok ws at hUpdated
      unfold replaced at hUpdated
      cases hItems : tags.items with
      | error failure =>
          rw [hItems] at hUpdated
          cases hUpdated
      | ok vs =>
          rw [hItems] at hUpdated
          rw [eq_distinct_of_members hUpdated]
          exact hDistinct vs
  | append =>
      change appended current tags = .ok ws at hUpdated
      unfold appended at hUpdated
      cases hItems : tags.items? with
      | none =>
          rw [hItems] at hUpdated
          cases hUpdated
      | some vs =>
          rw [hItems] at hUpdated
          rw [eq_distinct_of_members hUpdated]
          exact hDistinct (current ++ vs)
  | remove =>
      exact hApart.sublist (sublist_of_removed hUpdated)

/- Which tags an update by texts leaves. -/
theorem mem_updated_iff
    (hApart : Value.AreApart current)
    (hTexts : ∀ v ∈ vs, v.IsText)
    (hUpdated : updated mode current (.list vs) = .ok ws)
    (tag : Value) :
    tag ∈ ws ↔ mode.keeps (tag ∈ current) (tag ∈ vs) := by
  cases mode with
  | append =>
      change members (current ++ vs) = .ok ws at hUpdated
      rw [eq_distinct_of_members hUpdated,
        Value.distinct_append hApart,
        Value.mem_gathered_texts hTexts]
      exact Iff.rfl
  | replace =>
      change members vs = .ok ws at hUpdated
      rw [eq_distinct_of_members hUpdated,
        Value.distinct_eq_gathered,
        Value.mem_gathered_texts hTexts]
      exact or_iff_right List.not_mem_nil
  | remove =>
      change removed (.list vs) current = .ok ws at hUpdated
      rw [removed_list] at hUpdated
      cases hUpdated
      rw [List.mem_filter, Bool.not_eq_true',
        ← Bool.not_eq_true, Value.isAmong_texts_iff hTexts]
      exact Iff.rfl

end Tags

namespace ContactStore

/- Whether the tags of every contact are apart. -/
def IsApart (s : ContactStore) : Prop :=
  ∀ contact, Value.AreApart (s.tagsOf contact)

variable {s s' : ContactStore}
variable {contact tags mode : Value}
variable {ws : List Value}

/- An update writes what it tells, and nothing else. -/
theorem updateTags_eq_ok
    (hUpdated :
      s.updateTags contact tags mode = .ok (s', ws)) :
    ∃ m,
      TagMode.ofValue? mode = some m ∧
        Tags.updated m (s.tagsOf contact) tags = .ok ws ∧
          s' = s.setTags contact ws := by
  unfold updateTags at hUpdated
  cases hMode : TagMode.ofValue? mode with
  | none =>
      rw [hMode] at hUpdated
      cases hUpdated
  | some m =>
      rw [hMode] at hUpdated
      dsimp only at hUpdated
      cases hTags :
          Tags.updated m (s.tagsOf contact) tags with
      | error failure =>
          rw [hTags] at hUpdated
          cases hUpdated
      | ok new =>
          rw [hTags] at hUpdated
          cases hUpdated
          exact ⟨m, rfl, hTags, rfl⟩

theorem IsApart.updateTags
    (hApart : s.IsApart)
    (hUpdated :
      s.updateTags contact tags mode = .ok (s', ws)) :
    s'.IsApart := by
  rcases updateTags_eq_ok hUpdated with ⟨m, -, hTags, rfl⟩
  intro other
  rw [tagsOf_setTags]
  by_cases hSame : other.text = contact.text
  · rw [if_pos hSame]
    exact Tags.areApart_updated (hApart contact) hTags
  · rw [if_neg hSame]
    exact hApart other

/- Whatever is written, the tags of a store stay apart. -/
theorem Written.isApart
    (hWritten : s.Written) :
    s.IsApart := by
  induction hWritten with
  | new => exact fun contact => List.Pairwise.nil
  | logged hWritten contact log ih => exact ih
  | tagged hWritten hUpdated ih => exact ih.updateTags hUpdated

end ContactStore

end EventFlow

------------------------------------------------------------
-- Tags Behind a Step
------------------------------------------------------------

namespace EventFlow

namespace StepDefinition

/-
  What a step updates, if its type updates tags: the contact
  that it is about, in which mode, and by which tags.
-/
def retags?
    (s : StepDefinition)
    (payload : Value) :
    Option (Value × TagMode × List Value) :=
  match (Builtin.typeOf? s.slug).map StepType.behavior with
  | some .changeContactTags => do
      let contact ← (s.subject payload).toOption
      let mode ← s.tagMode.toOption
      let mode ← TagMode.ofValue? mode
      let given ← s.tags.toOption
      return (contact, mode, given)
  | _ => none

/- Whether a step, if it updates tags, lists texts only. -/
def ListsTexts (s : StepDefinition) : Prop :=
  (Builtin.typeOf? s.slug).map StepType.behavior =
      some .changeContactTags →
    ∀ given,
      s.tags = .ok given → ∀ tag ∈ given, tag.IsText

/-
  Whether a contact has a tag behind a step, by whether it
  had it before.
-/
def hasTag
    (s : StepDefinition)
    (payload contact tag : Value)
    (had : Prop) : Prop :=
  match s.retags? payload with
  | some (other, mode, given) =>
      if contact.text = other.text then
        mode.keeps had (tag ∈ given)
      else
        had
  | none => had

variable {s : StepDefinition}
variable {payload : Value}
variable {store : ContactStore}
variable {after : DataAccess}
variable {met : Option Bool}

theorem monotone_hasTag
    (s : StepDefinition)
    (payload contact tag : Value) :
    Monotone (s.hasTag payload contact tag) := by
  unfold hasTag
  cases s.retags? payload with
  | none => exact monotone_id
  | some retagged =>
      rcases retagged with ⟨other, mode, given⟩
      dsimp only
      by_cases hSame : contact.text = other.text
      · simp only [if_pos hSame]
        exact mode.monotone_keeps (tag ∈ given)
      · simp only [if_neg hSame]
        exact monotone_id

/- An update of tags goes through if its parts do. -/
theorem tagged_eq_ok
    (hTagged :
      s.tagged payload (.contacts store) = .ok after) :
    ∃ contact mode given store' ws,
      s.subject payload = .ok contact ∧
        s.tagMode = .ok mode ∧
          s.tags = .ok given ∧
            store.updateTags contact (.list given) mode =
              .ok (store', ws) ∧
              after = .contacts store' := by
  rcases Outcome.bind_eq_ok hTagged with
    ⟨contact, hSubject, hTagged⟩
  rcases Outcome.bind_eq_ok hTagged with
    ⟨mode, hMode, hTagged⟩
  rcases Outcome.bind_eq_ok hTagged with
    ⟨given, hTags, hTagged⟩
  rcases Outcome.map_eq_ok hTagged with
    ⟨⟨access, told⟩, hUpdated, rfl⟩
  rcases Outcome.map_eq_ok hUpdated with
    ⟨⟨store', ws⟩, hStored, hEq⟩
  cases hEq
  exact ⟨contact, mode, given, store', ws, hSubject, hMode,
    hTags, hStored, rfl⟩

/- To add a log entry leaves the tags of a store. -/
theorem tags_of_logged
    (hLogged :
      s.logged payload (.contacts store) = .ok after) :
    ∃ store',
      after = .contacts store' ∧ store'.tags = store.tags := by
  rcases Outcome.bind_eq_ok hLogged with
    ⟨contact, hSubject, hLogged⟩
  rcases Outcome.bind_eq_ok hLogged with ⟨log, hLog, hAdded⟩
  cases hAdded
  exact ⟨store.addLog contact log, rfl, rfl⟩

/- A step whose type updates no tags retags nothing. -/
theorem retags?_of_behavior
    {type : StepType}
    (hType : Builtin.typeOf? s.slug = some type)
    (hOther : type.behavior ≠ .changeContactTags) :
    s.retags? payload = none := by
  unfold retags?
  rw [hType, Option.map_some]
  split
  · rename_i hIs
    exact absurd (Option.some.inj hIs) hOther
  · rfl

/-
  A step that retags nothing leaves the tags apart, and the
  tags that `hasTag` says, if it leaves the tags.
-/
theorem hasTag_of_retags?_none
    {store' : ContactStore}
    (hApart : store.IsApart)
    (hNone : s.retags? payload = none)
    (hTags : store'.tags = store.tags) :
    store'.IsApart ∧
      ∀ contact tag,
        tag ∈ store'.tagsOf contact ↔
          s.hasTag payload contact tag
            (tag ∈ store.tagsOf contact) := by
  have hSame (contact : Value) :
      store'.tagsOf contact = store.tagsOf contact := by
    unfold ContactStore.tagsOf
    rw [hTags]
  constructor
  · intro contact
    rw [hSame]
    exact hApart contact
  · intro contact tag
    unfold hasTag
    rw [hNone, hSame]

/-
  An update of tags leaves them apart, and the tags that
  `hasTag` says.
-/
theorem hasTag_of_tagged
    (hApart : store.IsApart)
    (hTexts : s.ListsTexts)
    (hIs :
      (Builtin.typeOf? s.slug).map StepType.behavior =
        some .changeContactTags)
    (hTagged :
      s.tagged payload (.contacts store) = .ok after) :
    ∃ store',
      after = .contacts store' ∧
        store'.IsApart ∧
          ∀ contact tag,
            tag ∈ store'.tagsOf contact ↔
              s.hasTag payload contact tag
                (tag ∈ store.tagsOf contact) := by
  rcases tagged_eq_ok hTagged with
    ⟨subject, mode, given, store', ws, hSubject, hMode,
      hGiven, hUpdated, rfl⟩
  refine ⟨store', rfl, hApart.updateTags hUpdated, ?_⟩
  rcases ContactStore.updateTags_eq_ok hUpdated with
    ⟨m, hM, hTags, rfl⟩
  have hRetags :
      s.retags? payload = some (subject, m, given) := by
    unfold retags?
    rw [hIs, hSubject, hMode, hGiven]
    simp [Except.toOption, hM]
  intro contact tag
  unfold hasTag
  rw [hRetags, ContactStore.tagsOf_setTags]
  dsimp only
  by_cases hSame : contact.text = subject.text
  · rw [if_pos hSame, if_pos hSame,
      ContactStore.tagsOf_of_text store hSame]
    exact Tags.mem_updated_iff (hApart subject)
      (hTexts hIs given hGiven) hTags tag
  · rw [if_neg hSame, if_neg hSame]

/-
  A performed step leaves a store with tags apart, and the
  tags that `hasTag` says.
-/
theorem tags_of_performed
    (hApart : store.IsApart)
    (hTexts : s.ListsTexts)
    (hPerformed :
      s.performed payload (.contacts store) =
        .ok (met, after)) :
    ∃ store',
      after = .contacts store' ∧
        store'.IsApart ∧
          ∀ contact tag,
            tag ∈ store'.tagsOf contact ↔
              s.hasTag payload contact tag
                (tag ∈ store.tagsOf contact) := by
  rcases behavior_of_performed hPerformed with
    ⟨type, hType, hBehavior⟩
  rcases hBehavior with
    ⟨subject, verdict, hIs, -, rfl⟩ | ⟨hIs, -, hLogged⟩ |
      ⟨hIs, -, hTagged⟩
  · have hNone : s.retags? payload = none := by
      refine retags?_of_behavior hType ?_
      rw [hIs]
      exact Behavior.noConfusion
    exact ⟨store, rfl,
      hasTag_of_retags?_none hApart hNone rfl⟩
  · have hNone : s.retags? payload = none := by
      refine retags?_of_behavior hType ?_
      rw [hIs]
      exact Behavior.noConfusion
    rcases tags_of_logged hLogged with ⟨store', rfl, hTags⟩
    exact ⟨store', rfl,
      hasTag_of_retags?_none hApart hNone hTags⟩
  · refine hasTag_of_tagged hApart hTexts ?_ hTagged
    rw [hType, Option.map_some, hIs]

end StepDefinition

end EventFlow

------------------------------------------------------------
-- Tags Behind a Path
------------------------------------------------------------

namespace EventFlow

/-
  What is monotone on truth values does no more when it is
  done again.
-/
theorem again_iff_of_monotone
    {f : Prop → Prop}
    (hMono : Monotone f)
    (p : Prop) :
    f (f p) ↔ f p := by
  constructor
  · intro hAgain
    by_cases hLess : f p → p
    · exact hMono hLess hAgain
    · exact (Classical.not_imp.mp hLess).1
  · intro hOnce
    exact hMono (fun _ => hOnce) hOnce

namespace WorkflowDefinition

/-
  Whether a contact has a tag behind a path, by whether it
  had it before.
-/
def hasTag
    (d : WorkflowDefinition)
    (payload contact tag : Value) :
    List StepOutcome → Prop → Prop
| [], had => had
| o :: path, had =>
    d.hasTag payload contact tag path <|
      match d.steps.lookup o.stepId with
      | some s => s.hasTag payload contact tag had
      | none => had

theorem monotone_hasTag
    (d : WorkflowDefinition)
    (payload contact tag : Value)
    (path : List StepOutcome) :
    Monotone (d.hasTag payload contact tag path) := by
  induction path with
  | nil => exact monotone_id
  | cons o path ih =>
      intro had had' hLe
      rw [hasTag, hasTag]
      apply ih
      cases d.steps.lookup o.stepId with
      | none => exact hLe
      | some s =>
          exact s.monotone_hasTag payload contact tag hLe

end WorkflowDefinition

namespace Course

variable {d : WorkflowDefinition}
variable {payload : Value}
variable {next last : Option String}
variable {access access' after : DataAccess}
variable {path : List StepOutcome}

/- A course leaves the tags that its path says. -/
theorem tags
    (hTexts : ∀ entry ∈ d.steps, entry.2.ListsTexts)
    (hCourse :
      Course d payload next access path last after)
    {store : ContactStore}
    (hAccess : access = .contacts store)
    (hApart : store.IsApart) :
    ∃ store',
      after = .contacts store' ∧
        store'.IsApart ∧
          ∀ contact tag,
            tag ∈ store'.tagsOf contact ↔
              d.hasTag payload contact tag path
                (tag ∈ store.tagsOf contact) := by
  induction hCourse generalizing store with
  | stay => exact ⟨store, hAccess, hApart, fun _ _ => Iff.rfl⟩
  | @step id s met last access₁ access₂ access₃ path
      hDefined hPerformed hRest ih =>
      subst hAccess
      rcases StepDefinition.tags_of_performed hApart
        (hTexts _ (WorkflowDefinition.mem_of_lookup hDefined))
        hPerformed with ⟨between, hBetween, hStill, hStep⟩
      rcases ih hBetween hStill with
        ⟨store', hAfter, hApart', hPath⟩
      refine ⟨store', hAfter, hApart', ?_⟩
      intro contact tag
      rw [hPath contact tag, propext (hStep contact tag),
        WorkflowDefinition.hasTag]
      dsimp only
      rw [hDefined]

/- Over another tidy store a course takes the same path. -/
theorem anew
    [Surroundings]
    (hCourse :
      Course d payload next access path last after)
    (hTidy : access.IsTidy)
    (hTidy' : access'.IsTidy) :
    ∃ after',
      Course d payload next access' path last after' := by
  induction hCourse generalizing access' with
  | stay next access => exact ⟨access', .stay next access'⟩
  | @step id s met last access₁ access₂ access₃ path
      hDefined hPerformed hRest ih =>
      have hLeft :=
        (StepDefinition.decided_of_isTidy hTidy hPerformed).2
      rcases StepDefinition.decided_alike hTidy hTidy'
        hPerformed with ⟨-, between, hPerformed'⟩
      have hLeft' :=
        (StepDefinition.decided_of_isTidy hTidy'
          hPerformed').2
      rcases ih hLeft hLeft' with ⟨after', hRest'⟩
      exact ⟨after', .step hDefined hPerformed' hRest'⟩

end Course

end EventFlow

------------------------------------------------------------
-- Executing Again
------------------------------------------------------------

namespace EventFlow

namespace Engine

variable [Surroundings]

/-
  The engine after a workflow was executed on a payload
  again and again, for any triggers and correlations.
-/
def redelivered
    (d : WorkflowDefinition)
    (payload : Value)
    (runs : List (TriggerType × Value))
    (e : Engine) : Engine :=
  runs.foldl
    (fun e run => (execute d run.1 payload run.2 e).2) e

variable {e : Engine}
variable {d : WorkflowDefinition}
variable {payload : Value}
variable {path : List StepOutcome}
variable {store : ContactStore}

theorem redelivered_concat
    (d : WorkflowDefinition)
    (payload : Value)
    (runs : List (TriggerType × Value))
    (run : TriggerType × Value)
    (e : Engine) :
    redelivered d payload (runs ++ [run]) e =
      (execute d run.1 payload run.2
        (redelivered d payload runs e)).2 :=
  List.foldl_concat _ _ _ _

/-
  Whether an engine finishes a definition on a payload by a
  path, with a store that is tidy and has its tags apart.
-/
structure Finishes
    (e : Engine)
    (d : WorkflowDefinition)
    (payload : Value)
    (path : List StepOutcome)
    (store : ContactStore) : Prop where
  provides : e.Provides d
  access : e.access = .contacts store
  tidy : store.IsTidy
  apart : store.IsApart
  course :
    ∃ after,
      Course d payload (some d.initialStep) e.access path
        none after
  limit : path.length ≤ e.limit.toNat

/- The result of a run says which path it took. -/
theorem exists_course_of_execute
    (hClosed : d.IsClosed)
    (hProvides : e.Provides d)
    {trigger : TriggerType}
    {correlationId : Value}
    {r : ExecutionResult}
    (hDone :
      (execute d trigger payload correlationId e).1 = .ok r) :
    ∃ after,
      Course d payload (some d.initialStep) e.access r.steps
          none after ∧
        r.steps.length ≤ e.limit.toNat := by
  rcases Course.exists_ends hClosed payload e.access
    e.limit.toNat with ⟨ending, hEnds⟩
  rcases execute_of_ends hProvides trigger correlationId
    hEnds with ⟨ns, hExecute, -⟩
  have hOutcome :=
    (congrArg Prod.fst hExecute).symm.trans hDone
  cases hEnds with
  | finished hCourse hLimit =>
      cases hOutcome
      exact ⟨_, hCourse, hLimit⟩
  | failed _ _ _ _ => cases hOutcome
  | exceeded _ _ => cases hOutcome

/-
  An engine that finishes a definition by a path does so
  again, and leaves the tags that the path says.
-/
theorem Finishes.execute
    (hFinishes : e.Finishes d payload path store)
    (hTexts : ∀ entry ∈ d.steps, entry.2.ListsTexts)
    (trigger : TriggerType)
    (correlationId : Value) :
    (∃ r,
      (execute d trigger payload correlationId e).1 = .ok r ∧
        r.steps = path) ∧
    ∃ store',
      (execute d trigger payload correlationId e).2.Finishes
        d payload path store' ∧
      ∀ contact tag,
        tag ∈ store'.tagsOf contact ↔
          d.hasTag payload contact tag path
            (tag ∈ store.tagsOf contact) := by
  rcases hFinishes.course with ⟨after, hCourse⟩
  have hTidy : e.access.IsTidy := by
    rw [hFinishes.access]
    exact hFinishes.tidy
  rcases execute_of_ends hFinishes.provides trigger
    correlationId (.finished hCourse hFinishes.limit) with
    ⟨ns, hExecute, -⟩
  rcases hCourse.tags hTexts hFinishes.access
    hFinishes.apart with ⟨store', rfl, hApart, hTags⟩
  have hTidy' : (DataAccess.contacts store').IsTidy :=
    (hCourse.points hTidy).1
  rw [hExecute]
  refine ⟨⟨_, rfl, rfl⟩, store', ?_, hTags⟩
  exact
    { provides := hFinishes.provides
      access := rfl
      tidy := hTidy'
      apart := hApart
      course := hCourse.anew hTidy hTidy'
      limit := hFinishes.limit }

/-
  After the first of several runs the tags stay the same, as
  sets.
-/
theorem Finishes.redelivered
    (hFinishes : e.Finishes d payload path store)
    (hTexts : ∀ entry ∈ d.steps, entry.2.ListsTexts)
    {before : Value → Value → Prop}
    (hBehind :
      ∀ contact tag,
        tag ∈ store.tagsOf contact ↔
          d.hasTag payload contact tag path
            (before contact tag))
    (runs : List (TriggerType × Value)) :
    ∃ store',
      (redelivered d payload runs e).Finishes d payload path
        store' ∧
      ∀ contact tag,
        tag ∈ store'.tagsOf contact ↔
          tag ∈ store.tagsOf contact := by
  induction runs using List.reverseRecOn with
  | nil => exact ⟨store, hFinishes, fun _ _ => Iff.rfl⟩
  | append_singleton runs run ih =>
      rcases ih with ⟨between, hBetween, hSame⟩
      rcases (hBetween.execute hTexts run.1 run.2).2 with
        ⟨store', hFinishes', hTags⟩
      rw [redelivered_concat]
      refine ⟨store', hFinishes', ?_⟩
      intro contact tag
      rw [hTags, propext (hSame contact tag),
        propext (hBehind contact tag)]
      exact again_iff_of_monotone
        (d.monotone_hasTag payload contact tag path) _

/-
  Consider a workflow that was built over the built-in
  types, whose steps that update tags list texts, and that
  is executed while its slugs still stand for those types,
  by an engine with a store that was written in any way.  If
  the workflow is completed on a payload, it is completed
  again however often it is executed on the payload, by the
  same path, and every contact then has the tags that it had
  after the first time, though maybe in another order.
-/
theorem execute_again_keeps_tags
    {e₀ e : Engine}
    {d : WorkflowDefinition}
    {w : Workflow}
    {store : ContactStore}
    (hBuilt : (build d e₀).1 = .ok w)
    (hThen : e₀.UsesBuiltins d)
    (hNow : e.UsesBuiltins d)
    (hAccess : e.access = .contacts store)
    (hWritten : store.Written)
    (hTexts : ∀ entry ∈ d.steps, entry.2.ListsTexts)
    {trigger : TriggerType}
    {payload correlationId : Value}
    {r : ExecutionResult}
    (hDone :
      (execute w.definition trigger payload correlationId
        e).1 = .ok r)
    (runs : List (TriggerType × Value)) :
    let once :=
      (execute w.definition trigger payload correlationId
        e).2
    let after := redelivered w.definition payload runs once
    (∀ trigger correlationId,
      ∃ r',
        (execute w.definition trigger payload correlationId
          after).1 = .ok r' ∧
        r'.steps = r.steps) ∧
    ∃ store store',
      once.access = .contacts store ∧
        after.access = .contacts store' ∧
          ∀ contact tag,
            tag ∈ store'.tagsOf contact ↔
              tag ∈ store.tagsOf contact := by
  rcases admits_of_build hBuilt with ⟨hAdmits, rfl⟩
  intro once after
  have hClosed := isClosed_of_usesBuiltins hAdmits hThen
  have hProvides := provides_of_admits hAdmits hThen hNow
  rcases exists_course_of_execute hClosed hProvides hDone with
    ⟨end', hCourse, hLimit⟩
  have hFinishes : e.Finishes d payload r.steps store :=
    { provides := hProvides
      access := hAccess
      tidy := hWritten.isTidy
      apart := hWritten.isApart
      course := ⟨end', hCourse⟩
      limit := hLimit }
  rcases (hFinishes.execute hTexts trigger correlationId).2
    with ⟨first, hOnce, hTags⟩
  rcases hOnce.redelivered hTexts hTags runs with
    ⟨later, hAfter, hSame⟩
  constructor
  · intro trigger' correlationId'
    exact (hAfter.execute hTexts trigger' correlationId').1
  · exact ⟨first, later, hOnce.access, hAfter.access, hSame⟩

end Engine

end EventFlow

------------------------------------------------------------
-- Tagging Anew
------------------------------------------------------------

namespace EventFlow

namespace Engine

/- Tag a contact with a tag that is removed first. -/
def tagAnew : WorkflowDefinition :=
  { id := "tag-anew"
    name := "Tag anew"
    triggers := ["crm/transaction_updated"]
    initialStep := "clear"
    steps := [
      ("clear",
        { slug := "crm/add_remove_contact_tag"
          attributes := [
            ("mode", .str "remove"),
            ("tags", .list [.str "late"])
          ]
          nextStep := some "tag" }),
      ("tag",
        { slug := "crm/add_remove_contact_tag"
          attributes := [
            ("mode", .str "append"),
            ("tags", .list [.str "late", .str "paid"])
          ] })
    ] }

theorem listsTexts_tagAnew :
    ∀ entry ∈ tagAnew.steps, entry.2.ListsTexts := by
  intro entry hMem hType given hGiven
  rcases List.mem_cons.mp hMem with rfl | hMem
  · cases hGiven
    exact List.forall_mem_singleton.mpr ⟨_, rfl⟩
  · cases List.mem_singleton.mp hMem
    cases hGiven
    rw [List.forall_mem_cons]
    exact ⟨⟨_, rfl⟩,
      List.forall_mem_singleton.mpr ⟨_, rfl⟩⟩

open scoped Bare in
/- The second time the tags are there in another order. -/
theorem execute_again_keeps_tags_tagAnew :
    let deliver (e : Engine) :=
      (execute tagAnew Builtin.transactionUpdated
        (transaction "paid") .null e).2
    let told (e : Engine) :=
      match e.access with
      | .contacts store => store.tagsOf (.int 7)
      | _ => []
    told (deliver stocked) = [.str "late", .str "paid"] ∧
      told (deliver (deliver stocked)) =
        [.str "paid", .str "late"] ∧
      ∃ store store',
        (deliver stocked).access = .contacts store ∧
          (deliver (deliver stocked)).access =
              .contacts store' ∧
            ∀ contact tag,
              tag ∈ store'.tagsOf contact ↔
                tag ∈ store.tagsOf contact := by
  intro deliver told
  have hBuilt :
      (build tagAnew stocked).1 =
        .ok (stocked.workflowOf tagAnew) := rfl
  have hDone :
      ∃ r,
        (execute tagAnew Builtin.transactionUpdated
          (transaction "paid") .null stocked).1 = .ok r :=
    ⟨_, rfl⟩
  rcases hDone with ⟨r, hDone⟩
  have hBoth :=
    execute_again_keeps_tags hBuilt (usesBuiltins_stocked _)
      (usesBuiltins_stocked _) rfl ContactStore.Written.new
      listsTexts_tagAnew hDone
      [(Builtin.transactionUpdated, .null)]
  exact ⟨rfl, rfl, hBoth.2⟩

end Engine

end EventFlow
