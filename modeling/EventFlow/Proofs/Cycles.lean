import EventFlow.Proofs.StoreIndependence
import Mathlib.Data.Finset.Card
import Mathlib.Data.List.Iterate
import Mathlib.Logic.Relation

/-
  Walks that never end.

  Over stores as they arise from writing, what a step of a
  built-in type decides depends on the payload only.  So a
  definition and a payload determine a way through the
  steps, a walk visits the points of the way one by one, and
  a point that comes twice comes for ever.  A walk that ends
  has visited no step twice, and one that is allowed every
  step there is, and still is cut off, goes in a circle.

  Key definitions include:
    * `ContactStore.Written`
    * `WorkflowDefinition.leadsTo`
    * `WorkflowDefinition.pointAt`
    * `WorkflowDefinition.Circles`

  Key theorems include:
    * `StepDefinition.decided_of_isTidy`
    * `WorkflowDefinition.exists_repeat`
    * `WorkflowDefinition.circles_of_repeat`
    * `WorkflowDefinition.ne_none_of_circles`
    * `Course.points`
    * `Engine.execute_repeats_in_circles_only`
-/

------------------------------------------------------------
-- Written Stores
------------------------------------------------------------

namespace EventFlow

namespace ContactStore

/- The stores that arise from an empty one by writing to it. -/
inductive Written : ContactStore → Prop where
| new :
    Written {}
| logged
    {s : ContactStore}
    (hWritten : Written s)
    (contact : Value)
    (log : ContactLog) :
    Written (s.addLog contact log)
| tagged
    {s s' : ContactStore}
    (hWritten : Written s)
    {contact tags mode : Value}
    {written : List Value}
    (hUpdated :
      s.updateTags contact tags mode = .ok (s', written)) :
    Written s'

/- Whatever is written, a store stays tidy. -/
theorem Written.isTidy
    {s : ContactStore}
    (hWritten : s.Written) :
    s.IsTidy := by
  induction hWritten with
  | new => exact isTidy_empty
  | logged hWritten contact log ih =>
      exact ih.addLog contact log
  | tagged hWritten hUpdated ih =>
      exact ih.updateTags hUpdated

end ContactStore

end EventFlow

------------------------------------------------------------
-- Decisions
------------------------------------------------------------

namespace EventFlow

namespace StepDefinition

/- What a step decides on a payload, over an empty store. -/
def decided
    (s : StepDefinition)
    (payload : Value) : Except Failure (Option Bool) :=
  (s.performed payload (.contacts {})).map Prod.fst

variable {s : StepDefinition}
variable {payload : Value}
variable {access access' after : DataAccess}
variable {met : Option Bool}
variable {failure : Failure}

/- The access to an empty store is tidy. -/
theorem isTidy_contacts_empty :
    (DataAccess.contacts {}).IsTidy :=
  ContactStore.isTidy_empty

/- A step without a built-in type is performed nowhere. -/
theorem performed_of_typeOf?
    (hType : Builtin.typeOf? s.slug = none)
    (payload : Value)
    (access : DataAccess) :
    s.performed payload access =
      .error (.slugUnknown .step s.slug) := by
  unfold performed
  rw [hType]
  rfl

variable [Surroundings]

/-
  Over tidy stores a step decides alike, and leaves a tidy
  store.  It does so because the step that is made of it
  does.
-/
theorem decided_alike
    (hTidy : access.IsTidy)
    (hTidy' : access'.IsTidy)
    (hPerformed :
      s.performed payload access = .ok (met, after)) :
    after.IsTidy ∧
      ∃ after',
        s.performed payload access' = .ok (met, after') := by
  cases hType : Builtin.typeOf? s.slug with
  | none =>
      rw [performed_of_typeOf? hType] at hPerformed
      cases hPerformed
  | some type =>
      have hMatches :=
        Step.execute_matches
          (s := Step.ofDefinition type "" s)
          (Builtin.isForeign_of_typeOf? hType) hTidy hTidy'
          payload
      have hAgrees :=
        Step.execute_agrees "" payload access hType
      have hAgrees' :=
        Step.execute_agrees "" payload access' hType
      rw [hPerformed] at hAgrees
      rcases hAgrees with ⟨hFine, rfl, hMet, -⟩
      refine ⟨hMatches.tidy, ?_⟩
      cases hPerformed' : s.performed payload access' with
      | error failure =>
          rw [hPerformed'] at hAgrees'
          have hFailed := hAgrees'.1
          rw [← hMatches.failure?, hFine] at hFailed
          cases hFailed
      | ok performed =>
          rcases performed with ⟨met', after'⟩
          rw [hPerformed'] at hAgrees'
          have hMet' := hAgrees'.2.2.1
          rw [← hMatches.step, hMet] at hMet'
          have hSame : met = met' :=
            Option.map_injective (fun _ _ => Value.bool.inj)
              hMet'
          rw [hSame]
          exact ⟨after', rfl⟩

/- What is decided over a tidy store is decided anyway. -/
theorem decided_of_isTidy
    (hTidy : access.IsTidy)
    (hPerformed :
      s.performed payload access = .ok (met, access')) :
    s.decided payload = .ok met ∧ access'.IsTidy := by
  rcases decided_alike hTidy isTidy_contacts_empty
    hPerformed with ⟨hAfter, after', hEmpty⟩
  refine ⟨?_, hAfter⟩
  rw [decided, hEmpty]
  rfl

/- What fails over a tidy store is decided nowhere. -/
theorem decided_of_fails
    (hTidy : access.IsTidy)
    (hPerformed :
      s.performed payload access = .error failure) :
    ∃ reason, s.decided payload = .error reason := by
  cases hDecided : s.decided payload with
  | error reason => exact ⟨reason, rfl⟩
  | ok met =>
      rcases Outcome.map_eq_ok hDecided with
        ⟨⟨met, after⟩, hEmpty, rfl⟩
      rcases decided_alike isTidy_contacts_empty hTidy
        hEmpty with ⟨-, after', hPerformed'⟩
      rw [hPerformed] at hPerformed'
      cases hPerformed'

/- No step fails with the limit of a walk. -/
theorem ne_stepLimit_of_performed
    (hPerformed :
      s.performed payload access = .error failure)
    (id : String)
    (limit : Int) :
    failure ≠ .stepLimit id limit := by
  rintro rfl
  cases hType : Builtin.typeOf? s.slug with
  | none =>
      rw [performed_of_typeOf? hType] at hPerformed
      cases hPerformed
  | some type =>
      have hAgrees :=
        Step.execute_agrees "" payload access hType
      rw [hPerformed] at hAgrees
      have hStep :=
        Step.within_execute _ _
          (Builtin.isForeign_of_typeOf? hType) _ _ hAgrees.1
      cases hStep

end StepDefinition

end EventFlow

------------------------------------------------------------
-- Ways
------------------------------------------------------------

namespace EventFlow

namespace WorkflowDefinition

/- The ids of the steps that are defined. -/
def definedIds (d : WorkflowDefinition) : Finset String :=
  (d.steps.map Prod.fst).toFinset

/-
  Where a step leads to on a payload: nowhere if it is not
  defined, or fails, or has no successor.
-/
def leadsTo
    (d : WorkflowDefinition)
    (payload : Value)
    (id : String) : Option String :=
  (d.steps.lookup id).bind fun s =>
    match s.decided payload with
    | .ok met => s.successor met
    | .error _ => none

/- The next point of the way, if there is one. -/
def onward
    (d : WorkflowDefinition)
    (payload : Value)
    (point : Option String) : Option String :=
  point.bind (d.leadsTo payload)

/- The point of the way after a number of steps. -/
def pointAt
    (d : WorkflowDefinition)
    (payload : Value)
    (n : Nat) : Option String :=
  (d.onward payload)^[n] (some d.initialStep)

/- Whether a step leads to another on a payload. -/
def Leads
    (d : WorkflowDefinition)
    (payload : Value)
    (id next : String) : Prop :=
  d.leadsTo payload id = some next

/-
  Whether the way on a payload runs into a circle: from the
  initial step it comes to a step that leads back to itself.
-/
def Circles
    (d : WorkflowDefinition)
    (payload : Value) : Prop :=
  ∃ id,
    Relation.ReflTransGen (d.Leads payload)
      d.initialStep id ∧
    Relation.TransGen (d.Leads payload) id id

variable {d : WorkflowDefinition}
variable {payload : Value}
variable {id id' : String}
variable {i j m n : Nat}

theorem pointAt_succ
    (d : WorkflowDefinition)
    (payload : Value)
    (n : Nat) :
    d.pointAt payload (n + 1) =
      d.onward payload (d.pointAt payload n) :=
  Function.iterate_succ_apply' _ _ _

theorem pointAt_add
    (d : WorkflowDefinition)
    (payload : Value)
    (m n : Nat) :
    d.pointAt payload (m + n) =
      (d.onward payload)^[m] (d.pointAt payload n) :=
  Function.iterate_add_apply _ _ _ _

/- A way that has come to its end goes nowhere. -/
theorem pointAt_of_le
    (hEnd : d.pointAt payload m = none)
    (hLe : m ≤ n) :
    d.pointAt payload n = none := by
  induction n, hLe using Nat.le_induction with
  | base => exact hEnd
  | succ n hLe ih =>
      rw [pointAt_succ, ih]
      rfl

/- What comes after a point comes whenever the point does. -/
theorem pointAt_repeats
    (hSame : d.pointAt payload i = d.pointAt payload j)
    (m : Nat) :
    d.pointAt payload (m + i) =
      d.pointAt payload (m + j) := by
  rw [pointAt_add, pointAt_add, hSame]

/- On a way that comes to its end no point comes twice. -/
theorem pointAt_ne_of_end
    (hEnd : d.pointAt payload n = none)
    (hWay : ∀ k < n, d.pointAt payload k ≠ none)
    (hLt : i < j)
    (hBefore : j < n) :
    d.pointAt payload i ≠ d.pointAt payload j := by
  intro hSame
  have hEarlier := pointAt_repeats hSame (n - j)
  rw [Nat.sub_add_cancel (Nat.le_of_lt hBefore), hEnd]
    at hEarlier
  exact hWay (n - j + i) (by omega) hEarlier

/- All points of the way of a closed definition are defined. -/
theorem mem_definedIds_of_pointAt
    (hClosed : d.IsClosed)
    (hPoint : d.pointAt payload n = some id) :
    id ∈ d.definedIds := by
  have hMem
      {id : String}
      (hStep : d.hasStep id) : id ∈ d.definedIds := by
    rcases exists_of_hasStep hStep with ⟨s, hDefined⟩
    rw [definedIds, List.mem_toFinset]
    exact List.mem_map_of_mem (mem_of_lookup hDefined)
  cases n with
  | zero =>
      cases hPoint
      exact hMem hClosed.initial
  | succ n =>
      rw [pointAt_succ] at hPoint
      rcases Option.bind_eq_some_iff.mp hPoint with
        ⟨before, -, hLeads⟩
      rcases Option.bind_eq_some_iff.mp hLeads with
        ⟨s, hDefined, hNext⟩
      split at hNext
      · exact hMem (Course.successor_defined hClosed hDefined
          _ id hNext)
      · cases hNext

/-
  A way with more points than there are steps comes to some
  step twice.
-/
theorem exists_repeat
    (hClosed : d.IsClosed)
    (hMore : d.definedIds.card < n)
    (hWay : ∀ k < n, d.pointAt payload k ≠ none) :
    ∃ i j id,
      i < j ∧ j < n ∧
        d.pointAt payload i = some id ∧
          d.pointAt payload j = some id := by
  have hCard :
      (d.definedIds.image some).card <
        (Finset.range n).card := by
    rw [Finset.card_range]
    exact Nat.lt_of_le_of_lt Finset.card_image_le hMore
  have hDefined :
      Set.MapsTo (d.pointAt payload) (Finset.range n)
        (d.definedIds.image some) := by
    intro k hK
    have hSome := hWay k (Finset.mem_range.mp hK)
    rcases Option.ne_none_iff_exists'.mp hSome with
      ⟨id, hId⟩
    rw [hId]
    exact Finset.mem_image_of_mem some
      (mem_definedIds_of_pointAt hClosed hId)
  rcases Finset.exists_ne_map_eq_of_card_lt_of_maps_to hCard
    hDefined with ⟨i, hI, j, hJ, hNe, hSame⟩
  rw [Finset.mem_range] at hI hJ
  rcases Option.ne_none_iff_exists'.mp (hWay i hI) with
    ⟨id, hId⟩
  rcases Nat.lt_or_gt_of_ne hNe with hLt | hGt
  · exact ⟨i, j, id, hLt, hJ, hId, hSame.symm.trans hId⟩
  · exact ⟨j, i, id, hGt, hI, hSame.symm.trans hId, hId⟩

end WorkflowDefinition

end EventFlow

------------------------------------------------------------
-- Circles
------------------------------------------------------------

namespace EventFlow

namespace WorkflowDefinition

open Relation

variable {d : WorkflowDefinition}
variable {payload : Value}
variable {id id' : String}
variable {i j m n : Nat}

/- From one step on, the way to a point is one of leading. -/
theorem transGen_of_onward
    (hWay :
      (d.onward payload)^[n + 1] (some id) = some id') :
    TransGen (d.Leads payload) id id' := by
  induction n generalizing id' with
  | zero => exact .single hWay
  | succ n ih =>
      rw [Function.iterate_succ_apply'] at hWay
      rcases Option.bind_eq_some_iff.mp hWay with
        ⟨before, hBefore, hLeads⟩
      exact .tail (ih hBefore) hLeads

/- The way to a point is one of leading, if not of staying. -/
theorem reflTransGen_of_onward
    (hWay : (d.onward payload)^[n] (some id) = some id') :
    ReflTransGen (d.Leads payload) id id' := by
  cases n with
  | zero =>
      cases hWay
      exact .refl
  | succ n => exact (transGen_of_onward hWay).to_reflTransGen

/- Leading to a step is coming to it on the way. -/
theorem onward_of_reflTransGen
    (hLeads : ReflTransGen (d.Leads payload) id id') :
    ∃ n, (d.onward payload)^[n] (some id) = some id' := by
  induction hLeads with
  | refl => exact ⟨0, rfl⟩
  | tail hBefore hLeads ih =>
      rcases ih with ⟨n, hWay⟩
      refine ⟨n + 1, ?_⟩
      rw [Function.iterate_succ_apply', hWay]
      exact hLeads

/- Leading back to a step takes a step at least. -/
theorem onward_of_transGen
    (hLeads : TransGen (d.Leads payload) id id') :
    ∃ n, (d.onward payload)^[n + 1] (some id) = some id' := by
  rcases TransGen.tail'_iff.mp hLeads with
    ⟨before, hBefore, hLast⟩
  rcases onward_of_reflTransGen hBefore with ⟨n, hWay⟩
  refine ⟨n, ?_⟩
  rw [Function.iterate_succ_apply', hWay]
  exact hLast

/- A way that comes to a step twice runs into a circle. -/
theorem circles_of_repeat
    (hLt : i < j)
    (hFirst : d.pointAt payload i = some id)
    (hSecond : d.pointAt payload j = some id) :
    d.Circles payload := by
  rcases Nat.exists_eq_add_of_lt hLt with ⟨n, rfl⟩
  have hBack :
      (d.onward payload)^[n + 1] (some id) = some id := by
    rw [Nat.add_assoc, Nat.add_comm, pointAt_add, hFirst]
      at hSecond
    exact hSecond
  exact ⟨id, reflTransGen_of_onward hFirst,
    transGen_of_onward hBack⟩

/- A way that runs into a circle never comes to its end. -/
theorem ne_none_of_circles
    (hCircles : d.Circles payload)
    (n : Nat) :
    d.pointAt payload n ≠ none := by
  rcases hCircles with ⟨id, hReached, hBack⟩
  rcases onward_of_reflTransGen hReached with ⟨m, hWay⟩
  rcases onward_of_transGen hBack with ⟨k, hRound⟩
  have hRounds (rounds : Nat) :
      d.pointAt payload ((k + 1) * rounds + m) =
        some id := by
    induction rounds with
    | zero =>
        rw [Nat.mul_zero, Nat.zero_add]
        exact hWay
    | succ rounds ih =>
        have hNext :
            (k + 1) * (rounds + 1) + m =
              k + 1 + ((k + 1) * rounds + m) := by
          rw [Nat.mul_succ]
          omega
        rw [hNext, pointAt_add, ih, hRound]
  intro hEnd
  have hLe : n ≤ (k + 1) * n + m :=
    Nat.le_add_right_of_le
      (Nat.le_mul_of_pos_left n (Nat.succ_pos k))
  have hLater := pointAt_of_le hEnd hLe
  rw [hRounds n] at hLater
  cases hLater

end WorkflowDefinition

end EventFlow

------------------------------------------------------------
-- Courses Along Ways
------------------------------------------------------------

namespace EventFlow

namespace Course

variable {d : WorkflowDefinition}
variable {payload : Value}
variable {next last : Option String}
variable {access access' : DataAccess}
variable {path : List StepOutcome}

variable [Surroundings]

/-
  Over tidy stores a course visits the points of the way one
  by one.
-/
theorem points
    (hCourse :
      Course d payload next access path last access')
    (hTidy : access.IsTidy) :
    access'.IsTidy ∧
      last = (d.onward payload)^[path.length] next ∧
        path.map (fun o => some o.stepId) =
          List.iterate (d.onward payload) next
            path.length := by
  induction hCourse with
  | stay => exact ⟨hTidy, rfl, rfl⟩
  | @step id s met last access₁ access₂ access₃ path
      hDefined hPerformed hRest ih =>
      rcases StepDefinition.decided_of_isTidy hTidy
        hPerformed with ⟨hDecided, hBetween⟩
      have hLeads :
          d.onward payload (some id) = s.successor met := by
        simp [WorkflowDefinition.onward,
          WorkflowDefinition.leadsTo, hDefined, hDecided]
      rcases ih hBetween with ⟨hAfter, hLast, hPoints⟩
      refine ⟨hAfter, ?_, ?_⟩
      · rw [List.length_cons, Function.iterate_succ_apply,
          hLeads]
        exact hLast
      · rw [List.length_cons, List.iterate, hLeads, ← hPoints]
        rfl

/- From the initial step on, these are those of the payload. -/
theorem points_of_initial
    (hCourse :
      Course d payload (some d.initialStep) access path last
        access')
    (hTidy : access.IsTidy) :
    last = d.pointAt payload path.length ∧
      path.map (fun o => some o.stepId) =
        (List.range path.length).map (d.pointAt payload) := by
  rcases hCourse.points hTidy with ⟨-, hLast, hPoints⟩
  refine ⟨hLast, ?_⟩
  rw [hPoints, ← List.range_map_iterate]
  rfl

/- Up to its length the way does not come to its end. -/
theorem ne_none_of_lt
    (hCourse :
      Course d payload (some d.initialStep) access path last
        access')
    (hTidy : access.IsTidy) :
    ∀ k < path.length, d.pointAt payload k ≠ none := by
  intro k hLt hEnd
  rcases hCourse.points_of_initial hTidy with ⟨-, hPoints⟩
  have hMem :
      none ∈
        (List.range path.length).map (d.pointAt payload) := by
    rw [← hEnd]
    exact List.mem_map_of_mem (List.mem_range.mpr hLt)
  rw [← hPoints] at hMem
  rcases List.mem_map.mp hMem with ⟨o, -, hNone⟩
  cases hNone

/- A course that comes to its end visits no step twice. -/
theorem nodup_of_end
    (hCourse :
      Course d payload (some d.initialStep) access path none
        access')
    (hTidy : access.IsTidy) :
    (path.map StepOutcome.stepId).Nodup := by
  rcases hCourse.points_of_initial hTidy with
    ⟨hLast, hPoints⟩
  have hWay := hCourse.ne_none_of_lt hTidy
  have hApart :
      ((List.range path.length).map
        (d.pointAt payload)).Nodup := by
    refine List.Nodup.map_on ?_ List.nodup_range
    intro i hI j hJ hSame
    rw [List.mem_range] at hI hJ
    rcases Nat.lt_trichotomy i j with hLt | hEq | hGt
    · exact absurd hSame
        (WorkflowDefinition.pointAt_ne_of_end hLast.symm hWay
          hLt hJ)
    · exact hEq
    · exact absurd hSame.symm
        (WorkflowDefinition.pointAt_ne_of_end hLast.symm hWay
          hGt hI)
  rw [← hPoints] at hApart
  refine List.Nodup.of_map some ?_
  rw [List.map_map]
  exact hApart

/- So it is no longer than the definition has steps. -/
theorem length_le_of_end
    (hClosed : d.IsClosed)
    (hCourse :
      Course d payload (some d.initialStep) access path none
        access')
    (hTidy : access.IsTidy) :
    path.length ≤ d.definedIds.card := by
  by_contra hMore
  have hWay := hCourse.ne_none_of_lt hTidy
  rcases WorkflowDefinition.exists_repeat hClosed
    (Nat.lt_of_not_le hMore) hWay with
    ⟨i, j, id, hLt, hBefore, hFirst, hSecond⟩
  exact WorkflowDefinition.pointAt_ne_of_end
    (hCourse.points_of_initial hTidy).1.symm hWay hLt hBefore
    (hFirst.trans hSecond.symm)

/- A course longer than this runs into a circle. -/
theorem circles_of_length
    (hClosed : d.IsClosed)
    {id : String}
    (hCourse :
      Course d payload (some d.initialStep) access path
        (some id) access')
    (hTidy : access.IsTidy)
    (hLong : d.definedIds.card ≤ path.length) :
    d.Circles payload := by
  have hWay :
      ∀ k < path.length + 1, d.pointAt payload k ≠ none := by
    intro k hLt
    rcases Nat.lt_succ_iff_lt_or_eq.mp hLt with hLt | rfl
    · exact hCourse.ne_none_of_lt hTidy k hLt
    · rw [← (hCourse.points_of_initial hTidy).1]
      exact Option.some_ne_none id
  rcases WorkflowDefinition.exists_repeat hClosed
    (Nat.lt_succ_of_le hLong) hWay with
    ⟨i, j, id, hLt, -, hFirst, hSecond⟩
  exact WorkflowDefinition.circles_of_repeat hLt hFirst
    hSecond

/- A way into a circle is cut off by every limit. -/
theorem Ends.exceeded_of_circles
    {limit : Nat}
    {ending : Ending}
    (hEnds : Ends d payload access limit ending)
    (hTidy : access.IsTidy)
    (hCircles : d.Circles payload) :
    ∃ path id after, ending = .exceeded path id after := by
  cases hEnds with
  | finished hCourse hLimit =>
      have hEnd := (hCourse.points_of_initial hTidy).1
      exact absurd hEnd.symm
        (WorkflowDefinition.ne_none_of_circles hCircles _)
  | @failed path id s failure after hCourse hLimit hDefined
      hPerformed =>
      -- Behind a step that fails the way has its end.
      rcases hCourse.points hTidy with ⟨hAfter, -, -⟩
      have hPoint := (hCourse.points_of_initial hTidy).1
      rcases StepDefinition.decided_of_fails hAfter
        hPerformed with ⟨reason, hDecided⟩
      have hEnd :
          d.pointAt payload (path.length + 1) = none := by
        rw [WorkflowDefinition.pointAt_succ, ← hPoint]
        simp [WorkflowDefinition.onward,
          WorkflowDefinition.leadsTo, hDefined, hDecided]
      exact absurd hEnd
        (WorkflowDefinition.ne_none_of_circles hCircles _)
  | exceeded hCourse hLimit => exact ⟨_, _, _, rfl⟩

end Course

end EventFlow

------------------------------------------------------------
-- Whole Walks
------------------------------------------------------------

namespace EventFlow

namespace Engine

/-
  Consider a workflow that was built over the built-in
  types, and is executed while its slugs still stand for
  them, by an engine with a store that was written in any
  way.  If the walk comes to its end, the ids of the
  executed steps are distinct, and not more than the ids of
  the defined ones.  And if the limit allows as many steps
  as are defined, the walk fails with the limit exactly when
  the way that the definition and the payload determine runs
  into a circle.
-/
theorem execute_repeats_in_circles_only
    [Surroundings]
    {e₀ e : Engine}
    {d : WorkflowDefinition}
    {w : Workflow}
    {store : ContactStore}
    (hBuilt : (build d e₀).1 = .ok w)
    (hThen : e₀.UsesBuiltins d)
    (hNow : e.UsesBuiltins d)
    (hAccess : e.access = .contacts store)
    (hWritten : store.Written)
    (trigger : TriggerType)
    (payload correlationId : Value) :
    (∀ r,
      (execute w.definition trigger payload correlationId
        e).1 = .ok r →
          r.stepIds.Nodup ∧
            r.steps.length ≤ d.definedIds.card) ∧
    (d.definedIds.card ≤ e.limit →
      ((execute w.definition trigger payload correlationId
        e).1 = .error (.stepLimit d.id e.limit) ↔
          d.Circles payload)) := by
  rcases admits_of_build hBuilt with ⟨hAdmits, rfl⟩
  have hClosed := isClosed_of_usesBuiltins hAdmits hThen
  have hProvides := provides_of_admits hAdmits hThen hNow
  have hTidy : e.access.IsTidy := by
    rw [hAccess]
    exact hWritten.isTidy
  rcases Course.exists_ends hClosed payload e.access
    e.limit.toNat with ⟨ending, hEnds⟩
  rcases execute_of_ends hProvides trigger correlationId
    hEnds with ⟨ns, hExecute, -⟩
  have hOutcome := congrArg Prod.fst hExecute
  constructor
  · intro r hResult
    have hSame := hOutcome.symm.trans hResult
    cases hEnds with
    | finished hCourse hLimit =>
        cases hSame
        exact ⟨hCourse.nodup_of_end hTidy,
          hCourse.length_le_of_end hClosed hTidy⟩
    | failed _ _ _ _ => cases hSame
    | exceeded _ _ => cases hSame
  · intro hLimit
    constructor
    · intro hFails
      have hSame := hOutcome.symm.trans hFails
      cases hEnds with
      | finished _ _ => cases hSame
      | failed _ _ _ hPerformed =>
          exact absurd (Except.error.inj hSame)
            (StepDefinition.ne_stepLimit_of_performed
              hPerformed _ _)
      | exceeded hCourse hFull =>
          refine hCourse.circles_of_length hClosed hTidy ?_
          omega
    · intro hCircles
      rcases hEnds.exceeded_of_circles hTidy hCircles with
        ⟨path, id, after, rfl⟩
      exact hOutcome

/- Log the contact of a paid transaction, again and again. -/
def logForEver : WorkflowDefinition :=
  { id := "log-for-ever"
    name := "Log for ever"
    triggers := ["crm/transaction_updated"]
    initialStep := "is-paid"
    steps := [
      ("is-paid",
        { slug := "crm/condition/transaction_field"
          attributes := [
            ("field", .str "status"),
            ("operator", .str "is"),
            ("value", .str "paid")
          ]
          nextStepTrue := some "log" }),
      ("log",
        { slug := "crm/add_contact_log"
          attributes := [("type", .str "note")]
          nextStep := some "is-paid" })
    ] }

open scoped Bare in
/-
  A paid transaction runs into the circle of `logForEver`,
  and an open one visits no step of it twice.
-/
theorem execute_repeats_in_circles_only_logForEver :
    logForEver.Circles (transaction "paid") ∧
      ∃ r,
        (execute logForEver Builtin.transactionUpdated
          (transaction "open") .null stocked).1 = .ok r ∧
        r.stepIds.Nodup := by
  have hBuilt :
      (build logForEver stocked).1 =
        .ok (stocked.workflowOf logForEver) := rfl
  have hBoth :=
    execute_repeats_in_circles_only hBuilt
      (usesBuiltins_stocked _) (usesBuiltins_stocked _) rfl
      ContactStore.Written.new Builtin.transactionUpdated
  constructor
  · exact ((hBoth (transaction "paid") .null).2
      (by decide)).mp rfl
  · exact ⟨_, rfl,
      ((hBoth (transaction "open") .null).1 _ rfl).1⟩

end Engine

end EventFlow
