import EventFlow.Proofs.StoreIndependence

/-
  Walks under a raised limit.

  The limit does not take part in the moves of a walk, nor
  in where it breaks.  So a walk under a higher limit runs
  along the same moves: either the lower limit did not
  matter, or the walk that it cut off is the beginning of
  the other.

  Key definitions include:
    * `Walk.under`
    * `Walk.whole`
    * `Engine.under`

  Key theorems include:
    * `Walk.runs_under`
    * `Walk.take_of_runs`
    * `Walk.records_of_runs`
    * `Engine.execute_under_raised_limit`
-/

------------------------------------------------------------
-- Walks Under Another Limit
------------------------------------------------------------

namespace EventFlow

namespace Walk

/- The walk under another limit. -/
def under
    (w : Walk)
    (limit : Int) : Walk :=
  { w with limit := limit }

variable {w : Walk}
variable {v v' : Value}
variable {access access' : DataAccess}
variable {os : List StepOutcome}
variable {ns : List Notice}
variable {failure : Failure}

variable [Surroundings]

/- A walk makes the same moves under every limit. -/
theorem moves_under
    {o : StepOutcome}
    (hMoves : w.Moves v access o ns v' access')
    (limit : Int) :
    (w.under limit).Moves v access o ns v' access' := by
  cases hMoves with
  | step hDefined hEffect hFine hNext =>
      exact .step hDefined hEffect hFine hNext

/- A walk breaks in the same way under every limit. -/
theorem breaks_under
    (hBreaks : w.Breaks v access access' ns failure)
    (limit : Int) :
    (w.under limit).Breaks v access access' ns failure := by
  cases hBreaks with
  | undefined hSome hAt => exact .undefined hSome hAt
  | unmade hSome hAt hMade => exact .unmade hSome hAt hMade
  | failed hSome hAt hEffect hFailed =>
      exact .failed hSome hAt hEffect hFailed
  | lost hSome hAt hEffect hFine hNext =>
      exact .lost hSome hAt hEffect hFine hNext

/- So its runs are those under every other limit. -/
theorem runs_under
    (hRuns : w.Runs v access os ns v' access')
    (limit : Int) :
    (w.under limit).Runs v access os ns v' access' := by
  induction hRuns with
  | stay v access => exact .stay v access
  | move hMoves hRuns ih =>
      exact .move (moves_under hMoves limit) ih

/- On the way a walk tells nothing besides the trace. -/
theorem records_of_runs
    (hRuns : w.Runs v access os ns v' access') :
    Notice.records ns = [] := by
  induction hRuns with
  | stay v access => rfl
  | move hMoves hRuns ih =>
      cases hMoves with
      | step hDefined hEffect hFine hNext =>
          rw [Notice.records_append,
            Notice.records_tracing, ih]
          rfl

end Walk

end EventFlow

------------------------------------------------------------
-- Whole Walks
------------------------------------------------------------

namespace EventFlow

namespace Walk

/- A walk from its first notice to its last. -/
def whole
    (w : Walk)
    (walked : Walked) : Walked :=
  { walked with
    notices :=
      .walkStarted w.run ::
        (walked.notices ++ w.closing walked.outcome) }

variable {w : Walk}
variable {v : Value}
variable {access access' : DataAccess}
variable {os : List StepOutcome}
variable {ns : List Notice}

/- A run that the limit allows is how the walk begins. -/
theorem take_of_runs
    [Surroundings]
    (hRuns : w.Runs w.start access os ns v access')
    (hLimit : os.length ≤ w.limit.toNat) :
    w.take access =
      w.whole
        ((w.follow (w.limit.toNat - os.length) v
          access').beyond ns os) := by
  have hFollow :=
    follow_of_runs hRuns (w.limit.toNat - os.length)
  rw [Nat.add_sub_cancel' hLimit] at hFollow
  rw [← hFollow]
  rfl

end Walk

end EventFlow

------------------------------------------------------------
-- Raising the Limit
------------------------------------------------------------

namespace EventFlow

/- Whether a failure is another one than that of a limit. -/
def Failure.isNoLimit : Failure → Bool
| .stepLimit _ _ => false
| _ => true

namespace Engine

/- The engine with another limit. -/
def under
    (e : Engine)
    (limit : Int) : Engine :=
  { e with limit := limit }

variable {e : Engine}
variable {d : WorkflowDefinition}
variable {trigger : TriggerType}
variable {payload correlationId : Value}

/-
  Nowhere does a walk break with the limit, unless a body
  raises it that a type brings along.
-/
theorem ne_stepLimit_of_breaks
    [Surroundings]
    (hBodies :
      (e.walkOf d trigger payload correlationId).BodiesWithin
        Failure.isNoLimit)
    {v : Value}
    {access access' : DataAccess}
    {ns : List Notice}
    {failure : Failure}
    (hBreaks :
      (e.walkOf d trigger payload correlationId).Breaks
        v access access' ns failure)
    (limit : Int) :
    failure ≠ .stepLimit d.id limit := by
  rintro rfl
  rcases kind_of_breaks hBodies hBreaks with
    hStep | hLookup | hBody
  · cases hStep
  · cases hLookup
  · cases hBody

/-
  Consider two executions of a definition on a payload, in
  an engine that differs in its limit only, the second one
  with the higher.  A body that a type brings along may do
  anything but raise the failure of a limit itself; the
  built-in types bring none.  Unless the first is cut off by its
  limit, the second has the same result or failure, and
  leaves the same engine: the same data access, and the same
  notices told.  If the first is cut off, it ran along as
  many steps as its limit allows, it left what they made of
  the data access, and it told what they told; the second
  begins with the very same run, and goes on from there with
  the steps that it has left.
-/
theorem execute_under_raised_limit
    [Surroundings]
    {limit limit' : Int}
    (hRaised : limit ≤ limit')
    {e : Engine}
    {d : WorkflowDefinition}
    {trigger : TriggerType}
    {payload correlationId : Value}
    (hBodies :
      (e.walkOf d trigger payload correlationId).BodiesWithin
        Failure.isNoLimit) :
    let low :=
      execute d trigger payload correlationId
        (e.under limit)
    let high :=
      execute d trigger payload correlationId
        (e.under limit')
    let walk :=
      (e.under limit').walkOf d trigger payload
        correlationId
    (low.1 ≠ .error (.stepLimit d.id limit) →
      high = (low.1, low.2.under limit')) ∧
    (low.1 = .error (.stepLimit d.id limit) →
      ∃ steps told next access,
        walk.Runs walk.start e.access
          steps told next access ∧
        steps.length = limit.toNat ∧
        next ≠ .null ∧
        Notice.records told = [] ∧
        low.2 =
          hear
            (.walkStarted walk.run ::
              (told ++ [.limitReached walk.run limit]))
            { e.under limit with access := access } ∧
        ∃ rest,
          walk.follow (limit'.toNat - limit.toNat)
            next access = rest ∧
          high.1 =
            (rest.outcome.map (steps ++ ·)).map
              walk.resultOf ∧
          high.2 =
            hear
              (.walkStarted walk.run ::
                (told ++ rest.notices ++
                  walk.closing
                    (rest.outcome.map (steps ++ ·))))
              { e.under limit' with
                access := rest.access }) := by
  intro low high walk
  let walk₀ :=
    (e.under limit).walkOf d trigger payload correlationId
  have hNat : limit.toNat ≤ limit'.toNat :=
    Int.toNat_le_toNat hRaised
  rcases walk₀.exists_runs limit.toNat walk₀.start
      e.access with
    ⟨os, ns, access, hLe, hRuns⟩ |
      ⟨os, ns, v, access, hEq, hSome, hRuns⟩ |
        ⟨os, ns, v, access, access', ms, failure, hLt,
          hRuns, hBreaks⟩
  · have hLow := execute_of_take
      (e := e.under limit)
      (Walk.take_of_finished hRuns hLe)
    have hHigh := execute_of_take
      (e := e.under limit')
      (Walk.take_of_finished
        (Walk.runs_under hRuns limit')
        (Nat.le_trans hLe hNat))
    constructor
    · intro _
      rw [show low = _ from hLow, show high = _ from hHigh]
      rfl
    · intro hCut
      rw [show low = _ from hLow] at hCut
      cases hCut
  · have hRuns' := Walk.runs_under hRuns limit'
    have hLow := execute_of_take
      (e := e.under limit)
      (Walk.take_of_exhausted hRuns hSome hEq)
    have hHigh := execute_of_take
      (e := e.under limit')
      (Walk.take_of_runs hRuns'
        (Nat.le_trans (Nat.le_of_eq hEq) hNat))
    constructor
    · intro hUncut
      exact absurd (congrArg Prod.fst hLow) hUncut
    · intro _
      refine ⟨os, ns, v, access, hRuns', hEq, hSome,
        Walk.records_of_runs hRuns,
        congrArg Prod.snd hLow, _, rfl, ?_, ?_⟩
      · rw [← hEq]
        exact congrArg Prod.fst hHigh
      · rw [← hEq]
        exact congrArg Prod.snd hHigh
  · have hLow := execute_of_take
      (e := e.under limit)
      (Walk.take_of_broken hRuns hLt hBreaks)
    have hHigh := execute_of_take
      (e := e.under limit')
      (Walk.take_of_broken
        (Walk.runs_under hRuns limit')
        (Nat.lt_of_lt_of_le hLt hNat)
        (Walk.breaks_under hBreaks limit'))
    constructor
    · intro _
      rw [show low = _ from hLow, show high = _ from hHigh]
      rfl
    · intro hCut
      rw [show low = _ from hLow] at hCut
      have hSame : failure = .stepLimit d.id limit := by
        cases hCut
        rfl
      exact absurd hSame
        (ne_stepLimit_of_breaks (e := e.under limit) hBodies
          hBreaks _)

open scoped Bare in
/-
  The three steps of `tagPaid` run alike under limits of
  three and of a hundred.  Under a limit of two they are cut
  off, and what is left is what the first two steps of the
  longer run make of the data access.
-/
theorem execute_under_raised_limit_tagPaid :
    let run := fun limit =>
      execute tagPaid Builtin.transactionUpdated
        (transaction "paid") .null (stocked.under limit)
    let walk :=
      (stocked.under 100).walkOf tagPaid
        Builtin.transactionUpdated (transaction "paid") .null
    run 100 = ((run 3).1, (run 3).2.under 100) ∧
      (run 2).1 = .error (.stepLimit "tag-paid" 2) ∧
        ∃ steps told next access,
          walk.Runs walk.start stocked.access
            steps told next access ∧
          steps.length = 2 ∧
          (run 2).2.access = access := by
  intro run walk
  have hUncut :
      (run 3).1 ≠ .error (.stepLimit "tag-paid" 3) := by
    intro hCut
    cases hCut
  have hCut :
      (run 2).1 = .error (.stepLimit "tag-paid" 2) := rfl
  have hBodies :=
    (hasOwnSteps_stocked.isOwn_walkOf tagPaid
      Builtin.transactionUpdated (transaction "paid")
      .null).bodiesWithin Failure.isNoLimit
  refine ⟨(execute_under_raised_limit
    (show (3 : Int) ≤ 100 by decide) hBodies).1 hUncut, hCut,
    ?_⟩
  rcases (execute_under_raised_limit
    (show (2 : Int) ≤ 100 by decide) hBodies).2 hCut with
    ⟨steps, told, next, access, hRuns, hLength, -, -, hLow,
      -⟩
  exact ⟨steps, told, next, access, hRuns, hLength,
    congrArg Engine.access hLow⟩

end Engine

end EventFlow
