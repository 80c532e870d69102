import EventFlow.Workflow.Walk
import Mathlib.Data.List.Basic

/-
  The walk as a run of single moves.

  A walk moves from one step to the next, breaks at a step,
  or is at its end.  Following the walk with a number of
  steps left is running along its moves until one of these
  happens or no step is left.

  Key definitions include:
    * `Walk.Moves`
    * `Walk.Breaks`
    * `Walk.Runs`
    * `Walked.beyond`

  Key theorems include:
    * `Walk.moves_or_breaks`
    * `Walk.follow_of_runs`
    * `Walk.exists_runs`
    * `Walk.Runs.invariant`
    * `Walk.runs_of_take`
-/

------------------------------------------------------------
-- Moves and Breaks
------------------------------------------------------------

namespace EventFlow

namespace Walk

variable [Surroundings]

/-
  A walk moves from a step to its successor: the step is
  defined and made, it does not fail, and it tells where to
  go on.
-/
inductive Moves
    (w : Walk) :
    Value → DataAccess →
      StepOutcome → List Notice →
        Value → DataAccess → Prop where
| step
    {id : String}
    {s : StepDefinition}
    {access : DataAccess}
    {effect : Effect}
    {next : Value}
    (hDefined : w.definition.steps.lookup id = some s)
    (hEffect : w.executeAt id s access = .ok effect)
    (hFine : effect.failure? = none)
    (hNext : effect.step.next = .ok next) :
    Moves w (.str id) access
      (outcomeOf id effect.step)
      (tracing effect.step effect.traces)
      next effect.access

/-
  A walk breaks: the step is not defined, or it cannot be
  made, or it fails, or it does not tell where to go on.
-/
inductive Breaks
    (w : Walk) :
    Value → DataAccess →
      DataAccess → List Notice → Failure → Prop where
| undefined
    {v : Value}
    {access : DataAccess}
    {failure : Failure}
    (hSome : v ≠ .null)
    (hAt : w.definitionAt v = .error failure) :
    Breaks w v access access [] failure
| unmade
    {v : Value}
    {id : String}
    {s : StepDefinition}
    {access : DataAccess}
    {failure : Failure}
    (hSome : v ≠ .null)
    (hAt : w.definitionAt v = .ok (id, s))
    (hMade : w.executeAt id s access = .error failure) :
    Breaks w v access access
      (w.complaints id s failure) failure
| failed
    {v : Value}
    {id : String}
    {s : StepDefinition}
    {access : DataAccess}
    {effect : Effect}
    {failure : Failure}
    (hSome : v ≠ .null)
    (hAt : w.definitionAt v = .ok (id, s))
    (hEffect : w.executeAt id s access = .ok effect)
    (hFailed : effect.failure? = some failure) :
    Breaks w v access effect.access
      (tracing effect.step effect.traces ++
        w.complaints id s failure)
      failure
| lost
    {v : Value}
    {id : String}
    {s : StepDefinition}
    {access : DataAccess}
    {effect : Effect}
    {failure : Failure}
    (hSome : v ≠ .null)
    (hAt : w.definitionAt v = .ok (id, s))
    (hEffect : w.executeAt id s access = .ok effect)
    (hFine : effect.failure? = none)
    (hNext : effect.step.next = .error failure) :
    Breaks w v access effect.access
      (tracing effect.step effect.traces) failure

variable {w : Walk}
variable {v v' : Value}
variable {access access' : DataAccess}
variable {o : StepOutcome}
variable {ns : List Notice}
variable {failure : Failure}

omit [Surroundings] in
/- A failure that does not ask to stop is told. -/
theorem complaints_of_not_isInterrupt
    (id : String)
    (s : StepDefinition)
    (hStays : failure.isInterrupt = false) :
    w.complaints id s failure =
      [.stepFailed w.run id s.slug failure] := by
  rw [complaints, hStays]
  rfl

omit [Surroundings] in
theorem definitionAt_of_lookup
    {id : String}
    {s : StepDefinition}
    (hDefined : w.definition.steps.lookup id = some s) :
    w.definitionAt (.str id) = .ok (id, s) := by
  simp [definitionAt, hDefined]

omit [Surroundings] in
/- Only texts name steps that are defined. -/
theorem definitionAt_eq_ok
    {id : String}
    {s : StepDefinition}
    (hAt : w.definitionAt v = .ok (id, s)) :
    v = .str id ∧
      w.definition.steps.lookup id = some s := by
  unfold definitionAt at hAt
  split at hAt
  · rename_i key
    cases hDefined : w.definition.steps.lookup key with
    | none =>
        rw [hDefined] at hAt
        cases hAt
    | some step =>
        rw [hDefined] at hAt
        cases hAt
        exact ⟨rfl, hDefined⟩
  · split at hAt <;> cases hAt

theorem Moves.ne_null
    (hMoves : w.Moves v access o ns v' access') :
    v ≠ .null := by
  cases hMoves
  exact Value.noConfusion

theorem Breaks.ne_null
    (hBreaks : w.Breaks v access access' ns failure) :
    v ≠ .null := by
  cases hBreaks <;> assumption

/- Where a walk is not at its end, it moves or it breaks. -/
theorem moves_or_breaks
    (w : Walk)
    {v : Value}
    (hSome : v ≠ .null)
    (access : DataAccess) :
    (∃ o ns v' access', w.Moves v access o ns v' access') ∨
      ∃ access' ns failure,
        w.Breaks v access access' ns failure := by
  cases hAt : w.definitionAt v with
  | error failure =>
      exact .inr ⟨_, _, _, .undefined hSome hAt⟩
  | ok found =>
      rcases found with ⟨id, s⟩
      cases hEffect : w.executeAt id s access with
      | error failure =>
          exact .inr ⟨_, _, _, .unmade hSome hAt hEffect⟩
      | ok effect =>
          cases hFailure : effect.failure? with
          | some failure =>
              exact .inr ⟨_, _, _,
                .failed hSome hAt hEffect hFailure⟩
          | none =>
              cases hNext : effect.step.next with
              | error failure =>
                  exact .inr ⟨_, _, _,
                    .lost hSome hAt hEffect hFailure hNext⟩
              | ok next =>
                  rcases definitionAt_eq_ok hAt with
                    ⟨rfl, hDefined⟩
                  exact .inl ⟨_, _, _, _,
                    .step hDefined hEffect hFailure hNext⟩

end Walk

end EventFlow

------------------------------------------------------------
-- Following One Step
------------------------------------------------------------

namespace EventFlow

namespace Walk

variable {w : Walk}
variable {v v' : Value}
variable {access access' : DataAccess}
variable {o : StepOutcome}
variable {ns : List Notice}
variable {failure : Failure}

variable [Surroundings]

theorem follow_null
    (n : Nat)
    (access : DataAccess) :
    w.follow n .null access =
      { access := access
        outcome := .ok [] } := by
  cases n <;> rfl

theorem follow_zero
    (hSome : v ≠ .null)
    (access : DataAccess) :
    w.follow 0 v access = w.exhausted access := by
  cases v with
  | null => exact absurd rfl hSome
  | _ => rfl

/- Away from its end, a walk with steps left takes one. -/
theorem follow_succ
    (hSome : v ≠ .null)
    (n : Nat)
    (access : DataAccess) :
    w.follow (n + 1) v access =
      match w.definitionAt v with
      | .error failure =>
          { access := access
            outcome := .error failure }
      | .ok (id, s) =>
          match w.executeAt id s access with
          | .error failure =>
              w.failedAt id s access [] failure
          | .ok effect =>
              match effect.failure? with
              | some failure =>
                  w.failedAt id s effect.access
                    (tracing effect.step effect.traces)
                    failure
              | none =>
                  match effect.step.next with
                  | .error failure =>
                      { access := effect.access
                        notices :=
                          tracing effect.step effect.traces
                        outcome := .error failure }
                  | .ok next =>
                      (w.follow n next effect.access).behind
                        (tracing effect.step effect.traces)
                        (outcomeOf id effect.step) := by
  cases v with
  | null => exact absurd rfl hSome
  | _ => rfl

theorem follow_of_moves
    (hMoves : w.Moves v access o ns v' access')
    (n : Nat) :
    w.follow (n + 1) v access =
      (w.follow n v' access').behind ns o := by
  rw [follow_succ hMoves.ne_null]
  cases hMoves with
  | step hDefined hEffect hFine hNext =>
      simp [definitionAt_of_lookup hDefined, hEffect,
        hFine, hNext]

theorem follow_of_breaks
    (hBreaks : w.Breaks v access access' ns failure)
    (n : Nat) :
    w.follow (n + 1) v access =
      { access := access'
        notices := ns
        outcome := .error failure } := by
  rw [follow_succ hBreaks.ne_null]
  cases hBreaks with
  | undefined hSome hAt => simp [hAt]
  | unmade hSome hAt hMade =>
      simp [hAt, hMade, failedAt]
  | failed hSome hAt hEffect hFailed =>
      simp [hAt, hEffect, hFailed, failedAt]
  | lost hSome hAt hEffect hFine hNext =>
      simp [hAt, hEffect, hFine, hNext]

end Walk

end EventFlow

------------------------------------------------------------
-- Runs
------------------------------------------------------------

namespace EventFlow

namespace Walked

/- The rest of a walk behind several steps. -/
def beyond
    (notices : List Notice)
    (steps : List StepOutcome)
    (w : Walked) : Walked :=
  { w with
    notices := notices ++ w.notices
    outcome := w.outcome.map (steps ++ ·) }

@[simp] theorem beyond_nil (w : Walked) :
    w.beyond [] [] = w := by
  rcases w with ⟨access, notices, outcome⟩
  cases outcome <;> simp [beyond, Except.map]

theorem behind_beyond
    (ns ms : List Notice)
    (o : StepOutcome)
    (os : List StepOutcome)
    (w : Walked) :
    (w.beyond ms os).behind ns o =
      w.beyond (ns ++ ms) (o :: os) := by
  rcases w with ⟨access, notices, outcome⟩
  cases outcome <;> simp [behind, beyond, Except.map]

end Walked

namespace Walk

variable [Surroundings]

/-
  A run along moves: the steps executed, the notices told on
  the way, and where the walk is afterwards.
-/
inductive Runs
    (w : Walk) :
    Value → DataAccess →
      List StepOutcome → List Notice →
        Value → DataAccess → Prop where
| stay
    (v : Value)
    (access : DataAccess) :
    Runs w v access [] [] v access
| move
    {v₁ v₂ v₃ : Value}
    {access₁ access₂ access₃ : DataAccess}
    {o : StepOutcome}
    {os : List StepOutcome}
    {ns ms : List Notice}
    (hMoves : w.Moves v₁ access₁ o ns v₂ access₂)
    (hRuns : Runs w v₂ access₂ os ms v₃ access₃) :
    Runs w v₁ access₁ (o :: os) (ns ++ ms) v₃ access₃

variable {w : Walk}
variable {v v' : Value}
variable {access access' : DataAccess}
variable {os : List StepOutcome}
variable {ns : List Notice}

/- To follow a walk is to run along its moves first. -/
theorem follow_of_runs
    (hRuns : w.Runs v access os ns v' access')
    (n : Nat) :
    w.follow (os.length + n) v access =
      (w.follow n v' access').beyond ns os := by
  induction hRuns with
  | stay v access => simp
  | @move _ _ _ _ _ _ o os ns ms hMoves hRuns ih =>
      have hLength :
          (o :: os).length + n = os.length + n + 1 := by
        rw [List.length_cons]
        omega
      rw [hLength, follow_of_moves hMoves, ih,
        Walked.behind_beyond]

/-
  With a number of steps left a walk runs to its end, or
  uses all of them before its end, or breaks on the way.
-/
theorem exists_runs
    (w : Walk)
    (n : Nat)
    (v : Value)
    (access : DataAccess) :
    (∃ os ns access',
      os.length ≤ n ∧
        w.Runs v access os ns .null access') ∨
    (∃ os ns v' access',
      os.length = n ∧ v' ≠ .null ∧
        w.Runs v access os ns v' access') ∨
    (∃ os ns v' access' access'' ms failure,
      os.length < n ∧
        w.Runs v access os ns v' access' ∧
          w.Breaks v' access' access'' ms failure) := by
  induction n generalizing v access with
  | zero =>
      by_cases hNull : v = .null
      · subst hNull
        exact .inl ⟨[], [], access, Nat.le_refl 0,
          .stay _ _⟩
      · exact .inr (.inl ⟨[], [], v, access, rfl, hNull,
          .stay _ _⟩)
  | succ n ih =>
      by_cases hNull : v = .null
      · subst hNull
        exact .inl ⟨[], [], access, Nat.zero_le _,
          .stay _ _⟩
      rcases w.moves_or_breaks hNull access with
        ⟨o, ns, v₁, access₁, hMoves⟩ |
          ⟨access₁, ns, failure, hBreaks⟩
      · rcases ih v₁ access₁ with
          ⟨os, ms, access', hLe, hRuns⟩ |
            ⟨os, ms, v', access', hEq, hSome, hRuns⟩ |
              ⟨os, ms, v', access', access'', ls, failure,
                hLt, hRuns, hBreaks⟩
        · refine .inl ⟨o :: os, ns ++ ms, access', ?_,
            .move hMoves hRuns⟩
          exact Nat.succ_le_succ hLe
        · refine .inr (.inl ⟨o :: os, ns ++ ms, v',
            access', ?_, hSome, .move hMoves hRuns⟩)
          exact congrArg Nat.succ hEq
        · refine .inr (.inr ⟨o :: os, ns ++ ms, v',
            access', access'', ls, failure, ?_,
            .move hMoves hRuns, hBreaks⟩)
          exact Nat.succ_lt_succ hLt
      · exact .inr (.inr ⟨[], [], v, access, access₁, ns,
          failure, Nat.succ_pos n, .stay _ _, hBreaks⟩)

/- What every move records, every move of a run records. -/
theorem Runs.forall_outcomes
    {P : StepOutcome → Prop}
    (hRuns : w.Runs v access os ns v' access')
    (hMove :
      ∀ {v access o ns v' access'},
        w.Moves v access o ns v' access' → P o) :
    ∀ o ∈ os, P o := by
  induction hRuns with
  | stay v access =>
      intro o hMem
      cases hMem
  | move hMoves hRuns ih =>
      rw [List.forall_mem_cons]
      exact ⟨hMove hMoves, ih⟩

end Walk

end EventFlow

------------------------------------------------------------
-- Whole Walks
------------------------------------------------------------

namespace EventFlow

namespace Walk

variable {w : Walk}
variable {v : Value}
variable {access access' access'' : DataAccess}
variable {os : List StepOutcome}
variable {ns ms : List Notice}
variable {failure : Failure}

/- The start of a walk. -/
def start (w : Walk) : Value :=
  .str w.definition.initialStep

variable [Surroundings]

/- A run to the end that the limit allows is the whole walk. -/
theorem take_of_finished
    (hRuns : w.Runs w.start access os ns .null access')
    (hLimit : os.length ≤ w.limit.toNat) :
    w.take access =
      { access := access'
        notices :=
          .walkStarted w.run ::
            (ns ++ [.walkFinished w.run os.length])
        outcome := .ok os } := by
  rcases Nat.exists_eq_add_of_le hLimit with ⟨n, hEq⟩
  have hFollow := follow_of_runs hRuns n
  rw [← hEq, follow_null] at hFollow
  change w.follow w.limit.toNat
    (.str w.definition.initialStep) access = _ at hFollow
  simp [take, hFollow, Walked.beyond, Except.map, closing]

/- A run that uses up the limit before its end is cut off. -/
theorem take_of_exhausted
    (hRuns : w.Runs w.start access os ns v access')
    (hSome : v ≠ .null)
    (hLimit : os.length = w.limit.toNat) :
    w.take access =
      { access := access'
        notices :=
          .walkStarted w.run ::
            (ns ++ [.limitReached w.run w.limit])
        outcome :=
          .error (.stepLimit w.definition.id w.limit) } := by
  have hFollow := follow_of_runs hRuns 0
  rw [Nat.add_zero, hLimit, follow_zero hSome] at hFollow
  change w.follow w.limit.toNat
    (.str w.definition.initialStep) access = _ at hFollow
  simp [take, hFollow, Walked.beyond, Except.map, closing,
    exhausted]

/- A run within the limit to a step that breaks ends there. -/
theorem take_of_broken
    (hRuns : w.Runs w.start access os ns v access')
    (hLimit : os.length < w.limit.toNat)
    (hBreaks : w.Breaks v access' access'' ms failure) :
    w.take access =
      { access := access''
        notices := .walkStarted w.run :: (ns ++ ms)
        outcome := .error failure } := by
  rcases Nat.exists_eq_add_of_lt hLimit with ⟨n, hEq⟩
  have hFollow := follow_of_runs hRuns (n + 1)
  rw [← Nat.add_assoc, ← hEq, follow_of_breaks hBreaks]
    at hFollow
  change w.follow w.limit.toNat
    (.str w.definition.initialStep) access = _ at hFollow
  simp [take, hFollow, Walked.beyond, Except.map, closing]

/- A walk that yields something ran to its end for it. -/
theorem runs_of_take
    (hTake : (w.take access).outcome = .ok os) :
    ∃ ns access',
      w.Runs w.start access os ns .null access' := by
  rcases w.exists_runs w.limit.toNat w.start access with
    ⟨os', ns, access', hLe, hRuns⟩ |
      ⟨os', ns, v, access', hEq, hSome, hRuns⟩ |
        ⟨os', ns, v, access', access'', ms, failure, hLt,
          hRuns, hBreaks⟩
  · rw [take_of_finished hRuns hLe] at hTake
    cases hTake
    exact ⟨ns, access', hRuns⟩
  · rw [take_of_exhausted hRuns hSome hEq] at hTake
    cases hTake
  · rw [take_of_broken hRuns hLt hBreaks] at hTake
    cases hTake

end Walk

end EventFlow
