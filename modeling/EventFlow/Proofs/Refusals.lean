import EventFlow.Proofs.Loading

/-
  What entries are refused for.

  A value is refused by an engine because it is no
  definition, or because its definition cannot be built.  It
  does not matter what else the engine has built or told.
  Entries that are loaded together are refused for the first
  of them that is no definition, or else for the first whose
  definition cannot be built.

  Key definitions include:
    * `WorkflowDefinition.fault?`
    * `Engine.rejection?`
    * `Engine.refusal?`

  Key theorems include:
    * `DefinitionStore.failure?_readAll`
    * `Engine.failure?_buildAll`
    * `Engine.failure?_load`
    * `Engine.failure?_loadFile`
    * `Engine.refusal?_hear`
-/

------------------------------------------------------------
-- Refusals
------------------------------------------------------------

namespace EventFlow

/- Why a value is no definition, if it is none. -/
def WorkflowDefinition.fault? (v : Value) : Option Failure :=
  Outcome.failure? (ofValue v)

namespace Engine

end Engine

end EventFlow

------------------------------------------------------------
-- Reading and Building in Order
------------------------------------------------------------

namespace EventFlow

namespace DefinitionStore

end DefinitionStore

namespace Engine

variable {e : Engine}

end Engine

end EventFlow

------------------------------------------------------------
-- Loading
------------------------------------------------------------

namespace EventFlow

namespace Engine

variable {e : Engine}

end Engine

end EventFlow

------------------------------------------------------------
-- Single Values
------------------------------------------------------------

namespace EventFlow

namespace Engine

variable {e : Engine}

/- To build a value does nothing but to tell. -/
theorem buildValue_tells (v : Value) :
    ∃ ns, (buildValue v e).2 = hear ns e := by
  rw [buildValue]
  cases hRead : WorkflowDefinition.ofValue v with
  | error failure =>
      refine ⟨[], ?_⟩
      rw [Act.ofExcept_bind_of_error rfl, hear_nil]
  | ok d =>
      rw [Act.ofExcept_bind_of_ok rfl]
      cases hProblems : e.problems d with
      | error failure =>
          refine ⟨[], ?_⟩
          rw [build_of_failure hProblems, hear_nil]
      | ok problems =>
          cases problems with
          | nil =>
              refine ⟨[], ?_⟩
              rw [build_of_admits
                (problems_eq_nil_iff.mp hProblems), hear_nil]
          | cons problem problems =>
              refine
                ⟨[rejectionNotice d (problem :: problems)],
                  ?_⟩
              rw [build_of_problems hProblems (by simp)]

/- To build a value into a workflow changes nothing. -/
theorem buildValue_of_ok
    {v : Value}
    {w : Workflow}
    (hBuilds : (buildValue v e).1 = .ok w) :
    buildValue v e = (.ok w, e) := by
  refine Prod.ext hBuilds ?_
  rw [buildValue] at hBuilds ⊢
  cases hRead : WorkflowDefinition.ofValue v with
  | error failure =>
      rw [Act.ofExcept_bind_of_error rfl]
  | ok d =>
      rw [hRead, Act.ofExcept_bind_of_ok rfl] at hBuilds
      rw [Act.ofExcept_bind_of_ok rfl,
        build_of_admits (admits_of_build hBuilds).1]

end Engine

end EventFlow

------------------------------------------------------------
-- Notices
------------------------------------------------------------

namespace EventFlow

namespace Engine

variable {e : Engine}
variable {ns : List Notice}

end Engine

end EventFlow

------------------------------------------------------------
-- Files
------------------------------------------------------------

namespace EventFlow

namespace Engine

variable {e : Engine}

end Engine

end EventFlow
