import EventFlow.Proofs.Refusals
import EventFlow.Proofs.Registries

/-
  Building is total.

  Whatever value is to be built, and whatever its shape, it
  becomes a workflow or is refused as an invalid one for at
  least one reason, and nothing else than what is told is
  changed by the attempt.

  Key theorems include:
    * `Engine.problems_of_buildValue`
    * `Engine.build_is_total`
-/

------------------------------------------------------------
-- Values of Any Shape
------------------------------------------------------------

namespace EventFlow

namespace Engine

variable {e : Engine}

/- A value that is not built has a problem. -/
theorem problems_of_buildValue
    (hTypes :
      ∀ slug, e.stepTypes.lookup slug ≠ some .stale)
    {v : Value}
    {failure : Failure}
    (hFails : (buildValue v e).1 = .error failure) :
    ∃ id problems,
      failure = .workflowInvalid id problems ∧
        problems ≠ [] := by
  rw [buildValue] at hFails
  cases hRead : WorkflowDefinition.ofValue v with
  | error other =>
      rw [hRead, Act.ofExcept_bind_of_error rfl] at hFails
      cases hFails
      exact WorkflowDefinition.problems_of_ofValue hRead
  | ok d =>
      rw [hRead, Act.ofExcept_bind_of_ok rfl] at hFails
      exact problems_of_build hTypes hFails

variable {log : List Registered}

/-
  Whatever value is to be built with an engine that knows
  what was registered with it: this yields a workflow and
  leaves the engine as it is, or it fails because of an
  invalid workflow with at least one problem, and then only
  notices are told.  Either way what is registered, built,
  added and subscribed to stays, and so do the contacts.
-/
theorem build_is_total
    [Surroundings]
    (hFollows : e.Follows log)
    (v : Value) :
    ((∃ w, buildValue v e = (.ok w, e)) ∨
      ∃ id problems ns,
        problems ≠ [] ∧
          buildValue v e =
            (.error (.workflowInvalid id problems),
              hear ns e)) ∧
    (buildValue v e).2.triggerTypes = e.triggerTypes ∧
    (buildValue v e).2.stepTypes = e.stepTypes ∧
    (buildValue v e).2.built = e.built ∧
    (buildValue v e).2.added = e.added ∧
    (buildValue v e).2.bus = e.bus ∧
    (buildValue v e).2.access = e.access := by
  rcases buildValue_tells (e := e) v with ⟨ns, hTells⟩
  refine ⟨?_, ?_⟩
  · cases hBuilds : (buildValue v e).1 with
    | ok w => exact .inl ⟨w, buildValue_of_ok hBuilds⟩
    | error failure =>
        rcases problems_of_buildValue hFollows.not_stale
          hBuilds with ⟨id, problems, rfl, hSome⟩
        exact .inr ⟨id, problems, ns, hSome,
          Prod.ext hBuilds hTells⟩
  · rw [hTells]
    exact ⟨rfl, rfl, rfl, rfl, rfl, rfl⟩

/- A definition that answers a new contact. -/
def greeting : Value :=
  .object [
    ("id", .str "greeting"),
    ("name", .str "Greeting"),
    ("triggers", .list [.str "crm/contact_created"]),
    ("initial_step", .str "note"),
    ("steps", .object [
      ("note", .object [
        ("slug", .str "crm/add_contact_log"),
        ("attributes", .object [("type", .str "note")])
      ])
    ])
  ]

open scoped Bare in
/- One value is built, and three are refused with reasons. -/
theorem build_is_total_greeting :
    let e :=
      (registerAll
        [ .trigger (.item (.trigger Builtin.contactCreated)),
          .step (.item (.step Builtin.addContactLog)) ]
        { limit := 5 }).2
    (∃ log, e.Follows log) ∧
      (∃ w, buildValue greeting e = (.ok w, e)) ∧
      ∀ v ∈
          [ .int 1,
            .object [("steps", .object [("s", .null)])],
            .object [
              ("id", .str "w"),
              ("name", .str "W"),
              ("triggers", .list [.str "crm/lost"]),
              ("initial_step", .str "s")
            ] ],
        ∃ id problems ns,
          problems ≠ [] ∧
            buildValue v e =
              (.error (.workflowInvalid id problems),
                hear ns e) := by
  intro e
  have hNew : make 5 false .none = .ok { limit := 5 } := rfl
  rcases exists_follows hNew
    [ .trigger (.item (.trigger Builtin.contactCreated)),
      .step (.item (.step Builtin.addContactLog)) ] with
    ⟨log, hFollows⟩
  refine ⟨⟨log, hFollows⟩, ?_, ?_⟩
  · have hBuilds : (buildValue greeting e).1.isOk := by
      decide +kernel
    rcases (build_is_total hFollows greeting).1 with
      hBuilt | ⟨id, problems, ns, -, hRefused⟩
    · exact hBuilt
    · rw [hRefused] at hBuilds
      cases hBuilds
  · intro v hMem
    have hFails : (buildValue v e).1.isOk = false := by
      revert v
      decide +kernel
    rcases (build_is_total hFollows v).1 with
      ⟨w, hBuilt⟩ | hRefused
    · rw [hBuilt] at hFails
      cases hFails
    · exact hRefused

end Engine

end EventFlow
