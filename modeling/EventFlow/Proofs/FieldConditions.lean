import EventFlow.Catalog.Builtin
import EventFlow.Log.Trail
import EventFlow.Proofs.Acts
import EventFlow.Proofs.StepData
import Mathlib.Data.List.Infix
import Mathlib.Logic.Basic

/-
  What field conditions promise.

  A field condition finds out whether the field of a payload
  and the value that it expects stand in the relation that
  its operator names.  A payload without the field is never
  a failure, whatever the operator is.  The finding depends
  on the settings of the condition and on the payload only,
  and the outcome is written when nothing can fail any more:
  so nothing is carried from one payload to the next.

  Key definitions include:
    * `FieldCondition.HasField`
    * `FieldCondition.Opposed`
    * `Step.Asks`
    * `Step.finding`
    * `Step.after`

  Key theorems include:
    * `FieldCondition.actual?_eq_some_iff`
    * `FieldCondition.evaluate_opposed`
    * `Trails.entries_follow`
    * `Step.field_condition_keeps_contract`
    * `Step.settles_execute`
    * `Step.field_condition_carries_nothing`
-/

------------------------------------------------------------
-- Fields of Payloads
------------------------------------------------------------

namespace EventFlow

namespace FieldCondition

/-
  Whether a payload has a field with a value: the payload is
  an object with an id, and its data are an object in which
  the field is not empty.
-/
def HasField
    (payload : Value)
    (field : String)
    (actual : Value) : Prop :=
  ∃ fields id data,
    payload = .object fields ∧
    fields.lookup "id" = some id ∧ id ≠ .null ∧
    fields.lookup "data" = some (.object data) ∧
    data.lookup field = some actual ∧ actual ≠ .null

variable {payload actual : Value}
variable {field : String}

/- A condition looks at the value that the payload has. -/
theorem actual?_eq_some_iff :
    actual? payload (.str field) = .ok (some actual) ↔
      HasField payload field actual := by
  constructor
  · intro hFound
    unfold actual? at hFound
    split at hFound
    · cases hFound
    · rename_i hId
      split at hFound
      · rename_i data hData
        cases payload with
        | object fields =>
            have hIdSome :
                (fields.lookup "id").getD .null ≠ .null := by
              rw [ne_eq, ← Value.isNull_iff]
              exact hId
            have hLookup :
                fields.lookup "data" =
                  some (.object data) :=
              (Entries.getD_lookup_eq_iff
                Value.noConfusion).mp hData
            simp only [lookup, Except.map] at hFound
            split at hFound
            · cases hFound
            · rename_i hActual
              rw [Value.isNull_iff] at hActual
              cases hFound
              exact ⟨fields, _, data, rfl,
                (Entries.getD_lookup_eq_iff hIdSome).mp rfl,
                hIdSome, hLookup,
                (Entries.getD_lookup_eq_iff hActual).mp rfl,
                hActual⟩
        | _ => cases hData
      · cases hFound
  · rintro ⟨fields, id, data, rfl, hId, hIdSome, hData,
      hActual, hSome⟩
    have hIdNull : id.isNull = false := by
      rw [← Bool.not_eq_true, Value.isNull_iff]
      exact hIdSome
    have hNull : actual.isNull = false := by
      rw [← Bool.not_eq_true, Value.isNull_iff]
      exact hSome
    simp [actual?, Value.fieldD, Value.field?, hId, hData,
      hIdNull, lookup, hActual, Except.map, hNull]

/- To look at a field whose name is a text does not fail. -/
theorem exists_actual?
    (payload : Value)
    (field : String) :
    ∃ found, actual? payload (.str field) = .ok found := by
  unfold actual?
  split
  · exact ⟨none, rfl⟩
  · split
    · exact ⟨_, rfl⟩
    · exact ⟨none, rfl⟩

/- A condition looks at nothing if the payload has no value. -/
theorem actual?_eq_none_iff :
    actual? payload (.str field) = .ok none ↔
      ¬ ∃ actual, HasField payload field actual := by
  rcases exists_actual? payload field with ⟨found, hFound⟩
  cases found with
  | none =>
      refine iff_of_true hFound ?_
      rintro ⟨actual, hHas⟩
      rw [actual?_eq_some_iff.mpr hHas] at hFound
      cases hFound
  | some actual =>
      refine iff_of_false ?_ ?_
      · rw [hFound]
        exact nofun
      · exact not_not_intro
          ⟨actual, actual?_eq_some_iff.mp hFound⟩

end FieldCondition

end EventFlow

------------------------------------------------------------
-- Operators
------------------------------------------------------------

namespace EventFlow

namespace Tags

/- Whether characters occur in others, as the library has it. -/
theorem occursIn_iff (word cs : List Char) :
    occursIn word cs = true ↔ word <:+: cs := by
  induction cs with
  | nil => simp [occursIn]
  | cons c cs ih =>
      rw [occursIn, Bool.or_eq_true, ih, List.infix_cons_iff,
        List.isPrefixOf_iff_prefix]

end Tags

namespace FieldCondition

/- Two operators of which exactly one holds. -/
inductive Opposed : String → String → Prop where
| equality : Opposed "is" "is_not"
| containment : Opposed "contains" "does_not_contain"

/- Each operator of the field conditions can be evaluated. -/
theorem exists_evaluate
    {operator : Value}
    (hOperator : operator ∈ operators.map Value.str)
    (actual expected : Value) :
    ∃ met, evaluate operator actual expected = .ok met := by
  simp only [operators, List.map_cons, List.map_nil,
    List.mem_cons, List.not_mem_nil, or_false] at hOperator
  rcases hOperator with rfl | rfl | rfl | rfl
  · exact ⟨_, rfl⟩
  · exact ⟨_, rfl⟩
  · exact ⟨_, rfl⟩
  · exact ⟨_, rfl⟩

/- Opposed operators have opposite outcomes. -/
theorem evaluate_opposed
    {one other : String}
    (hOpposed : Opposed one other)
    {actual expected : Value}
    {met : Bool}
    (hMet :
      evaluate (.str one) actual expected = .ok met) :
    evaluate (.str other) actual expected = .ok (!met) := by
  cases hOpposed with
  | equality =>
      cases hMet
      rfl
  | containment =>
      cases hMet
      rfl

theorem mem_operators_of_opposed
    {one other : String}
    (hOpposed : Opposed one other) :
    one ∈ operators ∧ other ∈ operators := by
  cases hOpposed <;> decide

/- What containment means. -/
theorem evaluate_contains_iff
    {actual expected : Value}
    {met : Bool}
    (hMet :
      evaluate (.str "contains") actual expected = .ok met) :
    met = true ↔
      expected.text.toList <:+: actual.text.toList := by
  cases hMet
  exact Tags.occursIn_iff _ _

end FieldCondition

end EventFlow

------------------------------------------------------------
-- Traced Effects
------------------------------------------------------------

namespace EventFlow

namespace Trails

/- The trail of a target. -/
def of (ts : Trails) : TraceTarget → Trail
| .engine => ts.current
| .default => ts.default

/- A trail that is kept takes up what is traced to it. -/
theorem of_add
    {ts : Trails}
    {target : TraceTarget}
    (hKept : (ts.of target).isKept = true)
    (entry : TraceEntry) :
    ((ts.add target entry).of target).isKept = true ∧
      ((ts.add target entry).of target).entries =
        (ts.of target).entries ++ [entry] := by
  rcases ts with ⟨own?, shared⟩
  cases target with
  | default =>
      change shared.isKept = true at hKept
      simp [add, of, Trail.add, hKept]
  | engine =>
      cases own? with
      | none =>
          change shared.isKept = true at hKept
          simp [add, of, changeCurrent, current, Trail.add,
            hKept]
      | some own =>
          change own.isKept = true at hKept
          simp [add, of, changeCurrent, current, Trail.add,
            hKept]

/- It takes up all of it, in order. -/
theorem entries_follow
    {target : TraceTarget}
    (entries : List TraceEntry) :
    ∀ {ts : Trails},
      (ts.of target).isKept = true →
        ((ts.follow (entries.map (.traced target))).of
            target).entries =
          (ts.of target).entries ++ entries := by
  induction entries with
  | nil => simp [follow]
  | cons entry entries ih =>
      intro ts hKept
      rcases of_add hKept entry with ⟨hStill, hEntries⟩
      have hRest := ih hStill
      rw [hEntries, List.append_assoc] at hRest
      exact hRest

end Trails

namespace Effect

/-
  Whether an effect adds a number of messages to the trail
  of its step, if this is kept.
-/
def AddsMessages
    (effect : Effect)
    (count : Nat) : Prop :=
  ∀ ts : Trails,
    (ts.of effect.step.traceTarget).isKept = true →
      ∃ told,
        told.length = count ∧
          ((ts.follow
              (effect.traces.map
                (.traced effect.step.traceTarget))).of
            effect.step.traceTarget).messages =
            (ts.of effect.step.traceTarget).messages ++ told

theorem addsMessages_length (effect : Effect) :
    effect.AddsMessages effect.traces.length := by
  intro ts hKept
  refine ⟨effect.traces.map TraceEntry.message,
    List.length_map _, ?_⟩
  rw [Trail.messages, Trails.entries_follow _ hKept,
    List.map_append]
  rfl

end Effect

end EventFlow

------------------------------------------------------------
-- The Contract of Field Conditions
------------------------------------------------------------

namespace EventFlow

namespace Step

/-
  Whether a step is a built-in field condition that asks for
  a field, with an operator and an expected value.
-/
structure Asks
    (s : Step)
    (field : String)
    (operator expected : Value) : Prop where
  type : s.type ∈ Builtin.conditions
  field : s.attributes.get? "field" = some (.str field)
  operator : s.attributes.get? "operator" = some operator
  expected : s.attributes.get? "value" = some expected

variable {s : Step}
variable {field : String}
variable {operator expected payload : Value}
variable {access : DataAccess}

namespace Asks

theorem settings (hAsks : s.Asks field operator expected) :
    s.comparisonSettings =
      .ok (.str field, operator, expected) := by
  rw [comparisonSettings, require, hAsks.field]
  dsimp only
  rw [require, hAsks.operator]
  dsimp only
  rw [require, hAsks.expected]
  rfl

/- The built-in conditions differ in their subjects only. -/
theorem shape (hAsks : s.Asks field operator expected) :
    (∃ subject, s.type.behavior = .compareField subject) ∧
      s.type.validOperators = FieldCondition.operators := by
  have hType := hAsks.type
  simp only [Builtin.conditions, List.mem_cons,
    List.not_mem_nil, or_false] at hType
  rcases hType with hType | hType
  · rw [hType]
    exact ⟨⟨_, rfl⟩, rfl⟩
  · rw [hType]
    exact ⟨⟨_, rfl⟩, rfl⟩

theorem allowsOperator_iff
    (hAsks : s.Asks field operator expected)
    (v : Value) :
    s.type.allowsOperator v = true ↔
      v ∈ FieldCondition.operators.map Value.str := by
  rw [StepType.allowsOperator_iff, hAsks.shape.2]

variable [Surroundings]

/- Where the payload lacks the field, nothing is compared. -/
theorem execute_of_absent
    (hAsks : s.Asks field operator expected)
    (hAbsent :
      ¬ ∃ actual,
        FieldCondition.HasField payload field actual)
    (access : DataAccess) :
    ∃ told,
      s.execute payload access =
        s.deciding access [told] false := by
  rcases hAsks.shape.1 with ⟨subject, hBehavior⟩
  refine ⟨FieldCondition.mismatch subject payload, ?_⟩
  rw [execute, hBehavior]
  dsimp only
  rw [compareField, hAsks.settings]
  dsimp only
  rw [FieldCondition.actual?_eq_none_iff.mpr hAbsent]

/- Where it has the field, the comparison is all there is. -/
theorem execute_of_hasField
    (hAsks : s.Asks field operator expected)
    {actual : Value}
    (hHas : FieldCondition.HasField payload field actual) :
    s.execute payload access =
      s.compareValue access (.str field) operator expected
        actual := by
  rcases hAsks.shape.1 with ⟨subject, hBehavior⟩
  rw [execute, hBehavior]
  dsimp only
  rw [compareField, hAsks.settings]
  dsimp only
  rw [FieldCondition.actual?_eq_some_iff.mpr hHas]

/- A known operator decides the condition. -/
theorem execute_of_operator
    (hAsks : s.Asks field operator expected)
    {actual : Value}
    (hHas : FieldCondition.HasField payload field actual)
    (hOperator :
      operator ∈ FieldCondition.operators.map Value.str)
    {met : Bool}
    (hMet :
      FieldCondition.evaluate operator actual expected =
        .ok met)
    (access : DataAccess) :
    ∃ first second,
      s.execute payload access =
        s.deciding access [first, second] met := by
  rw [hAsks.execute_of_hasField hHas, compareValue,
    if_pos ((hAsks.allowsOperator_iff operator).mpr
      hOperator), hMet]
  exact ⟨_, _, rfl⟩

/- Any other operator is a failure. -/
theorem execute_of_noOperator
    (hAsks : s.Asks field operator expected)
    {actual : Value}
    (hHas : FieldCondition.HasField payload field actual)
    (hNone :
      operator ∉ FieldCondition.operators.map Value.str) :
    s.execute payload access =
      s.failing access [] (.operatorInvalid operator) := by
  rw [hAsks.execute_of_hasField hHas, compareValue, if_neg]
  rw [hAsks.allowsOperator_iff operator]
  exact hNone

end Asks

/- A condition goes on with one of two successors. -/
theorem next_of_condition
    [Surroundings]
    {subject : String}
    (hBehavior : s.type.behavior = .compareField subject) :
    s.next =
      .ok (if s.met.isTruthy then
        s.nextStepTrue
      else
        s.nextStepFalse) := by
  have hVariant : s.type.variant = .condition := by
    rw [StepType.variant, hBehavior]
    rfl
  rw [next, hBehavior, successor, hVariant]

/- What a decided condition goes on with. -/
theorem Asks.next_deciding
    [Surroundings]
    (hAsks : s.Asks field operator expected)
    (traces : List TraceEntry)
    (met : Bool) :
    (s.deciding access traces met).step.next =
      .ok (if met then s.nextStepTrue else s.nextStepFalse) := by
  rcases hAsks.shape.1 with ⟨subject, hBehavior⟩
  have hStill :
      (s.deciding access traces met).step.type.behavior =
        .compareField subject := hBehavior
  rw [next_of_condition hStill]
  cases met <;> rfl

/-
  Consider a built-in field condition with any attributes of
  which the field is a text, with any successors and with
  whatever outcome it had.  On a payload that does not have
  the field it never fails, whatever the operator: it is not
  met, adds one message, and goes on with the successor for
  that.  On a payload that has the field it fails exactly
  when the operator is none of the four.  Else it is met or
  not, goes on accordingly and adds two messages; of two
  conditions with opposed operators exactly one is met, and
  one that asks for containment is met exactly if the text
  of the expected value occurs in the text of the actual.
-/
theorem field_condition_keeps_contract
    [Surroundings]
    (hAsks : s.Asks field operator expected)
    (payload : Value)
    (access : DataAccess) :
    let effect := s.execute payload access
    ((¬ ∃ actual,
        FieldCondition.HasField payload field actual) →
      effect.failure? = none ∧
        effect.step.met = .bool false ∧
        effect.AddsMessages 1 ∧
        effect.step.next = .ok s.nextStepFalse) ∧
    ∀ actual,
      FieldCondition.HasField payload field actual →
        (effect.failure? ≠ none ↔
          operator ∉
            FieldCondition.operators.map Value.str) ∧
        (effect.failure? = none →
          ∃ met : Bool,
            effect.step.met = .bool met ∧
            effect.AddsMessages 2 ∧
            effect.step.next =
              .ok (if met then s.nextStepTrue
                else s.nextStepFalse) ∧
            (operator = .str "contains" →
              (met = true ↔
                expected.text.toList <:+:
                  actual.text.toList)) ∧
            ∀ (one other : String) (t : Step),
              FieldCondition.Opposed one other →
              operator = .str one →
              t.Asks field (.str other) expected →
                (t.execute payload access).step.met =
                  .bool (!met)) := by
  intro effect
  refine ⟨?_, ?_⟩
  · intro hAbsent
    rcases hAsks.execute_of_absent hAbsent access with
      ⟨told, hEffect⟩
    have hSame : effect = s.deciding access [told] false :=
      hEffect
    rw [hSame]
    exact ⟨rfl, rfl, Effect.addsMessages_length _,
      hAsks.next_deciding _ _⟩
  · intro actual hHas
    by_cases hOperator :
        operator ∈ FieldCondition.operators.map Value.str
    · rcases FieldCondition.exists_evaluate hOperator actual
        expected with ⟨met, hMet⟩
      rcases hAsks.execute_of_operator hHas hOperator hMet
        access with ⟨first, second, hEffect⟩
      have hSame :
          effect = s.deciding access [first, second] met :=
        hEffect
      rw [hSame]
      refine ⟨iff_of_false (fun hFails => hFails rfl)
        (not_not_intro hOperator), fun _ => ?_⟩
      refine ⟨met, rfl, Effect.addsMessages_length _,
        hAsks.next_deciding _ _, ?_, ?_⟩
      · rintro rfl
        exact FieldCondition.evaluate_contains_iff hMet
      · rintro one other t hOpposed rfl hOther
        have hKnown :
            Value.str other ∈
              FieldCondition.operators.map Value.str :=
          List.mem_map_of_mem
            (FieldCondition.mem_operators_of_opposed
              hOpposed).2
        rcases hOther.execute_of_operator hHas hKnown
          (FieldCondition.evaluate_opposed hOpposed hMet)
          access with ⟨_, _, hOpposite⟩
        rw [hOpposite]
        rfl
    · have hSame :
          effect =
            s.failing access [] (.operatorInvalid operator) :=
        hAsks.execute_of_noOperator hHas hOperator
      rw [hSame]
      exact ⟨iff_of_true (Option.some_ne_none _) hOperator,
        nofun⟩

/- A condition on the status of a transaction. -/
def askingStatus (operator : Value) : Step :=
  { type := Builtin.transactionField
    id := .str "ask"
    attributes :=
      Table.ofFields [
        ("field", .str "status"),
        ("operator", operator),
        ("value", .str "pai")
      ]
    nextStep := .null
    nextStepTrue := .str "tag"
    nextStepFalse := .null
    met := .bool true }

/- A transaction that is paid. -/
def paidTransaction : Value :=
  .object [
    ("id", .int 7),
    ("data", .object [("status", .str "paid")])
  ]

open scoped Bare in
/-
  A status contains a text, and so does not fail to contain
  it; an unknown operator fails on it, but not on a payload
  without a status.
-/
theorem field_condition_keeps_contract_status :
    (∀ operator,
      (askingStatus operator).Asks "status" operator
        (.str "pai")) ∧
      FieldCondition.HasField paidTransaction "status"
        (.str "paid") ∧
      ((askingStatus (.str "contains")).execute
        paidTransaction .none).step.next =
          .ok (.str "tag") ∧
      ((askingStatus (.str "does_not_contain")).execute
        paidTransaction .none).step.met = .bool false ∧
      ((askingStatus (.int 1)).execute
        paidTransaction .none).failure? ≠ none ∧
      ((askingStatus (.int 1)).execute
        (.int 1) .none).step.next = .ok .null := by
  have hAsks (operator : Value) :
      (askingStatus operator).Asks "status" operator
        (.str "pai") :=
    ⟨List.mem_cons_self, rfl, rfl, rfl⟩
  have hHas :
      FieldCondition.HasField paidTransaction "status"
        (.str "paid") :=
    ⟨_, .int 7, _, rfl, rfl, nofun, rfl, rfl, nofun⟩
  have hKnown :
      ¬ Value.str "contains" ∉
        FieldCondition.operators.map Value.str := by
    simp [FieldCondition.operators]
  have hUnknown :
      Value.int 1 ∉
        FieldCondition.operators.map Value.str := by
    simp
  have hAbsent :
      ¬ ∃ actual,
        FieldCondition.HasField (.int 1) "status"
          actual := by
    rintro ⟨actual, fields, id, data, hObject, -⟩
    cases hObject
  rcases (field_condition_keeps_contract
    (hAsks (.str "contains")) paidTransaction .none).2 _
    hHas with ⟨hFails, hDecides⟩
  rcases hDecides (not_not.mp (mt hFails.mp hKnown)) with
    ⟨met, -, -, hNext, hContains, hOpposed⟩
  have hMet : met = true :=
    (hContains rfl).mpr ⟨[], ['d'], rfl⟩
  subst hMet
  exact ⟨hAsks, hHas, hNext,
    hOpposed _ _ _ .containment rfl (hAsks _),
    ((field_condition_keeps_contract (hAsks (.int 1))
      paidTransaction .none).2 _ hHas).1.mpr hUnknown,
    ((field_condition_keeps_contract (hAsks (.int 1))
      (.int 1) .none).1 hAbsent).2.2.2⟩

end Step

end EventFlow

------------------------------------------------------------
-- Conditions That Are Executed Again
------------------------------------------------------------

namespace EventFlow

namespace Step

variable {s : Step}

/-
  What a field condition finds in a payload: whether it is
  met, or why this cannot be said.
-/
def finding
    (s : Step)
    (payload : Value) : Except Failure Bool :=
  match s.comparisonSettings with
  | .error failure => .error failure
  | .ok (field, operator, expected) =>
      match FieldCondition.actual? payload field with
      | .error failure => .error failure
      | .ok none => .ok false
      | .ok (some actual) =>
          if s.type.allowsOperator operator then
            FieldCondition.evaluate operator actual expected
          else
            .error (.operatorInvalid operator)

/-
  Whether an effect settles a step with a finding: it writes
  the outcome that was found, or leaves the step as it was
  and fails.
-/
def Settles
    (s : Step)
    (effect : Effect) : Except Failure Bool → Prop
| .ok met =>
    effect.failure? = none ∧
      effect.step = { s with met := .bool met }
| .error failure =>
    effect.failure? = some failure ∧ effect.step = s

/- A comparison settles a step with what it finds. -/
theorem settles_compareField
    (s : Step)
    (subject : String)
    (payload : Value)
    (access : DataAccess) :
    s.Settles (s.compareField subject payload access)
      (s.finding payload) := by
  unfold compareField finding
  cases s.comparisonSettings with
  | error failure => exact ⟨rfl, rfl⟩
  | ok settings =>
      rcases settings with ⟨field, operator, expected⟩
      dsimp only
      cases FieldCondition.actual? payload field with
      | error failure => exact ⟨rfl, rfl⟩
      | ok found =>
          cases found with
          | none => exact ⟨rfl, rfl⟩
          | some actual =>
              dsimp only
              unfold compareValue
              dsimp only
              split
              · cases FieldCondition.evaluate operator actual
                  expected with
                | error failure => exact ⟨rfl, rfl⟩
                | ok met => exact ⟨rfl, rfl⟩
              · exact ⟨rfl, rfl⟩

/- So does every execution of a field condition. -/
theorem settles_execute
    [Surroundings]
    {subject : String}
    (hBehavior : s.type.behavior = .compareField subject)
    (payload : Value)
    (access : DataAccess) :
    s.Settles (s.execute payload access)
      (s.finding payload) := by
  rw [execute, hBehavior]
  exact s.settles_compareField subject payload access

/- A finding does not depend on the outcome before. -/
theorem finding_met
    (s : Step)
    (met payload : Value) :
    finding { s with met := met } payload =
      s.finding payload := rfl

/- A step after it was executed on payloads in order. -/
def after
    [Surroundings]
    (s : Step) : List (Value × DataAccess) → Step
| [] => s
| (payload, access) :: rest =>
    (s.execute payload access).step.after rest

/- Only the outcome of a step can have changed by then. -/
theorem exists_after
    [Surroundings]
    {s : Step}
    (hOwn : s.type.behavior.isForeign = false)
    (before : List (Value × DataAccess)) :
    ∃ met, s.after before = { s with met := met } := by
  induction before generalizing s with
  | nil => exact ⟨s.met, rfl⟩
  | cons execution before ih =>
      rcases execution with ⟨payload, access⟩
      rcases s.isOf_execute access hOwn payload with
        ⟨first, hFirst⟩
      have hStill :
          (s.execute payload
            access).step.type.behavior.isForeign = false := by
        rw [type_execute]
        exact hOwn
      rcases ih hStill with ⟨last, hLast⟩
      refine ⟨last, ?_⟩
      rw [after, hLast, hFirst]

/- A step is of the type it is made of. -/
theorem type_of_makeDetached
    {type : StepType}
    {data : Value}
    {fresh : Step}
    (hMade : makeDetached type data = .ok fresh) :
    fresh.type = type := by
  rcases Outcome.map_eq_ok hMade with ⟨step, hStep, rfl⟩
  have hType : step.type = type := (of_make hStep).1
  exact hType

/-
  Consider a type whose steps compare fields, a step that is
  made of it from any data, and the same step with any other
  outcome, which was executed on any payloads before, with
  whatever data access there was.  On the next payload the
  two fail alike or not at all.  If they do not fail, they
  are met alike and go on with the same successor; if they
  do, the step that was executed before keeps its outcome
  and its successor.
-/
theorem field_condition_carries_nothing
    [Surroundings]
    {type : StepType}
    {subject : String}
    (hBehavior : type.behavior = .compareField subject)
    {data : Value}
    {fresh : Step}
    (hMade :
      make type data = .ok fresh ∨
        makeDetached type data = .ok fresh)
    (preset : Value)
    (before : List (Value × DataAccess))
    (payload : Value)
    (access elsewhere : DataAccess) :
    let s := after { fresh with met := preset } before
    let effect := s.execute payload access
    let alone := fresh.execute payload elsewhere
    effect.failure? = alone.failure? ∧
      (effect.failure? = none →
        effect.step.met = alone.step.met ∧
          effect.step.next = alone.step.next) ∧
      (effect.failure? ≠ none →
        effect.step.met = s.met ∧
          effect.step.next = s.next) := by
  intro s effect alone
  have hType : fresh.type = type := by
    rcases hMade with hMade | hMade
    · exact (of_make hMade).1
    · exact type_of_makeDetached hMade
  rw [← hType] at hBehavior
  have hOwn : fresh.type.behavior.isForeign = false := by
    rw [hBehavior]
    rfl
  obtain ⟨met, hStep⟩ : ∃ met, s = { fresh with met := met } :=
    exists_after (s := { fresh with met := preset }) hOwn
      before
  have hAgain : s.type.behavior = .compareField subject := by
    rw [hStep]
    exact hBehavior
  have hSame : s.finding payload = fresh.finding payload := by
    rw [hStep]
    exact fresh.finding_met met payload
  have hEffect := settles_execute hAgain payload access
  have hAlone := settles_execute hBehavior payload elsewhere
  rw [hSame] at hEffect
  cases hFound : fresh.finding payload with
  | ok found =>
      rw [hFound] at hEffect hAlone
      have hBoth : effect.step = alone.step := by
        rw [hEffect.2, hAlone.2, hStep]
      refine ⟨hEffect.1.trans hAlone.1.symm,
        fun _ => ⟨?_, ?_⟩, fun hFails => ?_⟩
      · rw [hBoth]
      · rw [hBoth]
      · exact absurd hEffect.1 hFails
  | error failure =>
      rw [hFound] at hEffect hAlone
      refine ⟨hEffect.1.trans hAlone.1.symm,
        fun hNone => ?_, fun _ => ⟨?_, ?_⟩⟩
      · rw [hEffect.1] at hNone
        cases hNone
      · rw [hEffect.2]
      · rw [hEffect.2]

/- A condition that also allows an operator of its own. -/
def rangeField : StepType :=
  { Builtin.transactionField with
    name := "RangeTransactionField"
    validOperators :=
      FieldCondition.operators ++ ["greater_than"] }

/- What a condition of this type is made from. -/
def rangeData : Value :=
  .object [
    ("id", .str "ask"),
    ("attributes", .object [
      ("field", .str "status"),
      ("operator", .str "greater_than"),
      ("value", .str "open")
    ]),
    ("next_step_true", .str "tag")
  ]

/- The condition that is made from it. -/
def rangeStep : Step :=
  { type := rangeField
    id := .str "ask"
    attributes :=
      Table.ofFields [
        ("field", .str "status"),
        ("operator", .str "greater_than"),
        ("value", .str "open")
      ]
    nextStep := .null
    nextStepTrue := .str "tag"
    nextStepFalse := .null }

/- The same condition, as if it had been met before. -/
def rangeStepMet : Step :=
  { rangeStep with met := .bool true }

open scoped Bare in
/-
  A condition whose operator is allowed but means nothing is
  preset as met.  It fails on a paid transaction as a fresh
  one does, and stays met.  A payload without a status makes
  it unmet, and so it stays when it fails again.
-/
theorem field_condition_carries_nothing_range :
    make rangeField rangeData = .ok rangeStep ∧
      (rangeStepMet.execute paidTransaction .none).failure? =
        some (.operatorUnhandled (.str "greater_than")) ∧
      (rangeStepMet.execute paidTransaction
        .none).step.next = .ok (.str "tag") ∧
      ((rangeStepMet.after
          [(paidTransaction, .none), (.null, .none)]).execute
        paidTransaction .none).step.next = .ok .null := by
  have hMade : make rangeField rangeData = .ok rangeStep :=
    rfl
  have hBehavior :
      rangeField.behavior = .compareField "transaction" := rfl
  have hFirst :=
    field_condition_carries_nothing hBehavior (.inl hMade)
      (.bool true) [] paidTransaction .none .none
  have hAgain :=
    field_condition_carries_nothing hBehavior (.inl hMade)
      (.bool true) [(paidTransaction, .none), (.null, .none)]
      paidTransaction .none .none
  have hFails :
      (rangeStep.execute paidTransaction .none).failure? =
        some (.operatorUnhandled (.str "greater_than")) := rfl
  have hSome :
      (rangeStep.execute paidTransaction .none).failure? ≠
        none := by
    rw [hFails]
    exact Option.some_ne_none _
  refine ⟨hMade, hFirst.1.trans hFails, ?_, ?_⟩
  · exact (hFirst.2.2 (hFirst.1 ▸ hSome)).2
  · exact (hAgain.2.2 (hAgain.1 ▸ hSome)).2

end Step

end EventFlow
