import EventFlow.Proofs.Registries
import EventFlow.Proofs.Validation

/-
  What the report on a definition contains.

  A definition can break a rule at many sites: at each of its
  triggers, at its initial step, and in each of its steps at
  the type, the successors, the attributes and the triggers.
  The sites have an order.  A report tells of each violation
  once and in the order of the sites, and this is what the
  building of a definition fails with.

  Key definitions include:
    * `Workflow.Site`
    * `Workflow.Problem.Says`
    * `Workflow.StepViolates`
    * `Engine.Violates`
    * `Engine.IsReport`

  Key theorems include:
    * `Workflow.Problem.says_text`
    * `Workflow.mem_stepReport_iff`
    * `Engine.isReport_reportOf`
    * `Engine.isReport_unique`
    * `Engine.build_reports_violations`
-/

------------------------------------------------------------
-- Sited Lists
------------------------------------------------------------

namespace EventFlow

namespace Sited

variable {κ α β : Type}

/- What is found at the sites of a list's items, in order. -/
def found
    (site : Nat → κ)
    (f : α → Option β)
    (xs : List α) : List (κ × β) :=
  xs.zipIdx.filterMap fun (x, index) =>
    (f x).map fun y => (site index, y)

/- What is found at one site, if it is there. -/
def foundAt
    (site : κ)
    (y? : Option β) : List (κ × β) :=
  y?.toList.map fun y => (site, y)

variable {site : Nat → κ}
variable {f : α → Option β}
variable {xs : List α}

@[simp] theorem map_snd_found :
    (found site f xs).map Prod.snd = xs.filterMap f := by
  have hSnd :
      (found site f xs).map Prod.snd =
        (xs.zipIdx.map Prod.fst).filterMap f := by
    rw [found, List.map_filterMap, List.filterMap_map]
    simp [Function.comp_def]
  rw [hSnd, List.zipIdx_map_fst]

theorem mem_found
    {k : κ}
    {y : β} :
    (k, y) ∈ found site f xs ↔
      ∃ index x,
        xs[index]? = some x ∧
          f x = some y ∧
          k = site index := by
  simp only [found, List.mem_filterMap, Prod.exists,
    List.mem_zipIdx_iff_getElem?, Option.map_eq_some_iff,
    Prod.mk.injEq]
  constructor
  · rintro ⟨x, index, hAt, y, hFound, rfl, rfl⟩
    exact ⟨index, x, hAt, hFound, rfl⟩
  · rintro ⟨index, x, hAt, hFound, rfl⟩
    exact ⟨x, index, hAt, y, hFound, rfl, rfl⟩

@[simp] theorem map_snd_foundAt
    (k : κ)
    (y? : Option β) :
    (foundAt k y?).map Prod.snd = y?.toList := by
  simp [foundAt, Function.comp_def]

theorem mem_foundAt
    {k k' : κ}
    {y : β}
    {y? : Option β} :
    (k', y) ∈ foundAt k y? ↔ y? = some y ∧ k' = k := by
  simp [foundAt, eq_comm]

/-
  Whether entries are in the order of the ranks of their
  sites, none of which begins with less than a number.
-/
structure IsFrom
    (rank : κ → List Nat)
    (least : Nat)
    (entries : List (κ × β)) : Prop where
  ordered :
    entries.Pairwise fun entry later =>
      rank entry.1 < rank later.1
  heads :
    ∀ entry ∈ entries,
      ∃ head tail,
        rank entry.1 = head :: tail ∧ least ≤ head

/- The items of a list have rising indices. -/
theorem pairwise_zipIdx (xs : List α) :
    xs.zipIdx.Pairwise fun x y => x.2 < y.2 := by
  rw [← List.pairwise_map (f := Prod.snd) (R := (· < ·)),
    List.zipIdx_map_snd]
  exact List.pairwise_lt_range'

theorem singleton_lt {i j : Nat} (hLt : i < j) :
    [i] < [j] :=
  List.cons_lt_cons_iff.mpr (.inl hLt)

variable {rank : κ → List Nat}
variable {n : Nat}
variable {entries : List (κ × β)}

theorem isFrom_nil (n : Nat) :
    IsFrom rank n ([] : List (κ × β)) :=
  ⟨.nil, by simp⟩

/- Entries whose ranks begin alike stand before greater ones. -/
theorem IsFrom.append
    {front : List (κ × β)}
    (hFront :
      front.Pairwise fun entry later =>
        rank entry.1 < rank later.1)
    (hHeads :
      ∀ entry ∈ front, ∃ tail, rank entry.1 = n :: tail)
    (hThen : IsFrom rank (n + 1) entries) :
    IsFrom rank n (front ++ entries) := by
  constructor
  · refine List.pairwise_append.mpr
      ⟨hFront, hThen.ordered, ?_⟩
    intro entry hEntry later hLater
    rcases hHeads entry hEntry with ⟨tail, hFirst⟩
    rcases hThen.heads later hLater with
      ⟨head, rest, hSecond, hLeast⟩
    rw [hFirst, hSecond, List.cons_lt_cons_iff]
    exact .inl (Nat.lt_of_succ_le hLeast)
  · rw [List.forall_mem_append]
    constructor
    · intro entry hEntry
      rcases hHeads entry hEntry with ⟨tail, hFirst⟩
      exact ⟨n, tail, hFirst, Nat.le_refl n⟩
    · intro entry hEntry
      rcases hThen.heads entry hEntry with
        ⟨head, tail, hFirst, hLeast⟩
      exact ⟨head, tail, hFirst, Nat.le_of_succ_le hLeast⟩

/- What is found at one site stands before greater sites. -/
theorem IsFrom.foundAt
    (hThen : IsFrom rank (n + 1) entries)
    {k : κ}
    (hRank : ∃ tail, rank k = n :: tail)
    (y? : Option β) :
    IsFrom rank n (foundAt k y? ++ entries) := by
  refine .append ?_ ?_ hThen
  · cases y? <;> simp [Sited.foundAt]
  · rintro ⟨k', y⟩ hFound
    rw [(mem_foundAt.mp hFound).2]
    exact hRank

/- What is found at sites in order is in order. -/
theorem IsFrom.found
    (hThen : IsFrom rank (n + 1) entries)
    {tails : Nat → List Nat}
    (hRank : ∀ index, rank (site index) = n :: tails index)
    (hTails : ∀ i j, i < j → tails i < tails j)
    (f : α → Option β)
    (xs : List α) :
    IsFrom rank n (found site f xs ++ entries) := by
  refine .append ?_ ?_ hThen
  · refine (pairwise_zipIdx xs).filterMap _ ?_
    intro (x, i) (x', j) hLt a hFirst b hSecond
    rcases Option.map_eq_some_iff.mp hFirst with
      ⟨y, -, rfl⟩
    rcases Option.map_eq_some_iff.mp hSecond with
      ⟨z, -, rfl⟩
    rw [hRank, hRank, List.cons_lt_cons_iff]
    exact .inr ⟨rfl, hTails i j hLt⟩
  · rintro ⟨k, y⟩ hFound
    rcases mem_found.mp hFound with ⟨index, x, -, -, rfl⟩
    exact ⟨tails index, hRank index⟩

/- Entries in the order of their sites are known by heart. -/
theorem eq_of_mem_iff
    {others : List (κ × β)}
    (hEntries :
      entries.Pairwise fun entry later =>
        rank entry.1 < rank later.1)
    (hOthers :
      others.Pairwise fun entry later =>
        rank entry.1 < rank later.1)
    (hSame : ∀ k y, (k, y) ∈ entries ↔ (k, y) ∈ others) :
    entries = others := by
  have hApart
      {entries : List (κ × β)}
      (hOrdered :
        entries.Pairwise fun entry later =>
          rank entry.1 < rank later.1) :
      entries.Nodup := by
    refine hOrdered.imp fun hLt hEq => ?_
    rw [hEq] at hLt
    exact List.lt_irrefl _ hLt
  -- Strict order leaves no entry twice, so that members tell
  -- all but the order, which is the same one for both.
  have hPerm : entries.Perm others := by
    rw [List.perm_ext_iff_of_nodup (hApart hEntries)
      (hApart hOthers)]
    exact fun (k, y) => hSame k y
  refine hPerm.eq_of_pairwise ?_ hEntries hOthers
  intro entry later _ _ hLt hGt
  exact absurd hGt (List.lt_asymm hLt)

end Sited

end EventFlow

------------------------------------------------------------
-- Wordings
------------------------------------------------------------

namespace EventFlow

namespace Workflow

namespace Problem

/-
  What is to be said of each violation: which step it is in,
  which rule is broken, and by what.
-/
inductive Says : Problem → String → Prop where
| triggerUnknown
    (slug : String) :
    Says (.triggerUnknown slug)
      ("unknown trigger " ++ Text.quoted slug)
| initialUndefined
    (stepId : String) :
    Says (.initialUndefined stepId)
      ("initial step " ++ Text.quoted stepId ++
        " is not defined")
| typeUnknown
    (stepId slug : String) :
    Says (.typeUnknown stepId slug)
      ("step " ++ Text.quoted stepId ++
        " uses unknown step type " ++ Text.quoted slug)
| branchesOfAction
    (stepId : String) :
    Says (.branchesOfAction stepId)
      ("action " ++ Text.quoted stepId ++
        " cannot use conditional successors")
| successorOfCondition
    (stepId : String) :
    Says (.successorOfCondition stepId)
      ("condition " ++ Text.quoted stepId ++
        " must use next_step_true/next_step_false")
| operatorInvalid
    (stepId : String)
    (operator : Value) :
    Says (.operatorInvalid stepId operator)
      ("condition " ++ Text.quoted stepId ++
        " uses invalid operator " ++ operator.shown)
| successorUndefined
    (stepId successor : String) :
    Says (.successorUndefined stepId successor)
      ("step " ++ Text.quoted stepId ++
        " points to undefined step " ++
          Text.quoted successor)
| attributeMissing
    (stepId name : String) :
    Says (.attributeMissing stepId name)
      ("step " ++ Text.quoted stepId ++
        " is missing required attribute " ++
          Text.quoted name)
| triggerRefused
    (stepId slug trigger : String) :
    Says (.triggerRefused stepId slug trigger)
      ("step " ++ Text.quoted stepId ++ " (" ++ slug ++
        ") does not allow trigger " ++ Text.quoted trigger)

/- The wording of a problem says what there is to say. -/
theorem says_text (problem : Problem) :
    problem.Says problem.text := by
  cases problem with
  | triggerUnknown slug => exact .triggerUnknown slug
  | initialUndefined stepId => exact .initialUndefined stepId
  | typeUnknown stepId slug => exact .typeUnknown stepId slug
  | branchesOfAction stepId => exact .branchesOfAction stepId
  | successorOfCondition stepId =>
      exact .successorOfCondition stepId
  | operatorInvalid stepId operator =>
      exact .operatorInvalid stepId operator
  | successorUndefined stepId successor =>
      exact .successorUndefined stepId successor
  | attributeMissing stepId name =>
      exact .attributeMissing stepId name
  | triggerRefused stepId slug trigger =>
      exact .triggerRefused stepId slug trigger

/- There is one thing to say of a problem. -/
theorem Says.eq_text
    {problem : Problem}
    {text : String}
    (hSays : problem.Says text) :
    text = problem.text := by
  cases hSays <;> rfl

end Problem

end Workflow

end EventFlow

------------------------------------------------------------
-- Sites
------------------------------------------------------------

namespace EventFlow

namespace Workflow

/-
  The rules of a step in the order in which they are looked
  at: its type, its stray successors, its operator, and then
  each successor, each attribute that its type requires, and
  each trigger of the workflow.
-/
inductive Rule where
| type
| stray
| operator
| successor (index : Nat)
| required (index : Nat)
| trigger (index : Nat)

/- Where a definition can break a rule. -/
inductive Site where
| trigger (index : Nat)
| initial
| step (index : Nat) (rule : Rule)

/- Rules are ordered by their ranks. -/
def Rule.rank : Rule → List Nat
| .type => [0]
| .stray => [1]
| .operator => [2]
| .successor index => [3, index]
| .required index => [4, index]
| .trigger index => [5, index]

/- Sites are ordered by their ranks. -/
def Site.rank : Site → List Nat
| .trigger index => [0, index]
| .initial => [1]
| .step index rule => 2 :: index :: rule.rank

/- The successors that a step of a variant can have. -/
def slots : Variant → StepDefinition → List (Option String)
| .action, s => [s.nextStep]
| .condition, s => [s.nextStepTrue, s.nextStepFalse]
| .plain, _ => []

/-
  What violates the rules of a step: this depends on its id,
  the step, its type if this is known, the ids of the steps
  that are defined, and the triggers of the workflow.
-/
inductive StepViolates
    (stepId : String)
    (s : StepDefinition)
    (type? : Option StepType)
    (defined triggers : List String) :
    Rule → Problem → Prop where
| type
    (hUnknown : type? = none) :
    StepViolates stepId s type? defined triggers .type
      (.typeUnknown stepId s.slug)
| branches
    {type : StepType}
    (hType : type? = some type)
    (hAction : type.variant = .action)
    (hSet :
      s.nextStepTrue ≠ none ∨ s.nextStepFalse ≠ none) :
    StepViolates stepId s type? defined triggers .stray
      (.branchesOfAction stepId)
| next
    {type : StepType}
    (hType : type? = some type)
    (hCondition : type.variant = .condition)
    (hSet : s.nextStep ≠ none) :
    StepViolates stepId s type? defined triggers .stray
      (.successorOfCondition stepId)
| operator
    {type : StepType}
    {operator : Value}
    (hType : type? = some type)
    (hCondition : type.variant = .condition)
    (hGiven :
      s.attributes.lookup "operator" = some operator)
    (hSome : operator ≠ .null)
    (hForeign :
      ∀ name ∈ type.validOperators, operator ≠ .str name) :
    StepViolates stepId s type? defined triggers .operator
      (.operatorInvalid stepId operator)
| successor
    {type : StepType}
    {index : Nat}
    {id : String}
    (hType : type? = some type)
    (hSlot :
      (slots type.variant s)[index]? = some (some id))
    (hUndefined : id ∉ defined) :
    StepViolates stepId s type? defined triggers
      (.successor index) (.successorUndefined stepId id)
| required
    {type : StepType}
    {index : Nat}
    {name : String}
    (hType : type? = some type)
    (hRequired :
      type.requiredAttributes[index]? = some name)
    (hMissing : s.attributes.lookup name = none) :
    StepViolates stepId s type? defined triggers
      (.required index) (.attributeMissing stepId name)
| trigger
    {type : StepType}
    {index : Nat}
    {trigger : String}
    (hType : type? = some type)
    (hListed : triggers[index]? = some trigger)
    (hRestricted : type.allowedTriggers ≠ [])
    (hRefused : trigger ∉ type.allowedTriggers) :
    StepViolates stepId s type? defined triggers
      (.trigger index)
      (.triggerRefused stepId type.slug trigger)

/- It only matters which steps are defined. -/
theorem StepViolates.of_defined
    {stepId : String}
    {s : StepDefinition}
    {type? : Option StepType}
    {defined others triggers : List String}
    {rule : Rule}
    {problem : Problem}
    (hSame : ∀ id, id ∈ defined ↔ id ∈ others)
    (hViolates :
      StepViolates stepId s type? defined triggers rule
        problem) :
    StepViolates stepId s type? others triggers rule
      problem := by
  cases hViolates with
  | type hUnknown => exact .type hUnknown
  | branches hType hAction hSet =>
      exact .branches hType hAction hSet
  | next hType hCondition hSet =>
      exact .next hType hCondition hSet
  | operator hType hCondition hGiven hSome hForeign =>
      exact .operator hType hCondition hGiven hSome hForeign
  | successor hType hSlot hUndefined =>
      exact .successor hType hSlot
        (mt (hSame _).mpr hUndefined)
  | required hType hRequired hMissing =>
      exact .required hType hRequired hMissing
  | trigger hType hListed hRestricted hRefused =>
      exact .trigger hType hListed hRestricted hRefused

end Workflow

namespace WorkflowDefinition

/- The ids of the steps that are defined. -/
def stepIds (d : WorkflowDefinition) : List String :=
  d.steps.map Prod.fst

theorem hasStep_iff
    {d : WorkflowDefinition}
    {id : String} :
    d.hasStep id ↔ id ∈ d.stepIds := by
  rw [hasStep, List.lookup_isSome_iff, stepIds,
    List.mem_map]
  refine exists_congr fun entry => and_congr_right fun _ => ?_
  rw [beq_iff_eq, eq_comm]

end WorkflowDefinition

namespace Engine

/- The type of steps that is registered for a slug. -/
def stepType?
    (e : Engine)
    (slug : String) : Option StepType :=
  match e.stepTypes.lookup slug with
  | some (.type type) => some type
  | _ => none

/- What violates the rules of a definition, and where. -/
inductive Violates
    (e : Engine)
    (d : WorkflowDefinition) :
    Workflow.Site → Workflow.Problem → Prop where
| trigger
    {index : Nat}
    {slug : String}
    (hListed : d.triggers[index]? = some slug)
    (hUnknown : e.triggerTypes.lookup slug = none) :
    Violates e d (.trigger index) (.triggerUnknown slug)
| initial
    (hUndefined : d.initialStep ∉ d.stepIds) :
    Violates e d .initial (.initialUndefined d.initialStep)
| step
    {index : Nat}
    {stepId : String}
    {s : StepDefinition}
    {rule : Workflow.Rule}
    {problem : Workflow.Problem}
    (hStep : d.steps[index]? = some (stepId, s))
    (hViolates :
      Workflow.StepViolates stepId s (e.stepType? s.slug)
        d.stepIds d.triggers rule problem) :
    Violates e d (.step index rule) problem

/-
  Whether entries are the report on a definition: exactly
  its violations, in the order of their sites.
-/
structure IsReport
    (e : Engine)
    (d : WorkflowDefinition)
    (entries : List (Workflow.Site × Workflow.Problem)) :
    Prop where
  violations :
    ∀ site problem,
      (site, problem) ∈ entries ↔ e.Violates d site problem
  ordered :
    entries.Pairwise fun entry later =>
      entry.1.rank < later.1.rank

end Engine

end EventFlow

------------------------------------------------------------
-- Reports of Steps
------------------------------------------------------------

namespace EventFlow

namespace Workflow

variable {d : WorkflowDefinition}
variable {stepId : String}
variable {s : StepDefinition}
variable {type : StepType}
variable {rule : Rule}
variable {problem : Problem}

/- The stray successors of a step, as a single problem. -/
def stray?
    (stepId : String)
    (variant : Variant)
    (s : StepDefinition) : Option Problem :=
  (strayProblems stepId variant s).head?

/- Whether an operator is given and not one of a type. -/
def isForeign
    (type : StepType)
    (operator : Value) : Bool :=
  !operator.isNull && !type.allowsOperator operator

/- The operator of a step, as a single problem. -/
def operator?
    (stepId : String)
    (type : StepType)
    (s : StepDefinition) : Option Problem :=
  match type.variant with
  | .condition =>
      ((s.attributes.lookup "operator").filter
        (isForeign type)).map (.operatorInvalid stepId)
  | _ => none

/- A successor that is not defined. -/
def undefined?
    (d : WorkflowDefinition)
    (stepId : String)
    (slot : Option String) : Option Problem :=
  (slot.filter fun id => !d.hasStep id).map
    (.successorUndefined stepId)

/- An attribute that is missing. -/
def missing?
    (stepId : String)
    (s : StepDefinition)
    (name : String) : Option Problem :=
  if (s.attributes.lookup name).isNone then
    some (.attributeMissing stepId name)
  else
    none

/- A trigger that is not allowed. -/
def refused?
    (stepId : String)
    (type : StepType)
    (trigger : String) : Option Problem :=
  if !type.allowsTrigger trigger then
    some (.triggerRefused stepId type.slug trigger)
  else
    none

/- The problems of a step of a type, with their rules. -/
def stepReport
    (d : WorkflowDefinition)
    (stepId : String)
    (s : StepDefinition)
    (type : StepType) : List (Rule × Problem) :=
  Sited.foundAt .stray (stray? stepId type.variant s) ++
  (Sited.foundAt .operator (operator? stepId type s) ++
  (Sited.found .successor (undefined? d stepId)
    (slots type.variant s) ++
  (Sited.found .required (missing? stepId s)
    type.requiredAttributes ++
  Sited.found .trigger (refused? stepId type) d.triggers)))

/- A list of problems that is made by filtering another. -/
theorem filterMap_ite
    {α : Type}
    (p : α → Bool)
    (f : α → Problem)
    (xs : List α) :
    xs.filterMap (fun x =>
        if p x then some (f x) else none) =
      (xs.filter p).map f := by
  induction xs with
  | nil => rfl
  | cons x xs ih =>
      cases hFirst : p x <;> simp [hFirst, ih]

theorem toList_stray? :
    (stray? stepId type.variant s).toList =
      strayProblems stepId type.variant s := by
  unfold stray? strayProblems problemIf
  split <;> (try split) <;> rfl

theorem toList_operator? :
    (operator? stepId type s).toList =
      operatorProblems stepId type s := by
  unfold operator? operatorProblems problemIf
  cases type.variant with
  | action => rfl
  | plain => rfl
  | condition =>
      cases s.attributes.lookup "operator" with
      | none => rfl
      | some operator =>
          change
            (((some operator).filter (isForeign type)).map
                (Problem.operatorInvalid stepId)).toList =
              if isForeign type operator then
                [Problem.operatorInvalid stepId operator]
              else
                []
          cases hForeign : isForeign type operator <;>
            simp [hForeign]

theorem filterMap_undefined? :
    (slots type.variant s).filterMap
        (undefined? d stepId) =
      successorProblems d stepId type.variant s := by
  have hSuccessors :
      successors type.variant s =
        (slots type.variant s).filterMap (·) := by
    cases type.variant with
    | action => cases hNext : s.nextStep <;>
        simp [successors, slots, hNext]
    | condition =>
        cases hTrue : s.nextStepTrue <;>
          cases hFalse : s.nextStepFalse <;>
            simp [successors, slots, hTrue, hFalse]
    | plain => rfl
  rw [successorProblems, hSuccessors, List.filter_filterMap,
    List.map_filterMap]
  rfl

/- The report on a step tells its problems. -/
theorem map_snd_stepReport :
    (stepReport d stepId s type).map Prod.snd =
      stepProblems d stepId type s := by
  simp only [stepReport, List.map_append,
    Sited.map_snd_foundAt, Sited.map_snd_found,
    toList_stray?, toList_operator?, filterMap_undefined?,
    stepProblems, List.append_assoc]
  congr 4
  · exact filterMap_ite _ _ _
  · exact filterMap_ite _ _ _

theorem stray?_eq_some_iff :
    stray? stepId type.variant s = some problem ↔
      (type.variant = .action ∧
        (s.nextStepTrue ≠ none ∨ s.nextStepFalse ≠ none) ∧
        .branchesOfAction stepId = problem) ∨
      (type.variant = .condition ∧
        s.nextStep ≠ none ∧
        .successorOfCondition stepId = problem) := by
  unfold stray? strayProblems problemIf
  cases type.variant with
  | action =>
      cases s.nextStepTrue <;> cases s.nextStepFalse <;> simp
  | condition => cases s.nextStep <;> simp
  | plain => simp

theorem isForeign_iff {operator : Value} :
    isForeign type operator ↔
      operator ≠ .null ∧
        ∀ name ∈ type.validOperators,
          operator ≠ .str name := by
  unfold isForeign StepType.allowsOperator
  cases operator with
  | str given =>
      have hMember :
          given ∉ type.validOperators ↔
            ∀ name ∈ type.validOperators, given ≠ name := by
        grind
      simpa [Value.isNull] using hMember
  | _ => simp [Value.isNull]

theorem operator?_eq_some_iff :
    operator? stepId type s = some problem ↔
      type.variant = .condition ∧
        ∃ operator,
          s.attributes.lookup "operator" = some operator ∧
          operator ≠ .null ∧
          (∀ name ∈ type.validOperators,
            operator ≠ .str name) ∧
          .operatorInvalid stepId operator = problem := by
  unfold operator?
  cases type.variant with
  | action => simp
  | plain => simp
  | condition => simp [isForeign_iff, and_assoc]

theorem undefined?_eq_some_iff {slot : Option String} :
    undefined? d stepId slot = some problem ↔
      ∃ id,
        slot = some id ∧
          id ∉ d.stepIds ∧
          .successorUndefined stepId id = problem := by
  simp [undefined?, ← WorkflowDefinition.hasStep_iff,
    and_assoc]

theorem missing?_eq_some_iff {name : String} :
    missing? stepId s name = some problem ↔
      s.attributes.lookup name = none ∧
        .attributeMissing stepId name = problem := by
  simp [missing?]

theorem refused?_eq_some_iff {trigger : String} :
    refused? stepId type trigger = some problem ↔
      (type.allowedTriggers ≠ [] ∧
        trigger ∉ type.allowedTriggers) ∧
      .triggerRefused stepId type.slug trigger =
        problem := by
  simp [refused?, StepType.allowsTrigger]

/- The report on a step contains what violates its rules. -/
theorem mem_stepReport_iff :
    (rule, problem) ∈ stepReport d stepId s type ↔
      StepViolates stepId s (some type) d.stepIds d.triggers
        rule problem := by
  simp only [stepReport, List.mem_append, Sited.mem_foundAt,
    Sited.mem_found, stray?_eq_some_iff,
    operator?_eq_some_iff, undefined?_eq_some_iff,
    missing?_eq_some_iff, refused?_eq_some_iff]
  constructor
  · rintro (⟨⟨hAction, hSet, rfl⟩ |
        ⟨hCondition, hSet, rfl⟩, rfl⟩ |
      ⟨⟨hCondition, operator, hGiven, hSome, hForeign, rfl⟩,
        rfl⟩ |
      ⟨index, slot, hSlot, ⟨id, rfl, hUndefined, rfl⟩,
        rfl⟩ |
      ⟨index, name, hRequired, ⟨hMissing, rfl⟩, rfl⟩ |
      ⟨index, trigger, hListed, ⟨⟨hRestricted, hRefused⟩,
        rfl⟩, rfl⟩)
    · exact .branches rfl hAction hSet
    · exact .next rfl hCondition hSet
    · exact .operator rfl hCondition hGiven hSome hForeign
    · exact .successor rfl hSlot hUndefined
    · exact .required rfl hRequired hMissing
    · exact .trigger rfl hListed hRestricted hRefused
  · intro hViolates
    cases hViolates with
    | type hUnknown => cases hUnknown
    | branches hType hAction hSet =>
        cases hType
        exact .inl ⟨.inl ⟨hAction, hSet, rfl⟩, rfl⟩
    | next hType hCondition hSet =>
        cases hType
        exact .inl ⟨.inr ⟨hCondition, hSet, rfl⟩, rfl⟩
    | operator hType hCondition hGiven hSome hForeign =>
        cases hType
        exact .inr <| .inl
          ⟨⟨hCondition, _, hGiven, hSome, hForeign, rfl⟩,
            rfl⟩
    | successor hType hSlot hUndefined =>
        cases hType
        exact .inr <| .inr <| .inl
          ⟨_, _, hSlot, ⟨_, rfl, hUndefined, rfl⟩, rfl⟩
    | required hType hRequired hMissing =>
        cases hType
        exact .inr <| .inr <| .inr <| .inl
          ⟨_, _, hRequired, ⟨hMissing, rfl⟩, rfl⟩
    | trigger hType hListed hRestricted hRefused =>
        cases hType
        exact .inr <| .inr <| .inr <| .inr
          ⟨_, _, hListed, ⟨⟨hRestricted, hRefused⟩, rfl⟩,
            rfl⟩

/- The report on a step is in the order of its rules. -/
theorem isFrom_stepReport :
    Sited.IsFrom Rule.rank 1
      (stepReport d stepId s type) := by
  have hTails (i j : Nat) : i < j → [i] < [j] :=
    Sited.singleton_lt
  have hNone :
      Sited.IsFrom Rule.rank 6 ([] : List (Rule × Problem)) :=
    Sited.isFrom_nil 6
  have hTriggers :
      Sited.IsFrom Rule.rank 5
        (Sited.found .trigger (refused? stepId type)
          d.triggers) := by
    rw [← List.append_nil (Sited.found _ _ _)]
    exact hNone.found (fun _ => rfl) hTails _ _
  -- From the last rule to the first one, as lists are built.
  exact (((hTriggers.found (fun _ => rfl) hTails _ _).found
    (fun _ => rfl) hTails _ _).foundAt ⟨[], rfl⟩ _).foundAt
      ⟨[], rfl⟩ _

end Workflow

end EventFlow

------------------------------------------------------------
-- Reports of Definitions
------------------------------------------------------------

namespace EventFlow

namespace Engine

open Workflow (Site Rule Problem)

variable {e : Engine}
variable {d : WorkflowDefinition}
variable {stepId : String}
variable {s : StepDefinition}
variable {rule : Rule}
variable {site : Site}
variable {problem : Problem}

/- The problems of a step, with their rules. -/
def entryReport
    (e : Engine)
    (d : WorkflowDefinition)
    (stepId : String)
    (s : StepDefinition) : List (Rule × Problem) :=
  match e.stepType? s.slug with
  | none => [(.type, .typeUnknown stepId s.slug)]
  | some type => Workflow.stepReport d stepId s type

theorem mem_entryReport_iff :
    (rule, problem) ∈ e.entryReport d stepId s ↔
      Workflow.StepViolates stepId s (e.stepType? s.slug)
        d.stepIds d.triggers rule problem := by
  unfold entryReport
  cases e.stepType? s.slug with
  | none =>
      rw [List.mem_singleton, Prod.mk.injEq]
      constructor
      · rintro ⟨rfl, rfl⟩
        exact .type rfl
      · intro hViolates
        cases hViolates with
        | type hUnknown => exact ⟨rfl, rfl⟩
        | _ hType => cases hType
  | some type => exact Workflow.mem_stepReport_iff

theorem ordered_entryReport :
    (e.entryReport d stepId s).Pairwise fun entry later =>
      entry.1.rank < later.1.rank := by
  unfold entryReport
  cases e.stepType? s.slug with
  | none => exact List.pairwise_singleton _ _
  | some type => exact Workflow.isFrom_stepReport.ordered

/- The report on a step tells its problems. -/
theorem problemsOfStep_eq
    (hTypes :
      ∀ slug, e.stepTypes.lookup slug ≠ some .stale) :
    e.problemsOfStep d stepId s =
      .ok ((e.entryReport d stepId s).map Prod.snd) := by
  unfold problemsOfStep entryReport stepType?
  cases hEntry : e.stepTypes.lookup s.slug with
  | none => rfl
  | some entry =>
      cases entry with
      | type type =>
          dsimp only
          rw [Workflow.map_snd_stepReport]
      | stale => exact absurd hEntry (hTypes s.slug)

/- The problems of the steps, with their sites. -/
def stepsReport
    (e : Engine)
    (d : WorkflowDefinition) : List (Site × Problem) :=
  d.steps.zipIdx.flatMap fun ((stepId, s), index) =>
    (e.entryReport d stepId s).map fun (rule, problem) =>
      (.step index rule, problem)

theorem problemsOfSteps_eq
    (hTypes :
      ∀ slug, e.stepTypes.lookup slug ≠ some .stale) :
    e.problemsOfSteps d d.steps =
      .ok ((e.stepsReport d).map Prod.snd) := by
  have hEach (entries : List (String × StepDefinition)) :
      e.problemsOfSteps d entries =
        .ok (entries.flatMap fun entry =>
          (e.entryReport d entry.1 entry.2).map
            Prod.snd) := by
    induction entries with
    | nil => rfl
    | cons entry rest ih =>
        rw [problemsOfSteps, problemsOfStep_eq hTypes, ih,
          List.flatMap_cons]
        rfl
  have hSites :
      (e.stepsReport d).map Prod.snd =
        (d.steps.zipIdx.map Prod.fst).flatMap fun entry =>
          (e.entryReport d entry.1 entry.2).map
            Prod.snd := by
    rw [stepsReport, List.map_flatMap, List.flatMap_map]
    simp [Function.comp_def]
  rw [hEach, hSites, List.zipIdx_map_fst]

theorem mem_stepsReport_iff :
    (site, problem) ∈ e.stepsReport d ↔
      ∃ index stepId s rule,
        d.steps[index]? = some (stepId, s) ∧
          Workflow.StepViolates stepId s
            (e.stepType? s.slug) d.stepIds d.triggers rule
            problem ∧
          site = .step index rule := by
  simp only [stepsReport, List.mem_flatMap, Prod.exists,
    List.mem_zipIdx_iff_getElem?, List.mem_map,
    Prod.mk.injEq, mem_entryReport_iff]
  constructor
  · rintro ⟨stepId, s, index, hStep, rule, problem,
      hViolates, rfl, rfl⟩
    exact ⟨index, stepId, s, rule, hStep, hViolates, rfl⟩
  · rintro ⟨index, stepId, s, rule, hStep, hViolates, rfl⟩
    exact ⟨stepId, s, index, hStep, rule, problem,
      hViolates, rfl, rfl⟩

theorem isFrom_stepsReport :
    Sited.IsFrom Site.rank 2 (e.stepsReport d) := by
  constructor
  · rw [stepsReport, List.pairwise_flatMap]
    constructor
    · rintro ⟨⟨stepId, s⟩, index⟩ -
      rw [List.pairwise_map]
      refine ordered_entryReport.imp fun hLt => ?_
      simpa [Site.rank, List.cons_lt_cons_iff] using hLt
    · refine (Sited.pairwise_zipIdx d.steps).imp
        fun hLt entry hEntry later hLater => ?_
      rcases List.mem_map.mp hEntry with ⟨_, -, rfl⟩
      rcases List.mem_map.mp hLater with ⟨_, -, rfl⟩
      simp [Site.rank, List.cons_lt_cons_iff, hLt]
  · rintro ⟨site, problem⟩ hMem
    rcases mem_stepsReport_iff.mp hMem with
      ⟨index, stepId, s, rule, -, -, rfl⟩
    exact ⟨2, index :: rule.rank, rfl, Nat.le_refl 2⟩

/- A trigger whose type is not registered. -/
def unknown?
    (e : Engine)
    (slug : String) : Option Problem :=
  if (e.triggerTypes.lookup slug).isNone then
    some (.triggerUnknown slug)
  else
    none

theorem unknown?_eq_some_iff {slug : String} :
    e.unknown? slug = some problem ↔
      e.triggerTypes.lookup slug = none ∧
        .triggerUnknown slug = problem := by
  simp [unknown?]

theorem head?_initialProblems :
    (initialProblems d).head? = some problem ↔
      d.initialStep ∉ d.stepIds ∧
        .initialUndefined d.initialStep = problem := by
  unfold initialProblems Workflow.problemIf
  rw [← WorkflowDefinition.hasStep_iff]
  cases d.hasStep d.initialStep <;> simp

/- The problems of a definition, with their sites. -/
def reportOf
    (e : Engine)
    (d : WorkflowDefinition) : List (Site × Problem) :=
  Sited.found .trigger e.unknown? d.triggers ++
  (Sited.foundAt .initial (initialProblems d).head? ++
  e.stepsReport d)

/- The report on a definition tells its problems. -/
theorem problems_eq
    (hTypes :
      ∀ slug, e.stepTypes.lookup slug ≠ some .stale) :
    e.problems d = .ok ((e.reportOf d).map Prod.snd) := by
  have hInitial :
      (initialProblems d).head?.toList =
        initialProblems d := by
    unfold initialProblems Workflow.problemIf
    split <;> rfl
  rw [problems, problemsOfSteps_eq hTypes, reportOf,
    List.map_append, List.map_append, Sited.map_snd_found,
    Sited.map_snd_foundAt, hInitial, ← List.append_assoc]
  refine congrArg (Except.ok <| · ++ _ ++ _) ?_
  exact (Workflow.filterMap_ite _ _ _).symm

/- What is told on a definition is its report. -/
theorem isReport_reportOf : e.IsReport d (e.reportOf d) := by
  constructor
  · intro site problem
    simp only [reportOf, List.mem_append, Sited.mem_found,
      Sited.mem_foundAt, mem_stepsReport_iff,
      unknown?_eq_some_iff, head?_initialProblems]
    constructor
    · rintro (⟨index, slug, hListed, ⟨hUnknown, rfl⟩, rfl⟩ |
        ⟨⟨hUndefined, rfl⟩, rfl⟩ |
        ⟨index, stepId, s, rule, hStep, hViolates, rfl⟩)
      · exact .trigger hListed hUnknown
      · exact .initial hUndefined
      · exact .step hStep hViolates
    · intro hViolates
      cases hViolates with
      | trigger hListed hUnknown =>
          exact .inl
            ⟨_, _, hListed, ⟨hUnknown, rfl⟩, rfl⟩
      | initial hUndefined =>
          exact .inr (.inl ⟨⟨hUndefined, rfl⟩, rfl⟩)
      | step hStep hViolates =>
          exact .inr (.inr
            ⟨_, _, _, _, hStep, hViolates, rfl⟩)
  · refine (Sited.IsFrom.found (n := 0)
      (isFrom_stepsReport.foundAt ⟨[], rfl⟩ _)
      (fun _ => rfl) (fun i j hLt => ?_) _ _).ordered
    exact Sited.singleton_lt hLt

/- A definition has one report only. -/
theorem isReport_unique
    {entries others : List (Site × Problem)}
    (hReport : e.IsReport d entries)
    (hOther : e.IsReport d others) :
    others = entries := by
  refine Sited.eq_of_mem_iff hOther.ordered hReport.ordered
    fun site problem => ?_
  rw [hOther.violations, hReport.violations]

/- The rule of a site of the step at an index. -/
def ruleAt? (index : Nat) : Site → Option Rule
| .step other rule =>
    if other = index then some rule else none
| _ => none

theorem ruleAt?_eq_some_iff {index : Nat} :
    ruleAt? index site = some rule ↔
      site = .step index rule := by
  cases site <;> simp [ruleAt?]

/- What a report tells of the step at an index. -/
def ofStep
    (index : Nat)
    (entries : List (Site × Problem)) :
    List (Rule × Problem) :=
  entries.filterMap fun (site, problem) =>
    (ruleAt? index site).map fun rule => (rule, problem)

theorem mem_ofStep
    {index : Nat}
    {entries : List (Site × Problem)} :
    (rule, problem) ∈ ofStep index entries ↔
      (.step index rule, problem) ∈ entries := by
  simp [ofStep, ruleAt?_eq_some_iff]

/- What a report tells of a step is in order. -/
theorem IsReport.ordered_ofStep
    {entries : List (Site × Problem)}
    (hReport : e.IsReport d entries)
    (index : Nat) :
    (ofStep index entries).Pairwise fun entry later =>
      entry.1.rank < later.1.rank := by
  refine hReport.ordered.filterMap _ ?_
  intro (site, problem) (site', problem') hLt a hFirst b
    hSecond
  rcases Option.map_eq_some_iff.mp hFirst with
    ⟨rule, hRule, rfl⟩
  rcases Option.map_eq_some_iff.mp hSecond with
    ⟨rule', hRule', rfl⟩
  rw [ruleAt?_eq_some_iff] at hRule hRule'
  subst hRule hRule'
  simpa [Site.rank, List.cons_lt_cons_iff] using hLt

/- What a report tells of a step violates its rules. -/
theorem IsReport.mem_ofStep_iff
    {entries : List (Site × Problem)}
    (hReport : e.IsReport d entries)
    {index : Nat}
    (hStep : d.steps[index]? = some (stepId, s)) :
    (rule, problem) ∈ ofStep index entries ↔
      Workflow.StepViolates stepId s (e.stepType? s.slug)
        d.stepIds d.triggers rule problem := by
  rw [mem_ofStep, hReport.violations]
  constructor
  · intro hViolates
    cases hViolates with
    | step hStep' hViolates =>
        rw [hStep] at hStep'
        cases hStep'
        exact hViolates
  · exact .step hStep

/-
  What a report tells of a step depends on the step, on its
  type, on which steps are defined, and on the triggers.
-/
theorem ofStep_eq
    {e' : Engine}
    {d' : WorkflowDefinition}
    {entries entries' : List (Site × Problem)}
    (hReport : e.IsReport d entries)
    (hReport' : e'.IsReport d' entries')
    {index index' : Nat}
    (hStep : d.steps[index]? = some (stepId, s))
    (hStep' : d'.steps[index']? = some (stepId, s))
    (hType : e.stepType? s.slug = e'.stepType? s.slug)
    (hDefined : ∀ id, id ∈ d.stepIds ↔ id ∈ d'.stepIds)
    (hTriggers : d.triggers = d'.triggers) :
    ofStep index entries = ofStep index' entries' := by
  refine Sited.eq_of_mem_iff (hReport.ordered_ofStep index)
    (hReport'.ordered_ofStep index') fun rule problem => ?_
  rw [hReport.mem_ofStep_iff hStep,
    hReport'.mem_ofStep_iff hStep', hType, hTriggers]
  exact ⟨.of_defined hDefined,
    .of_defined fun id => (hDefined id).symm⟩

variable {log : List Registered}

/-
  Of the definitions that an engine reads, exactly those are
  built that violate nothing.  All others are refused with
  their report, in which every violation is told once, in
  order and in the words for it, and what it tells of a step
  depends on that step and on what it refers to.
-/
theorem build_reports_violations
    [Surroundings]
    (hFollows : e.Follows log)
    (d : WorkflowDefinition) :
    ∃ entries texts,
      e.IsReport d entries ∧
      (∀ others, e.IsReport d others → others = entries) ∧
      List.Forall₂ (fun entry text => entry.2.Says text)
        entries texts ∧
      ((∀ site problem, ¬ e.Violates d site problem) →
        build d e = (.ok (e.workflowOf d), e)) ∧
      (∀ site problem,
        e.Violates d site problem →
          ∃ ns,
            build d e =
              (.error (.workflowInvalid d.id texts),
                hear ns e)) ∧
      (∀ v,
        WorkflowDefinition.ofValue v = .ok d →
          buildValue v e = build d e) ∧
      ∀ (e' : Engine) (d' : WorkflowDefinition)
          (entries' : List (Site × Problem))
          (index index' : Nat)
          (stepId : String) (s : StepDefinition),
        e'.IsReport d' entries' →
        d.steps[index]? = some (stepId, s) →
        d'.steps[index']? = some (stepId, s) →
        e.stepType? s.slug = e'.stepType? s.slug →
        (∀ id, id ∈ d.stepIds ↔ id ∈ d'.stepIds) →
        d.triggers = d'.triggers →
          ofStep index entries = ofStep index' entries' := by
  have hProblems := problems_eq (d := d) hFollows.not_stale
  have hReport := isReport_reportOf (e := e) (d := d)
  refine ⟨e.reportOf d,
    (e.reportOf d).map fun entry => entry.2.text, hReport,
    fun others => isReport_unique hReport, ?_, ?_, ?_, ?_, ?_⟩
  · rw [List.forall₂_map_right_iff, List.forall₂_same]
    exact fun entry _ => entry.2.says_text
  · intro hNone
    have hEmpty : e.reportOf d = [] := by
      rw [List.eq_nil_iff_forall_not_mem]
      exact fun (site, problem) hMem => hNone site problem
        ((hReport.violations site problem).mp hMem)
    rw [hEmpty] at hProblems
    exact build_of_admits (problems_eq_nil_iff.mp hProblems)
  · intro site problem hViolates
    have hSome : (e.reportOf d).map Prod.snd ≠ [] := by
      rw [Ne, List.map_eq_nil_iff]
      exact List.ne_nil_of_mem
        ((hReport.violations site problem).mpr hViolates)
    refine ⟨[rejectionNotice d ((e.reportOf d).map Prod.snd)],
      ?_⟩
    rw [build_of_problems hProblems hSome, rejection,
      List.map_map]
    rfl
  · intro v hValue
    exact Act.ofExcept_bind_of_ok hValue _ e
  · intro e' d' entries' index index' stepId s hReport'
      hStep hStep' hType hDefined hTriggers
    exact ofStep_eq hReport hReport' hStep hStep' hType
      hDefined hTriggers

/- Calls that register one trigger, condition and action. -/
def offering : List Registration := [
  .trigger (.item (.trigger Builtin.contactCreated)),
  .step (.item (.step Builtin.contactField)),
  .step (.item (.step Builtin.addContactLog))
]

/- A definition that breaks a rule at sites of every kind. -/
def tangled : WorkflowDefinition :=
  { id := "tangled"
    name := "Tangled"
    triggers :=
      ["crm/lost", "crm/contact_created", "crm/lost"]
    initialStep := "start"
    steps := [
      ("ask",
        { slug := "crm/condition/contact_field"
          attributes := [
            ("field", .str "vip"),
            ("operator", .int 1)
          ]
          nextStep := some "note"
          nextStepTrue := some "end"
          nextStepFalse := some "end" }),
      ("find", { slug := "crm/missing" }),
      ("note",
        { slug := "crm/add_contact_log"
          nextStep := some "end"
          nextStepTrue := some "ask" })
    ] }

/- Its fourteen violations, and where they are. -/
def tangles : List (Site × Problem) := [
  (.trigger 0, .triggerUnknown "crm/lost"),
  (.trigger 2, .triggerUnknown "crm/lost"),
  (.initial, .initialUndefined "start"),
  (.step 0 .stray, .successorOfCondition "ask"),
  (.step 0 .operator, .operatorInvalid "ask" (.int 1)),
  (.step 0 (.successor 0), .successorUndefined "ask" "end"),
  (.step 0 (.successor 1), .successorUndefined "ask" "end"),
  (.step 0 (.required 2), .attributeMissing "ask" "value"),
  (.step 0 (.trigger 0),
    .triggerRefused "ask" "crm/condition/contact_field"
      "crm/lost"),
  (.step 0 (.trigger 2),
    .triggerRefused "ask" "crm/condition/contact_field"
      "crm/lost"),
  (.step 1 .type, .typeUnknown "find" "crm/missing"),
  (.step 2 .stray, .branchesOfAction "note"),
  (.step 2 (.successor 0),
    .successorUndefined "note" "end"),
  (.step 2 (.required 0), .attributeMissing "note" "type")
]

/- What is said of them. -/
def tidings : List String := [
  "unknown trigger 'crm/lost'",
  "unknown trigger 'crm/lost'",
  "initial step 'start' is not defined",
  "condition 'ask' must use next_step_true/next_step_false",
  "condition 'ask' uses invalid operator 1",
  "step 'ask' points to undefined step 'end'",
  "step 'ask' points to undefined step 'end'",
  "step 'ask' is missing required attribute 'value'",
  "step 'ask' (crm/condition/contact_field) " ++
    "does not allow trigger 'crm/lost'",
  "step 'ask' (crm/condition/contact_field) " ++
    "does not allow trigger 'crm/lost'",
  "step 'find' uses unknown step type 'crm/missing'",
  "action 'note' cannot use conditional successors",
  "step 'note' points to undefined step 'end'",
  "step 'note' is missing required attribute 'type'"
]

open scoped Bare in
/- Every one of them is told, and this is all that is told. -/
theorem build_reports_violations_tangled :
    let e := (registerAll offering { limit := 5 }).2
    ∃ log ns,
      e.Follows log ∧
        e.IsReport tangled tangles ∧
        build tangled e =
          (.error (.workflowInvalid "tangled" tidings),
            hear ns e) := by
  intro e
  have hNew : make 5 false .none = .ok { limit := 5 } := rfl
  rcases exists_follows hNew offering with ⟨log, hFollows⟩
  rcases build_reports_violations hFollows tangled with
    ⟨entries, texts, hReport, hOnly, hSays, -, hRefused, -⟩
  have hTangles : tangles = entries :=
    (by rfl : tangles = e.reportOf tangled).trans
      (hOnly _ isReport_reportOf)
  have hTidings :
      tangles.map (fun entry => entry.2.text) = tidings := by
    decide +kernel
  have hTexts : texts = tidings := by
    rw [← hTidings, hTangles, ← List.forall₂_eq_eq_eq,
      List.forall₂_map_right_iff]
    exact (hSays.imp fun entry text hText => hText.eq_text).flip
  have hViolates :
      e.Violates tangled .initial
        (.initialUndefined "start") :=
    .initial (by decide +kernel)
  rcases hRefused _ _ hViolates with ⟨ns, hBuilt⟩
  rw [← hTangles] at hReport
  rw [hTexts] at hBuilt
  exact ⟨log, ns, hFollows, hReport, hBuilt⟩

end Engine

end EventFlow
