import EventFlow.Definition.Store
import EventFlow.Proofs.Acts
import EventFlow.Proofs.FileAccess
import EventFlow.Proofs.JsonRoundTrip
import EventFlow.Proofs.LineEnds

/-
  Definitions survive being stored.

  A definition is stored without the successors that its
  steps do not have, and the check of a stored definition
  puts them back.  Its attributes are stored as they are, so
  a file of definitions is read as the definitions that were
  written to it.

  Key definitions include:
    * `WorkflowDefinition.IsKeepable`

  Key theorems include:
    * `Value.stored_of_isPortable`
    * `StepDefinition.check_stored`
    * `WorkflowDefinition.ofValue_stored`
    * `DefinitionStore.parse_render`
    * `DefinitionStore.load_of_write`
    * `DefinitionStore.save_then_load`
-/

------------------------------------------------------------
-- Stored Values
------------------------------------------------------------

namespace EventFlow

namespace Value

mutual

/- A portable value is stored as it is. -/
theorem stored_of_isPortable :
    (v : Value) → v.IsPortable → v.stored = v
| .null, _ => rfl
| .bool _, _ => rfl
| .int _, _ => rfl
| .float (.finite _ _ _), _ => rfl
| .str _, _ => rfl
| .list vs, hItems => by
    rw [stored, storedItems_of_arePortable vs hItems]
| .object fs, ⟨_, hFields⟩ => by
    rw [stored, storedFields_of_arePortable fs hFields]

theorem storedItems_of_arePortable :
    (vs : List Value) → ArePortable vs → storedItems vs = vs
| [], _ => rfl
| v :: vs, ⟨hFirst, hMore⟩ => by
    rw [storedItems, stored_of_isPortable v hFirst,
      storedItems_of_arePortable vs hMore]

theorem storedFields_of_arePortable :
    (fs : List (String × Value)) →
      FieldsArePortable fs → storedFields fs = fs
| [], _ => rfl
| (_, v) :: fs, ⟨hFirst, hMore⟩ => by
    rw [storedFields, stored_of_isPortable v hFirst,
      storedFields_of_arePortable fs hMore]

end

theorem arePortable_iff {vs : List Value} :
    ArePortable vs ↔ ∀ v ∈ vs, v.IsPortable := by
  induction vs with
  | nil => simp [ArePortable]
  | cons v vs ih => simp [ArePortable, ih]

theorem fieldsArePortable_iff
    {fs : List (String × Value)} :
    FieldsArePortable fs ↔
      ∀ field ∈ fs, field.2.IsPortable := by
  induction fs with
  | nil => simp [FieldsArePortable]
  | cons field fs ih => simp [FieldsArePortable, ih]

/- Items are as deep as the deepest of them. -/
theorem depthOfItems_le
    {vs : List Value}
    {n : Nat}
    (hItems : ∀ v ∈ vs, v.depth ≤ n) :
    depthOfItems vs ≤ n := by
  induction vs with
  | nil => exact Nat.zero_le n
  | cons v vs ih =>
      rw [depthOfItems, max_le_iff]
      exact ⟨hItems v List.mem_cons_self,
        ih fun w hMem => hItems w (.tail _ hMem)⟩

theorem depthOfFields_le
    {fs : List (String × Value)}
    {n : Nat}
    (hFields : ∀ field ∈ fs, field.2.depth ≤ n) :
    depthOfFields fs ≤ n := by
  induction fs with
  | nil => exact Nat.zero_le n
  | cons field fs ih =>
      rw [depthOfFields, max_le_iff]
      exact ⟨hFields field List.mem_cons_self,
        ih fun other hMem => hFields other (.tail _ hMem)⟩

end Value

end EventFlow

------------------------------------------------------------
-- Stored Steps
------------------------------------------------------------

namespace EventFlow

namespace StepDefinition

/- Whether the attributes of a step can be stored. -/
def IsKeepable (s : StepDefinition) : Prop :=
  (Value.object s.attributes).IsPortable

variable {s : StepDefinition}

/- A stored step passes the check as the step that it was. -/
theorem check_stored (hKeepable : s.IsKeepable) :
    check s.stored = .ok s := by
  have hAttributes :=
    Value.stored_of_isPortable _ hKeepable
  rcases s with
    ⟨slug, attributes, next?, onTrue?, onFalse?⟩
  rw [stored, hAttributes]
  cases next?
  all_goals cases onTrue?
  all_goals cases onFalse?
  all_goals rfl

end StepDefinition

namespace Schema

/- Fields that pass a check one by one pass it together. -/
theorem eachField_map
    {α : Type}
    (check : Value → Checked α)
    (write : α → Value)
    {fs : List (String × α)}
    (hFields :
      ∀ field ∈ fs, check (write field.2) = .ok field.2) :
    eachField check
        (fs.map fun (key, x) => (key, write x)) =
      .ok fs := by
  induction fs with
  | nil => rfl
  | cons field fs ih =>
      rw [List.map_cons, eachField,
        hFields field List.mem_cons_self,
        ih fun other hMem => hFields other (.tail _ hMem)]
      rfl

/- The same for the items of a list. -/
theorem eachFrom_map
    {α : Type}
    (check : Value → Checked α)
    (write : α → Value)
    (index : Nat)
    {xs : List α}
    (hItems : ∀ x ∈ xs, check (write x) = .ok x) :
    eachFrom check index (xs.map write) = .ok xs := by
  induction xs generalizing index with
  | nil => rfl
  | cons x xs ih =>
      rw [List.map_cons, eachFrom,
        hItems x List.mem_cons_self,
        ih (index + 1) fun y hMem => hItems y (.tail _ hMem)]
      rfl

end Schema

namespace WorkflowDefinition

/-
  Whether a definition can be stored: it has a trigger, no
  two of its steps have one id, and the attributes of its
  steps are portable.
-/
structure IsKeepable (d : WorkflowDefinition) : Prop where
  triggers : d.triggers ≠ []
  ids : (d.steps.map Prod.fst).Nodup
  steps : ∀ step ∈ d.steps, step.2.IsKeepable

/- The steps of a definition as they are stored. -/
def storedSteps
    (d : WorkflowDefinition) : List (String × Value) :=
  d.steps.map fun (id, s) => (id, s.stored)

variable {d : WorkflowDefinition}

/- Fields that pass the check are read as what they show. -/
theorem ofFields_of_check
    {fields : List (String × Value)}
    (hCheck : check fields = .ok d) :
    ofFields fields = .ok d := by
  rw [ofFields, hCheck]

/- A stored definition is read as the one that it was. -/
theorem ofValue_stored (hKeepable : d.IsKeepable) :
    ofValue d.stored = .ok d := by
  have hSteps :
      Schema.eachField StepDefinition.check d.storedSteps =
        .ok d.steps :=
    Schema.eachField_map StepDefinition.check
      StepDefinition.stored fun step hMem =>
        StepDefinition.check_stored
          (hKeepable.steps step hMem)
  have hTriggers :
      Schema.someOf Schema.text
          (.list (d.triggers.map .str)) =
        .ok d.triggers := by
    have hAll :
        Schema.eachFrom Schema.text 0 (d.triggers.map .str) =
          .ok d.triggers :=
      Schema.eachFrom_map Schema.text .str 0 fun _ _ => rfl
    cases hList : d.triggers with
    | nil => exact absurd hList hKeepable.triggers
    | cons trigger triggers =>
        rw [hList] at hAll
        exact hAll
  have hCheck :
      check
          [ ("id", .str d.id),
            ("name", .str d.name),
            ("description", .str d.description),
            ("active", .bool d.active),
            ("triggers", .list (d.triggers.map .str)),
            ("initial_step", .str d.initialStep),
            ("steps", .object d.storedSteps) ] =
        .ok d := by
    let checked {α : Type} (x : α) : Schema.Checked α := .ok x
    change
      ((checked d.id).and <|
        (checked d.name).and <|
        (checked d.description).and <|
        (checked d.active).and <|
        ((Schema.someOf Schema.text
          (.list (d.triggers.map .str))).inside
            (.field "triggers")).and <|
        (checked d.initialStep).and <|
        ((Schema.eachField StepDefinition.check
          d.storedSteps).inside (.field "steps")).and <|
        checked ()).map _ = _
    rw [hSteps, hTriggers]
    rfl
  exact ofFields_of_check hCheck

end WorkflowDefinition

end EventFlow

------------------------------------------------------------
-- Stored Definitions Can Be Written
------------------------------------------------------------

namespace EventFlow

namespace StepDefinition

variable {s : StepDefinition}

/- The fields of a stored step are its attributes and texts. -/
theorem exists_fields_stored (hKeepable : s.IsKeepable) :
    ∃ fields,
      s.stored = .object fields ∧
        (fields.map Prod.fst).Nodup ∧
        ∀ field ∈ fields,
          field.2 = .object s.attributes ∨
            ∃ text, field.2 = .str text := by
  have hAttributes :=
    Value.stored_of_isPortable _ hKeepable
  rcases s with
    ⟨slug, attributes, next?, onTrue?, onFalse?⟩
  refine ⟨_, rfl, ?_, ?_⟩
  · cases next?
    all_goals cases onTrue?
    all_goals cases onFalse?
    all_goals simp
  · rw [hAttributes]
    refine List.forall_mem_cons.mpr ⟨.inr ⟨slug, rfl⟩, ?_⟩
    refine List.forall_mem_cons.mpr ⟨.inl rfl, ?_⟩
    intro field hMem
    rcases List.mem_filterMap.mp hMem with
      ⟨successor, -, hField⟩
    rcases Option.map_eq_some_iff.mp hField with
      ⟨id, -, rfl⟩
    exact .inr ⟨id, rfl⟩

theorem isPortable_stored (hKeepable : s.IsKeepable) :
    s.stored.IsPortable := by
  rcases exists_fields_stored hKeepable with
    ⟨fields, hFields, hNodup, hKinds⟩
  rw [hFields]
  refine ⟨hNodup, Value.fieldsArePortable_iff.mpr ?_⟩
  intro field hMem
  rcases hKinds field hMem with hValue | ⟨text, hValue⟩
  · rw [hValue]
    exact hKeepable
  · rw [hValue]
    trivial

theorem depth_stored
    (hKeepable : s.IsKeepable)
    {n : Nat}
    (hDepth : ∀ field ∈ s.attributes, field.2.depth ≤ n) :
    s.stored.depth ≤ n + 2 := by
  have hAttributes := Value.depthOfFields_le hDepth
  rcases exists_fields_stored hKeepable with
    ⟨fields, hFields, -, hKinds⟩
  rw [hFields, Value.depth]
  refine Nat.succ_le_succ (Value.depthOfFields_le ?_)
  intro field hMem
  rcases hKinds field hMem with hValue | ⟨text, hValue⟩
  · rw [hValue, Value.depth]
    omega
  · rw [hValue]
    exact Nat.le_add_left 1 n

end StepDefinition

namespace WorkflowDefinition

variable {d : WorkflowDefinition}

theorem isPortable_stored (hKeepable : d.IsKeepable) :
    d.stored.IsPortable := by
  have hTriggers :
      Value.ArePortable (d.triggers.map .str) := by
    rw [Value.arePortable_iff]
    intro v hMem
    rcases List.mem_map.mp hMem with ⟨trigger, -, rfl⟩
    trivial
  have hSteps :
      Value.IsPortable (.object d.storedSteps) := by
    refine ⟨?_, Value.fieldsArePortable_iff.mpr ?_⟩
    · rw [storedSteps, List.map_map]
      exact hKeepable.ids
    · intro field hMem
      rcases List.mem_map.mp hMem with ⟨step, hStep, rfl⟩
      exact StepDefinition.isPortable_stored
        (hKeepable.steps step hStep)
  refine ⟨?_, ?_⟩
  · change fieldNames.Nodup
    decide
  · exact ⟨trivial, trivial, trivial, trivial, hTriggers,
      trivial, hSteps, trivial⟩

theorem depth_stored
    (hKeepable : d.IsKeepable)
    (hStorable : d.isStorable = true) :
    d.stored.depth ≤ maxDepth + 4 := by
  have hSteps :
      Value.depthOfFields d.storedSteps ≤ maxDepth + 2 := by
    refine Value.depthOfFields_le fun field hMem => ?_
    rcases List.mem_map.mp hMem with ⟨step, hStep, rfl⟩
    refine StepDefinition.depth_stored
      (hKeepable.steps step hStep) fun field hField => ?_
    have hShallow :=
      List.all_eq_true.mp hStorable step hStep
    exact of_decide_eq_true
      (List.all_eq_true.mp hShallow field hField)
  have hTriggers :
      Value.depthOfItems (d.triggers.map .str) ≤ 1 := by
    refine Value.depthOfItems_le fun v hMem => ?_
    rcases List.mem_map.mp hMem with ⟨trigger, -, rfl⟩
    exact le_rfl
  rw [stored, Value.depth, ← storedSteps]
  refine Nat.succ_le_succ (Value.depthOfFields_le ?_)
  simp only [List.forall_mem_cons, Value.depth]
  exact ⟨by omega, by omega, by omega, by omega, by omega,
    by omega, by omega, List.forall_mem_nil _⟩

end WorkflowDefinition

end EventFlow

------------------------------------------------------------
-- Stored Files
------------------------------------------------------------

namespace EventFlow

namespace DefinitionStore

variable {ds : List WorkflowDefinition}

/- How deep a file of definitions can be. -/
def depthOfFile : Nat :=
  WorkflowDefinition.maxDepth + 5

theorem isPortable_entries
    (hKeepable : ∀ d ∈ ds, d.IsKeepable) :
    Value.IsPortable
      (.list (ds.map WorkflowDefinition.stored)) := by
  refine Value.arePortable_iff.mpr fun v hMem => ?_
  rcases List.mem_map.mp hMem with ⟨d, hDefinition, rfl⟩
  exact WorkflowDefinition.isPortable_stored
    (hKeepable d hDefinition)

/- The text of a file of definitions is read as its entries. -/
theorem parse_render
    (hKeepable : ∀ d ∈ ds, d.IsKeepable)
    (hStorable : ∀ d ∈ ds, d.isStorable = true)
    {depth : Nat}
    (hNesting : depthOfFile ≤ depth) :
    Json.parse depth (render ds) =
      .ok (.list (ds.map WorkflowDefinition.stored)) := by
  have hPortable := isPortable_entries hKeepable
  have hDepth :
      (Value.list
        (ds.map WorkflowDefinition.stored)).depth ≤
          depth := by
    refine (Nat.succ_le_succ
      (Value.depthOfItems_le ?_)).trans hNesting
    intro v hMem
    rcases List.mem_map.mp hMem with ⟨d, hDefinition, rfl⟩
    exact WorkflowDefinition.depth_stored
      (hKeepable d hDefinition) (hStorable d hDefinition)
  have hGap : Json.AreGaps ['\n'] :=
    List.forall_mem_singleton.mpr rfl
  have hText :
      render ds =
        String.ofList
          (Json.renderChars Json.overLines 0
            (.list (ds.map WorkflowDefinition.stored)) ++
              ['\n']) := by
    rw [String.ofList_append]
    rfl
  rw [hText]
  exact Json.parse_render Json.isSpaced_overLines hPortable
    hDepth hGap

/- Stored entries are read as the definitions they were. -/
theorem readAll_stored
    (hKeepable : ∀ d ∈ ds, d.IsKeepable) :
    readAll (ds.map WorkflowDefinition.stored) = .ok ds := by
  induction ds with
  | nil => rfl
  | cons d ds ih =>
      rw [List.map_cons, readAll,
        WorkflowDefinition.ofValue_stored
          (hKeepable d List.mem_cons_self)]
      dsimp only
      rw [ih fun other hMem => hKeepable other (.tail _ hMem)]
      rfl

variable {files after : Files}
variable {path : Path}

section

variable [Surroundings]

/- Definitions that were written to a file are its entries. -/
theorem entries_of_write
    (hNesting : depthOfFile ≤ Surroundings.nesting)
    (hKeepable : ∀ d ∈ ds, d.IsKeepable)
    (hStorable : ∀ d ∈ ds, d.isStorable = true)
    (hWritten :
      files.write path (Utf8.encode (render ds)) =
        .ok after) :
    entries after path =
      .ok (.of (ds.map WorkflowDefinition.stored)) := by
  have hParse :=
    Json.parse_unifyLines
      (parse_render hKeepable hStorable hNesting)
  rw [entries, Files.text?_of_write hWritten]
  dsimp only
  rw [entriesOfText, hParse]

/- Definitions that were written to a file are loaded. -/
theorem load_of_write
    (hNesting : depthOfFile ≤ Surroundings.nesting)
    (hKeepable : ∀ d ∈ ds, d.IsKeepable)
    (hStorable : ∀ d ∈ ds, d.isStorable = true)
    (hWritten :
      files.write path (Utf8.encode (render ds)) =
        .ok after) :
    load after path = .ok ds := by
  rw [load, entries_of_write hNesting hKeepable hStorable
    hWritten]
  exact readAll_stored hKeepable

/-
  Where a file can be written, and JSON may nest as deep as a
  file of definitions can, saving definitions succeeds, and
  afterwards the file is loaded as the same definitions in
  the same order, among which an id finds the first that has
  it.
-/
theorem save_then_load
    (hNesting : depthOfFile ≤ Surroundings.nesting)
    (hKeepable : ∀ d ∈ ds, d.IsKeepable)
    (hStorable : ∀ d ∈ ds, d.isStorable = true)
    (hPath : files.CanWrite path) :
    ∃ after,
      save path ds files = (.ok (), after) ∧
        load after path = .ok ds ∧
        ∀ id,
          find? after path id =
            .ok (ds.find? (·.id == id)) := by
  rcases hPath with ⟨prepared, place, hMade, hPlace, hFile⟩
  have hWritten :=
    Files.write_of_place hPlace hFile
      (Utf8.encode (render ds))
  have hLoaded :=
    load_of_write hNesting hKeepable hStorable hWritten
  have hAll : ds.all WorkflowDefinition.isStorable = true :=
    List.all_eq_true.mpr hStorable
  have hFirst :
      Act.ofFaults Failure.unusable
          (Files.ensureDirectory path.parent) files =
        (.ok (), prepared) := by
    rw [Act.ofFaults, hMade]
    rfl
  refine ⟨_, ?_, hLoaded, ?_⟩
  · rw [save, Act.bind_of_ok hFirst, hAll]
    rw [if_neg (by decide)]
    dsimp only
    rw [Act.ofFaults, hWritten]
    rfl
  · intro id
    rw [find?, hLoaded]
    rfl

end

/-
  A step with attributes of every kind, among them an empty
  one, a text with escapes and an object in a list.
-/
def mixedStep : StepDefinition :=
  { slug := "crm/add_contact_log"
    attributes := [
      ("type", .str "a \"note\"\n\\"),
      ("empty", .null),
      ("count", .int (-12)),
      ("ratio", .float (.finite false 7205759403792794 (-56))),
      ("nested", .list [.bool true, .object [("k", .list [])]])
    ]
    nextStepTrue := some "second" }

/- Two definitions under one id. -/
def twins : List WorkflowDefinition := [
  { id := "w"
    name := "First"
    triggers := ["crm/contact_created"]
    initialStep := "first"
    steps := [("first", mixedStep)] },
  { id := "w"
    name := "Second"
    active := false
    triggers := ["a", "b"]
    initialStep := "" }
]

open scoped Bare in
/- A file in a directory that is not there yet. -/
theorem save_then_load_twins :
    ∃ after,
      save ⟨"", ["data", "w.json"]⟩ twins [] =
          (.ok (), after) ∧
        load after ⟨"", ["data", "w.json"]⟩ = .ok twins ∧
        ∀ id,
          find? after ⟨"", ["data", "w.json"]⟩ id =
            .ok (twins.find? (·.id == id)) := by
  have hCount : Json.IsShort (-12) := by
    unfold Json.IsShort
    decide
  have hRatio :
      Double.IsKept 7205759403792794 (-56) :=
    ⟨by decide, by decide, by decide, .inl (by decide)⟩
  have hInner :
      (Value.list
        [.bool true, .object [("k", .list [])]]).IsPortable :=
    ⟨trivial, ⟨by decide, trivial, trivial⟩, trivial⟩
  have hStep : mixedStep.IsKeepable :=
    ⟨by decide, trivial, trivial, hCount, hRatio, hInner,
      trivial⟩
  have hFirst : twins[0].IsKeepable :=
    { triggers := List.cons_ne_nil _ _
      ids := by decide
      steps := List.forall_mem_singleton.mpr hStep }
  have hSecond : twins[1].IsKeepable :=
    { triggers := List.cons_ne_nil _ _
      ids := by decide
      steps := List.forall_mem_nil _ }
  have hKeepable : ∀ d ∈ twins, d.IsKeepable :=
    List.forall_mem_cons.mpr
      ⟨hFirst, List.forall_mem_singleton.mpr hSecond⟩
  have hPath :
      Files.CanWrite [] ⟨"", ["data", "w.json"]⟩ := by
    refine ⟨[(["data"], .directory)], ["data", "w.json"],
      ?_, ?_, ?_⟩
    · decide +kernel
    · decide +kernel
    · decide +kernel
  exact save_then_load (by decide) hKeepable (by decide)
    hPath

end DefinitionStore

end EventFlow
