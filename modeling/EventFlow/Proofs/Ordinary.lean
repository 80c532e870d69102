import EventFlow.Proofs.BoundTriggers
import EventFlow.Proofs.Refinement
import EventFlow.Proofs.StoreIndependence
import EventFlow.Proofs.Verdicts

/-
  Ordinary engines and orderly sessions.

  An ordinary engine has the built-in types of steps, a tidy
  contact store, and triggers that hear no blank event.  A
  command is orderly when it leaves these to an engine: it
  may change what contacts hold, but not how they are
  reached, and neither the limit nor the types of steps.  So
  whatever a session with orderly commands does, its engine
  stays ordinary.

  Key definitions include:
    * `Engine.IsOrdinary`
    * `Engine.Policy.orderly`
    * `Command.IsOrderly`
    * `Session.IsOrderly`
    * `Session.Attains`

  Key theorems include:
    * `Engine.isOrdinary_of_use`
    * `Command.isPermitted_orderly_iff`
    * `Session.proceeds_of_attains`
    * `Session.isOrderly_of_attains`
    * `Session.isOrderly_of_start`
-/

------------------------------------------------------------
-- Ordinary Engines
------------------------------------------------------------

namespace EventFlow

namespace Engine

variable [Surroundings]

/- Whether an engine with a limit is ordinary. -/
structure IsOrdinary
    (limit : Int)
    (e : Engine) : Prop where
  limit : e.limit = limit
  access : e.access.IsTidy
  steps :
    ∀ slug,
      e.stepTypes.lookup slug = stocked.stepTypes.lookup slug
  registered :
    ∀ slug type,
      e.triggerTypes.lookup slug = some type →
        type.IsAudible
  built : ∀ w ∈ e.built, w.IsAudible

variable {limit : Int}
variable {e e' : Engine}

/- Other contents of the store, if they are tidy. -/
theorem IsOrdinary.accessed
    (hOrdinary : e.IsOrdinary limit)
    {access : DataAccess}
    (hTidy : access.IsTidy) :
    { e with access := access }.IsOrdinary limit :=
  { hOrdinary with access := hTidy }

/- An ordinary engine has no types that bring bodies along. -/
theorem IsOrdinary.hasOwnSteps
    (hOrdinary : e.IsOrdinary limit) :
    e.HasOwnSteps := by
  intro slug entry hEntry
  rw [hOrdinary.steps] at hEntry
  exact hasOwnSteps_stocked slug entry hEntry

/-
  A step that an ordinary engine is given leaves its store
  tidy: it is one of the library's own, or it is without an
  engine and does not reach the store.
-/
theorem IsOrdinary.isTidy_execute
    (hOrdinary : e.IsOrdinary limit)
    {step : Step}
    (hGives : e.Gives step)
    (payload : Value) :
    (step.execute payload e.access).access.IsTidy := by
  have hTidy := hOrdinary.access
  cases hForeign : step.type.behavior.isForeign with
  | false =>
      exact (Step.execute_matches hForeign hTidy hTidy
        payload).tidy
  | true =>
      rcases hGives with hDetached | ⟨slug, hType⟩
      · rw [Step.execute_of_foreign _ hForeign,
          Step.executeBody, if_pos hDetached]
        exact hTidy
      · rcases hOrdinary.hasOwnSteps slug _ hType with
          ⟨type, hSame, hOwn⟩
        cases hSame
        rw [hOwn] at hForeign
        cases hForeign

end Engine

end EventFlow

------------------------------------------------------------
-- Orderly Registration
------------------------------------------------------------

namespace EventFlow

namespace Engine

variable {limit : Int}
variable {e e' : Engine}

/-
  The policy of orderly use: triggers that can be heard and
  built-in steps are registered, a data access is replaced
  by an empty store of contacts only, and the limit stays.
-/
def Policy.orderly : Policy where
  triggers := TriggerType.IsAudible
  steps := (· ∈ Builtin.steps)
  opens := (· = .contacts {})
  limits := False

/- A built-in type is found under its own slug. -/
theorem lookup_stocked
    [Surroundings]
    {type : StepType}
    {slug : String}
    (hBuiltin : type ∈ Builtin.steps)
    (hSlug : slugOf .step type.slug = .ok slug) :
    stocked.stepTypes.lookup slug = some (.type type) := by
  have hEach :
      ∀ type ∈ Builtin.steps,
        Text.trim type.slug = type.slug ∧
          Builtin.steps.find? (·.slug == type.slug) =
            some type := by
    decide
  rcases hEach type hBuiltin with ⟨hOwn, hFound⟩
  unfold slugOf at hSlug
  rw [hOwn] at hSlug
  dsimp only at hSlug
  split at hSlug
  · cases hSlug
  · cases hSlug
    rw [stepTypes_stocked, lookup_slugs, hFound]
    rfl

/-
  Registering triggers that can be heard, or built-in steps
  once more, leaves an engine ordinary.
-/
theorem IsOrdinary.of_registers
    [Surroundings]
    (hOrdinary : e.IsOrdinary limit)
    {call : Registration}
    {outcome : Except Failure String}
    (hRegisters : Registers e call outcome e')
    (hOrderly : Policy.orderly.PermitsCall call) :
    e'.IsOrdinary limit := by
  cases hRegisters with
  | refused call failure => exact hOrdinary
  | @trigger i type slug hType hSlug hFree =>
      refine { hOrdinary with registered := ?_ }
      intro other registered hOther
      change (Entries.put slug type e.triggerTypes).lookup
        other = some registered at hOther
      by_cases hSame : other = slug
      · subst hSame
        rw [Entries.lookup_put_self] at hOther
        cases hOther
        exact hOrderly type hType
      · rw [Entries.lookup_put_of_ne hSame] at hOther
        exact hOrdinary.registered other registered hOther
  | @step i type slug notices hType hSlug hReplaces =>
      refine { hOrdinary with steps := ?_ }
      intro other
      change (Entries.put slug (.type type)
        e.stepTypes).lookup other = _
      by_cases hSame : other = slug
      · subst hSame
        rw [Entries.lookup_put_self]
        exact (lookup_stocked (hOrderly type hType) hSlug).symm
      · rw [Entries.lookup_put_of_ne hSame]
        exact hOrdinary.steps other

end Engine

end EventFlow

------------------------------------------------------------
-- Orderly Uses
------------------------------------------------------------

namespace EventFlow

/- A workflow hears what it heard before it became another. -/
theorem Workflow.IsAudible.of_becomes
    {w w' : Workflow}
    (hAudible : w.IsAudible)
    (hBecomes : w.Becomes w') :
    w'.IsAudible := by
  intro t hTrigger
  have hType := List.mem_map_of_mem (f := Trigger.type)
    hTrigger
  rw [hBecomes.types] at hType
  rcases List.mem_map.mp hType with ⟨u, hBefore, hSame⟩
  rw [← hSame]
  exact hAudible u hBefore

namespace Engine

variable {limit : Int}
variable {e e' : Engine}

variable [Surroundings]

/- A workflow that is made has triggers that can be heard. -/
theorem IsOrdinary.isAudible_of_makes
    (hOrdinary : e.IsOrdinary limit)
    {w : Workflow}
    (hMakes : e.Makes w) :
    w.IsAudible := by
  rcases hMakes with ⟨d, -, rfl⟩
  intro t hTrigger
  rcases List.mem_map.mp hTrigger with ⟨type, hType, rfl⟩
  rcases List.mem_filterMap.mp hType with ⟨slug, -, hLookup⟩
  exact hOrdinary.registered slug type hLookup

/- An orderly use leaves an ordinary engine ordinary. -/
theorem isOrdinary_of_use
    (hUse : Use .orderly e e')
    (hOrdinary : e.IsOrdinary limit) :
    e'.IsOrdinary limit := by
  have hTidy := hOrdinary.access
  have hBuilt : ∀ w ∈ e'.built, w.IsAudible := by
    intro w' hMem
    rcases makes_or_becomes_of_use hUse hMem with
      hMakes | ⟨w, hBefore, hBecomes⟩
    · exact hOrdinary.isAudible_of_makes hMakes
    · exact (hOrdinary.built w hBefore).of_becomes hBecomes
  cases hUse with
  | told notices => exact { hOrdinary with }
  | silenced => exact { hOrdinary with }
  | registered call hPermitted =>
      exact hOrdinary.of_registers (registers_act call)
        hPermitted
  | placed w hMakes =>
      exact { hOrdinary with built := hBuilt }
  | added place => exact { hOrdinary with }
  | subscribed event number =>
      rcases exists_subscribe_eq e event (.handler number)
        with ⟨bus, ns, hEngine⟩
      rw [hEngine]
      exact { hOrdinary with }
  | unsubscribed s => exact { hOrdinary with }
  | attempted place index w t hWorkflow hActive hTrigger =>
      rcases bindTrigger_attempt e place index t.type with
        ⟨outcome, ns, -, hAttempt⟩
      rw [hAttempt] at hBuilt ⊢
      exact { hOrdinary with built := hBuilt }
  | walked d trigger payload correlationId =>
      have hOwn :=
        hOrdinary.hasOwnSteps.isOwn_walkOf d trigger payload
          correlationId
      exact hOrdinary.accessed
        (Walk.take_matches hOwn hTidy hTidy).tidy
  | executed step payload hGives =>
      exact hOrdinary.accessed
        (hOrdinary.isTidy_execute hGives payload)
  | logged contact log access hLogged =>
      exact hOrdinary.accessed (hTidy.addLog hLogged)
  | tagged contact tags mode access members hTagged =>
      exact hOrdinary.accessed (hTidy.updateTags hTagged)
  | opened access hPermitted =>
      rw [hPermitted]
      exact hOrdinary.accessed ContactStore.isTidy_empty
  | limited limit hPermitted => exact False.elim hPermitted

/- An engine stays ordinary for as long as its use is orderly. -/
theorem isOrdinary_of_used
    (hUsed : Used .orderly e e')
    (hOrdinary : e.IsOrdinary limit) :
    e'.IsOrdinary limit := by
  induction hUsed with
  | refl => exact hOrdinary
  | tail _ hUse ih => exact isOrdinary_of_use hUse ih

end Engine

end EventFlow

------------------------------------------------------------
-- Orderly Commands
------------------------------------------------------------

namespace EventFlow

mutual

variable [Surroundings]

/- Whether a handler brings along orderly commands only. -/
def Handler.IsOrderly : Handler → Prop
| .mk _ commands _ _ _ => Command.AreOrderly commands

/-
  Whether a command leaves an ordinary engine ordinary: what
  it registers are triggers that can be heard and built-in
  steps, and contacts stay in a store.
-/
def Command.IsOrderly : Command → Prop
| .registerTrigger i =>
    ∀ type, i.trigger = .ok type → type.IsAudible
| .registerStep i => i.IsAllowed (· ∈ Builtin.steps)
| .makeStale _ => False
| .subscribe _ _ handler => handler.IsOrderly
| .setAccess kind => kind = .contacts
| .setLimit _ => False
| _ => True

/- Whether all commands are orderly. -/
def Command.AreOrderly : List Command → Prop
| [] => True
| c :: cs => c.IsOrderly ∧ Command.AreOrderly cs

end

variable [Surroundings]

mutual

theorem Handler.isProper_of_isOrderly :
    (handler : Handler) →
      handler.IsOrderly → handler.IsProper StepType.IsAny
| .mk _ commands _ _ _, hOrderly =>
    Command.areProper_of_areOrderly commands hOrderly

/- Orderly commands are proper ones. -/
theorem Command.isProper_of_isOrderly
    (c : Command)
    (hOrderly : c.IsOrderly) :
    c.IsProper StepType.IsAny := by
  cases c with
  | registerStep i => exact fun _ _ => trivial
  | makeStale slug => exact hOrderly
  | subscribe event name? handler =>
      exact Handler.isProper_of_isOrderly handler hOrderly
  | _ => exact trivial

theorem Command.areProper_of_areOrderly :
    (cs : List Command) →
      Command.AreOrderly cs →
        Command.AreProper StepType.IsAny cs
| [], _ => trivial
| c :: cs, hOrderly =>
    ⟨Command.isProper_of_isOrderly c hOrderly.1,
      Command.areProper_of_areOrderly cs hOrderly.2⟩

end

mutual

theorem Handler.isPermitted_orderly_iff :
    (handler : Handler) →
      (handler.IsPermitted .orderly ↔ handler.IsOrderly)
| .mk _ commands _ _ _ =>
    Command.arePermitted_orderly_iff commands

/- Orderly commands are those that orderly use permits. -/
theorem Command.isPermitted_orderly_iff
    (c : Command) :
    c.IsPermitted .orderly ↔ c.IsOrderly := by
  cases c with
  | subscribe event name? handler =>
      exact Handler.isPermitted_orderly_iff handler
  | setAccess kind =>
      change kind.open = .contacts {} ↔ kind = .contacts
      cases kind <;> simp [AccessKind.open]
  | _ => exact Iff.rfl

theorem Command.arePermitted_orderly_iff :
    (cs : List Command) →
      (Command.ArePermitted .orderly cs ↔
        Command.AreOrderly cs)
| [] => Iff.rfl
| c :: cs =>
    and_congr (Command.isPermitted_orderly_iff c)
      (Command.arePermitted_orderly_iff cs)

end

end EventFlow

------------------------------------------------------------
-- Orderly Sessions
------------------------------------------------------------

namespace EventFlow

namespace Session

/-
  Whether a session is orderly: its engine is ordinary, and
  so are its handlers.
-/
structure IsOrderly
    [Surroundings]
    (limit : Int)
    (s : Session) : Prop where
  engine : s.engine.IsOrdinary limit
  handlers : ∀ handler ∈ s.handlers, handler.IsOrderly

/-
  The handlers of an orderly session are those that orderly
  use of an engine permits.
-/
theorem IsOrderly.isPermitted
    [Surroundings]
    {limit : Int}
    {s : Session}
    (hOrderly : s.IsOrderly limit) :
    s.IsPermitted .orderly :=
  fun handler hMem =>
    handler.isPermitted_orderly_iff.mpr
      (hOrderly.handlers handler hMem)

end Session

end EventFlow

------------------------------------------------------------
-- Orderly Histories
------------------------------------------------------------

namespace EventFlow

namespace Session

variable [Surroundings]

/-
  What a session can come to when only orderly commands are
  carried out: what it can come to at all, with commands of
  that kind.
-/
inductive Attains
    (s : Session) : Session → Prop where
| here : Attains s s
| settled
    {t : Session}
    (hBefore : Attains s t) :
    Attains s t.settle
| carriedOut
    {t : Session}
    (hBefore : Attains s t)
    (depth : Nat)
    (c : Command)
    (hOrderly : c.IsOrderly) :
    Attains s (carryOut (host depth) c t).2
| served
    {t : Session}
    (hBefore : Attains s t)
    (depth : Nat)
    (listener : Listener)
    (payload correlationId : Value) :
    Attains s
      (serve (host depth) listener payload
        correlationId t).2
| told
    {t : Session}
    (hBefore : Attains s t)
    (depth : Nat)
    (notice : Notice) :
    Attains s ((host depth).tell notice t).2
| noted
    {t : Session}
    (hBefore : Attains s t)
    (call : Call) :
    Attains s (note call t).2

variable {limit : Int}
variable {s t u : Session}

/- Orderly histories are histories. -/
theorem reached_of_attains
    (hAttains : Attains s t) :
    Reached StepType.IsAny s t := by
  induction hAttains with
  | here => exact .here
  | settled hBefore ih => exact ih.settled
  | carriedOut hBefore depth c hOrderly ih =>
      exact ih.carriedOut depth c
        (c.isProper_of_isOrderly hOrderly)
  | served hBefore depth listener payload correlationId ih =>
      exact ih.served depth listener payload correlationId
  | told hBefore depth notice ih => exact ih.told depth notice
  | noted hBefore call ih => exact ih.noted call

/- A session proceeds through an orderly history. -/
theorem proceeds_of_attains
    (hAttains : Attains s t) :
    Proceeds .orderly s t := by
  induction hAttains with
  | here => exact Std.Refl.refl s
  | settled hBefore ih =>
      exact IsTrans.trans _ _ _ ih (proceeds_settle _)
  | carriedOut hBefore depth c hOrderly ih =>
      exact IsTrans.trans _ _ _ ih (proceeds_carryOut_host
        depth (c.isPermitted_orderly_iff.mpr hOrderly) _)
  | served hBefore depth listener payload correlationId ih =>
      exact IsTrans.trans _ _ _ ih
        (proceeds_serve_host depth _ _ _ _)
  | told hBefore depth notice ih =>
      exact IsTrans.trans _ _ _ ih
        (proceeds_tell_host depth notice _)
  | noted hBefore call ih =>
      exact IsTrans.trans _ _ _ ih (proceeds_note call _)

/- A session stays orderly through an orderly history. -/
theorem isOrderly_of_attains
    (hAttains : Attains s t)
    (hStart : s.IsOrderly limit) :
    t.IsOrderly limit := by
  rcases proceeds_of_attains hAttains hStart.isPermitted with
    ⟨hUsed, hPermitted⟩
  refine ⟨Engine.isOrdinary_of_used hUsed hStart.engine, ?_⟩
  intro handler hMem
  exact handler.isPermitted_orderly_iff.mp
    (hPermitted handler hMem)

/- Commands that are carried out in order lead on. -/
theorem Attains.after
    (hBefore : Attains s t)
    (depth : Nat)
    {commands : List Command}
    (hOrderly : Command.AreOrderly commands) :
    Attains s (t.after depth commands) := by
  induction commands generalizing t with
  | nil => exact hBefore
  | cons c cs ih =>
      exact ih (hBefore.carriedOut depth c hOrderly.1)
        hOrderly.2

end Session

end EventFlow

------------------------------------------------------------
-- Orderly Openings
------------------------------------------------------------

namespace EventFlow

namespace Engine

variable [Surroundings]

/- The built-in types are the same for every new engine. -/
theorem registerBuiltins_eq
    (limit : Int)
    (isStrict : Bool)
    (access : DataAccess) :
    registerBuiltins
        { limit := limit
          isStrict := isStrict
          access := access } =
      (.ok (),
        { stocked with
          limit := limit
          isStrict := isStrict
          access := access }) := by
  cases isStrict with
  | false => rfl
  | true => rfl

/- A new engine with the built-in types is ordinary. -/
theorem isOrdinary_stocked
    (limit : Int)
    (isStrict : Bool)
    (access : DataAccess)
    (hTidy : access.IsTidy) :
    { stocked with
      limit := limit
      isStrict := isStrict
      access := access }.IsOrdinary limit := by
  have hNone : stocked.built = [] := rfl
  refine ⟨rfl, hTidy, fun slug => rfl, ?_, ?_⟩
  · exact fun slug type => isAudible_of_lookup_stocked
  · intro w hMem
    dsimp only at hMem
    rw [hNone] at hMem
    exact absurd hMem List.not_mem_nil

/-
  An engine that is made by settings, with the built-in
  types and a store of contacts, is ordinary.
-/
theorem isOrdinary_of_settings
    {settings : Settings}
    {e : Engine}
    (hSound : settings.IsSound)
    (hMade : ofSettings settings (.contacts {}) true = .ok e) :
    e.IsOrdinary e.limit := by
  rcases ofSettings_eq hSound (.contacts {}) with ⟨ns, hEq⟩
  rw [hEq] at hMade
  cases hMade
  exact { isOrdinary_stocked settings.limit
    settings.isStrict (.contacts {})
    ContactStore.isTidy_empty with }

/-
  So is one that is made without them, with the built-in
  types registered.
-/
theorem isOrdinary_of_registerBuiltins
    {limit : Int}
    {isStrict : Bool}
    {e : Engine}
    (hMade : make limit isStrict (.contacts {}) = .ok e) :
    (registerBuiltins e).1 = .ok () ∧
      (registerBuiltins e).2.IsOrdinary
        (registerBuiltins e).2.limit := by
  unfold make at hMade
  split at hMade
  · cases hMade
  cases hMade
  rw [registerBuiltins_eq]
  exact ⟨rfl, isOrdinary_stocked limit isStrict
    (.contacts {}) ContactStore.isTidy_empty⟩

end Engine

namespace EngineRequest

/-
  What is asked for with the built-in types and a store of
  contacts is made as an ordinary engine.
-/
theorem isOrdinary_of_makeEngine
    [Surroundings]
    {r : EngineRequest}
    {env : List (String × String)}
    {files : Files}
    {e : Engine}
    (hBuiltins : r.withBuiltins = true)
    (hContacts : r.access = .contacts)
    (hMade : r.makeEngine env files = .ok e) :
    e.IsOrdinary e.limit := by
  have hOpen : r.access.open = .contacts {} := by
    rw [hContacts]
    rfl
  unfold makeEngine at hMade
  split at hMade
  · cases hSettings : Settings.load env files with
    | error failure =>
        rw [hSettings] at hMade
        cases hMade
    | ok settings =>
        rw [hSettings, hOpen, hBuiltins] at hMade
        exact Engine.isOrdinary_of_settings
          (Settings.isSound_of_load hSettings) hMade
  · unfold engine at hMade
    rw [hOpen] at hMade
    cases hNew :
        Engine.make r.limit r.isStrict (.contacts {}) with
    | error failure =>
        rw [hNew] at hMade
        cases hMade
    | ok e₀ =>
        rcases Engine.isOrdinary_of_registerBuiltins hNew
          with ⟨hDone, hOrdinary⟩
        rw [hNew] at hMade
        dsimp only at hMade
        rw [if_pos hBuiltins, hDone] at hMade
        cases hMade
        exact hOrdinary

end EngineRequest

namespace Session

/-
  A session that is opened with the built-in types and a
  store of contacts is orderly.
-/
theorem isOrderly_of_start
    [Surroundings]
    {r : EngineRequest}
    {env : List (String × String)}
    {files : Files}
    {level? : Option Value}
    {s : Session}
    (hBuiltins : r.withBuiltins = true)
    (hContacts : r.access = .contacts)
    (hOpened : start r env files level? = .ok s) :
    s.IsOrderly s.engine.limit := by
  unfold start at hOpened
  dsimp only at hOpened
  split at hOpened
  · cases hOpened
  rcases Outcome.map_eq_ok hOpened with ⟨e, hMade, rfl⟩
  have hOrdinary :=
    EngineRequest.isOrdinary_of_makeEngine hBuiltins
      hContacts hMade
  constructor
  · exact { hOrdinary with }
  · exact fun handler hMem => absurd hMem List.not_mem_nil

end Session

end EventFlow
