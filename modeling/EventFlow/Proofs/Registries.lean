import EventFlow.Engine.Registration
import EventFlow.Proofs.Acts
import Mathlib.Data.List.Induction
import Mathlib.Data.List.Nodup

/-
  What registries hold after any calls.

  Types are registered by calls that succeed or fail.  The
  registries of an engine are a function of the calls that
  succeeded: of two types of triggers under one slug the
  first stays, and of two types of steps the last, unless
  the engine is strict.  A slug keeps the place of its first
  registration, and a call that fails changes nothing.

  Key definitions include:
    * `Registration`
    * `Registered`
    * `Engine.registerAll`
    * `Engine.Registers`
    * `Engine.Follows`

  Key theorems include:
    * `Entries.lookup_ofPairs`
    * `Entries.map_fst_ofPairs`
    * `Engine.registers_act`
    * `Engine.follows_registerAll`
    * `Engine.registries_follow_history`
-/

------------------------------------------------------------
-- Entries From Pairs
------------------------------------------------------------

namespace EventFlow

namespace Entries

variable {κ ν : Type}
variable [DecidableEq κ]

/- The last of some pairs is written last. -/
theorem ofPairs_concat
    (pairs : List (κ × ν))
    (pair : κ × ν) :
    ofPairs (pairs ++ [pair]) =
      put pair.1 pair.2 (ofPairs pairs) := by
  simp [ofPairs]

/- A key has the value of its last pair. -/
theorem lookup_ofPairs
    (key : κ)
    (pairs : List (κ × ν)) :
    (ofPairs pairs).lookup key =
      pairs.reverse.lookup key := by
  induction pairs using List.reverseRecOn with
  | nil => rfl
  | append_singleton pairs pair ih =>
      rw [ofPairs_concat, List.reverse_append,
        List.reverse_singleton, List.singleton_append,
        List.lookup_cons]
      by_cases hKey : key = pair.1
      · subst hKey
        simp [lookup_put_self]
      · have hBeq : (key == pair.1) = false :=
          beq_false_of_ne hKey
        rw [lookup_put_of_ne hKey, ih, hBeq]

/- The keys stand in the order of their first pairs. -/
theorem map_fst_ofPairs (pairs : List (κ × ν)) :
    (ofPairs pairs).map Prod.fst =
      (pairs.map Prod.fst).eraseDups := by
  induction pairs using List.reverseRecOn with
  | nil => rfl
  | append_singleton pairs pair ih =>
      rw [ofPairs_concat, map_fst_put, ih, List.map_append,
        List.eraseDups_append]
      by_cases hOld : pair.1 ∈ pairs.map Prod.fst
      · have hErased :
            pair.1 ∈ (pairs.map Prod.fst).eraseDups :=
          List.mem_eraseDups.mpr hOld
        rw [if_pos hErased]
        simp [List.removeAll, hOld]
      · have hFresh :
            pair.1 ∉ (pairs.map Prod.fst).eraseDups := by
          rw [List.mem_eraseDups]
          exact hOld
        rw [if_neg hFresh]
        simp [List.removeAll, hOld, List.eraseDups_cons]

theorem mem_of_mem_put
    {key : κ}
    {value : ν}
    {entry : κ × ν}
    {es : List (κ × ν)}
    (hMem : entry ∈ put key value es) :
    entry = (key, value) ∨ entry ∈ es := by
  induction es with
  | nil => exact .inl (List.mem_singleton.mp hMem)
  | cons first rest ih =>
      rw [put] at hMem
      by_cases hKey : first.1 = key
      · rw [if_pos hKey] at hMem
        rcases List.mem_cons.mp hMem with rfl | hRest
        · exact .inl (Prod.ext hKey rfl)
        · exact .inr (List.mem_cons_of_mem _ hRest)
      · rw [if_neg hKey] at hMem
        rcases List.mem_cons.mp hMem with rfl | hRest
        · exact .inr List.mem_cons_self
        · rcases ih hRest with hNew | hOld
          · exact .inl hNew
          · exact .inr (List.mem_cons_of_mem _ hOld)

/- Every entry is one of the pairs. -/
theorem mem_of_mem_ofPairs
    {entry : κ × ν}
    {pairs : List (κ × ν)}
    (hMem : entry ∈ ofPairs pairs) :
    entry ∈ pairs := by
  induction pairs using List.reverseRecOn with
  | nil => cases hMem
  | append_singleton pairs pair ih =>
      rw [ofPairs_concat] at hMem
      rw [List.mem_append, List.mem_singleton]
      rcases mem_of_mem_put hMem with hNew | hOld
      · exact .inr hNew
      · exact .inl (ih hOld)

/- Whether pairs of one key are one pair. -/
def Agree (pairs : List (κ × ν)) : Prop :=
  ∀ a ∈ pairs, ∀ b ∈ pairs, a.1 = b.1 → a = b

variable {pairs : List (κ × ν)}

omit [DecidableEq κ] in
/- Pairs with different keys agree. -/
theorem agree_of_nodup
    (hNodup : (pairs.map Prod.fst).Nodup) :
    Agree pairs := by
  intro a hA b hB hKey
  exact List.inj_on_of_nodup_map hNodup hA hB hKey

/- To find the pair of a key is to look the key up. -/
theorem find?_eq_lookup (key : κ) :
    pairs.find? (fun pair => key == pair.1) =
      (pairs.lookup key).map (key, ·) := by
  induction pairs with
  | nil => rfl
  | cons pair pairs ih =>
      rw [List.find?_cons, List.lookup_cons]
      cases hKey : key == pair.1 with
      | true =>
          rw [beq_iff_eq.mp hKey]
          rfl
      | false => exact ih

/- Pairs that agree are looked up in any order. -/
theorem lookup_eq_some_iff_mem
    (hAgree : Agree pairs)
    (key : κ)
    (value : ν) :
    pairs.lookup key = some value ↔
      (key, value) ∈ pairs := by
  constructor
  · exact mem_of_lookup
  · intro hMem
    have hSome : (pairs.lookup key).isSome := by
      rw [List.lookup_isSome_iff]
      exact ⟨(key, value), hMem, beq_self_eq_true key⟩
    rcases Option.isSome_iff_exists.mp hSome with
      ⟨found, hFound⟩
    have hSame :=
      hAgree _ (mem_of_lookup hFound) _ hMem rfl
    rw [hFound, (Prod.mk.inj hSame).2]

omit [DecidableEq κ] in
theorem agree_reverse_iff :
    Agree pairs.reverse ↔ Agree pairs := by
  simp [Agree]

/- The first pair of a key is as good as the last. -/
theorem lookup_reverse
    (hAgree : Agree pairs)
    (key : κ) :
    pairs.reverse.lookup key = pairs.lookup key := by
  ext value
  rw [lookup_eq_some_iff_mem (agree_reverse_iff.mpr hAgree),
    lookup_eq_some_iff_mem hAgree, List.mem_reverse]

/- A pair whose key has no other value agrees with pairs. -/
theorem agree_concat
    (hAgree : Agree pairs)
    {pair : κ × ν}
    (hPair :
      ∀ value,
        (ofPairs pairs).lookup pair.1 = some value →
          value = pair.2) :
    Agree (pairs ++ [pair]) := by
  have hOld :
      ∀ a ∈ pairs, a.1 = pair.1 → a = pair := by
    intro a hMem hKey
    have hLookup :
        (ofPairs pairs).lookup pair.1 = some a.2 := by
      rw [lookup_ofPairs, lookup_reverse hAgree,
        lookup_eq_some_iff_mem hAgree, ← hKey]
      exact hMem
    exact Prod.ext hKey (hPair a.2 hLookup)
  intro a hA b hB hKey
  rw [List.mem_append, List.mem_singleton] at hA hB
  rcases hA with hA | rfl
  · rcases hB with hB | rfl
    · exact hAgree a hA b hB hKey
    · exact hOld a hA hKey
  · rcases hB with hB | rfl
    · exact (hOld b hB hKey.symm).symm
    · rfl

end Entries

end EventFlow

------------------------------------------------------------
-- Calls
------------------------------------------------------------

namespace EventFlow

/- A call that registers a type. -/
inductive Registration where
| trigger (i : Identifier)
| step (i : Identifier)

variable [Surroundings]

/- What a call does. -/
def Registration.act : Registration → Act Engine String
| .trigger i => Engine.registerTrigger i
| .step i => Engine.registerStep i

/- A call that was made, and what came of it. -/
structure Registered where
  call : Registration
  outcome : Except Failure String

namespace Registered

/- The type of triggers that was registered by a call. -/
def trigger?
    (r : Registered) : Option (String × TriggerType) :=
  match r.call, r.outcome with
  | .trigger i, .ok slug =>
      i.trigger.toOption.map fun type => (slug, type)
  | _, _ => none

/- The type of steps that was registered by a call. -/
def step?
    (r : Registered) : Option (String × StepEntry) :=
  match r.call, r.outcome with
  | .step i, .ok slug =>
      i.step.toOption.map fun type => (slug, .type type)
  | _, _ => none

/- The types of triggers that were registered, in order. -/
def triggers
    (log : List Registered) : List (String × TriggerType) :=
  log.filterMap trigger?

/- The types of steps that were registered, in order. -/
def steps
    (log : List Registered) : List (String × StepEntry) :=
  log.filterMap step?

end Registered

namespace Engine

/-
  Make calls in order, whether they fail or not, and tell
  what came of each.
-/
def registerAll :
    List Registration → Act Engine (List Registered)
| [] => return []
| call :: calls => do
    let outcome ← Act.attempt call.act
    let log ← registerAll calls
    return ⟨call, outcome⟩ :: log

end Engine

end EventFlow

------------------------------------------------------------
-- What a Call Can Come To
------------------------------------------------------------

namespace EventFlow

namespace Engine

variable [Surroundings]

/-
  What a call can come to: it is refused and changes
  nothing, or it puts the type that it identifies under the
  slug of that type, if the slug may be used.
-/
inductive Registers (e : Engine) :
    Registration → Except Failure String → Engine → Prop where
| refused
    (call : Registration)
    (failure : Failure) :
    Registers e call (.error failure) e
| trigger
    {i : Identifier}
    {type : TriggerType}
    {slug : String}
    (hType : i.trigger = .ok type)
    (hSlug : slugOf .trigger type.slug = .ok slug)
    (hFree : e.triggerTypes.lookup slug = none) :
    Registers e (.trigger i) (.ok slug)
      (hear [.triggerRegistered slug]
        { e with
          triggerTypes :=
            Entries.put slug type e.triggerTypes })
| step
    {i : Identifier}
    {type : StepType}
    {slug : String}
    {notices : List Notice}
    (hType : i.step = .ok type)
    (hSlug : slugOf .step type.slug = .ok slug)
    (hReplaces :
      replacing e.isStrict slug type
        (e.stepTypes.lookup slug) = .ok notices) :
    Registers e (.step i) (.ok slug)
      (hear [.stepRegistered slug]
        { hear notices e with
          stepTypes :=
            Entries.put slug (.type type) e.stepTypes })

variable {e : Engine}

/- A type of triggers is registered if its slug is free. -/
theorem registerTrigger_of_type
    {i : Identifier}
    {type : TriggerType}
    {slug : String}
    (hType : i.trigger = .ok type)
    (hSlug : slugOf .trigger type.slug = .ok slug) :
    registerTrigger i e =
      if (e.triggerTypes.lookup slug).isSome then
        (.error (.slugTaken .trigger slug), e)
      else
        (.ok slug,
          hear [.triggerRegistered slug]
            { e with
              triggerTypes :=
                Entries.put slug type e.triggerTypes }) := by
  rw [registerTrigger, Act.ofExcept_bind_of_ok hType,
    Act.ofExcept_bind_of_ok hSlug, putTriggerType,
    Act.look_bind]
  split <;> rfl

/-
  A type of steps is registered if it may take the place of
  what its slug stands for.
-/
theorem registerStep_of_type
    {i : Identifier}
    {type : StepType}
    {slug : String}
    (hType : i.step = .ok type)
    (hSlug : slugOf .step type.slug = .ok slug) :
    registerStep i e =
      match replacing e.isStrict slug type
          (e.stepTypes.lookup slug) with
      | .error failure => (.error failure, e)
      | .ok notices =>
          (.ok slug,
            hear [.stepRegistered slug]
              { hear notices e with
                stepTypes :=
                  Entries.put slug (.type type)
                    e.stepTypes }) := by
  rw [registerStep, Act.ofExcept_bind_of_ok hType,
    Act.ofExcept_bind_of_ok hSlug, putStepType,
    Act.look_bind, Act.look_bind]
  cases hReplaces :
      replacing e.isStrict slug type
        (e.stepTypes.lookup slug) with
  | error failure => rfl
  | ok notices => rfl

theorem registers_trigger (i : Identifier) :
    Registers e (.trigger i) (registerTrigger i e).1
      (registerTrigger i e).2 := by
  cases hType : i.trigger with
  | error failure =>
      rw [registerTrigger, Act.ofExcept_bind_of_error hType]
      exact .refused _ _
  | ok type =>
      cases hSlug : slugOf .trigger type.slug with
      | error failure =>
          rw [registerTrigger, Act.ofExcept_bind_of_ok hType,
            Act.ofExcept_bind_of_error hSlug]
          exact .refused _ _
      | ok slug =>
          rw [registerTrigger_of_type hType hSlug]
          by_cases hTaken :
              (e.triggerTypes.lookup slug).isSome
          · rw [if_pos hTaken]
            exact .refused _ _
          · rw [if_neg hTaken]
            exact .trigger hType hSlug
              (Option.not_isSome_iff_eq_none.mp hTaken)

theorem registers_step (i : Identifier) :
    Registers e (.step i) (registerStep i e).1
      (registerStep i e).2 := by
  cases hType : i.step with
  | error failure =>
      rw [registerStep, Act.ofExcept_bind_of_error hType]
      exact .refused _ _
  | ok type =>
      cases hSlug : slugOf .step type.slug with
      | error failure =>
          rw [registerStep, Act.ofExcept_bind_of_ok hType,
            Act.ofExcept_bind_of_error hSlug]
          exact .refused _ _
      | ok slug =>
          rw [registerStep_of_type hType hSlug]
          cases hReplaces :
              replacing e.isStrict slug type
                (e.stepTypes.lookup slug) with
          | error failure => exact .refused _ _
          | ok notices => exact .step hType hSlug hReplaces

/- Every call comes to one of these. -/
theorem registers_act (call : Registration) :
    Registers e call (call.act e).1 (call.act e).2 := by
  cases call with
  | trigger i => exact registers_trigger i
  | step i => exact registers_step i

end Engine

end EventFlow

------------------------------------------------------------
-- Following a History
------------------------------------------------------------

namespace EventFlow

variable [Surroundings]

/-
  Whether the slug that a call told, if it did, is that of
  the type that it identifies.
-/
def Registered.IsFit (r : Registered) : Prop :=
  match r.call, r.outcome with
  | .trigger i, .ok slug =>
      ∃ type,
        i.trigger = .ok type ∧
          Engine.slugOf .trigger type.slug = .ok slug
  | .step i, .ok slug =>
      ∃ type,
        i.step = .ok type ∧
          Engine.slugOf .step type.slug = .ok slug
  | _, .error _ => True

namespace Engine

/-
  Whether the registries of an engine are those of a log:
  the entries are made of what was registered, in order, and
  what has the first word under a slug has the last.
-/
structure Follows
    (log : List Registered)
    (e : Engine) : Prop where
  fit : ∀ r ∈ log, r.IsFit
  triggers :
    e.triggerTypes =
      Entries.ofPairs (Registered.triggers log)
  steps :
    e.stepTypes = Entries.ofPairs (Registered.steps log)
  triggersAgree : Entries.Agree (Registered.triggers log)
  stepsAgree :
    e.isStrict = true →
      Entries.Agree (Registered.steps log)

variable {e e' : Engine}
variable {log : List Registered}

/- A new engine follows the empty history. -/
theorem follows_make
    {limit : Int}
    {isStrict : Bool}
    {access : DataAccess}
    (hMade : make limit isStrict access = .ok e) :
    e.Follows [] ∧ e.isStrict = isStrict := by
  unfold make at hMade
  split at hMade
  · cases hMade
  · cases hMade
    refine ⟨?_, rfl⟩
    constructor <;> simp [Registered.triggers,
      Registered.steps, Entries.ofPairs, Entries.Agree]

/- A log that is followed stays fit with a fit call. -/
theorem Follows.fit_concat
    {r : Registered}
    (hFollows : e.Follows log)
    (hFit : r.IsFit) :
    ∀ r' ∈ log ++ [r], r'.IsFit := by
  intro r' hMem
  rcases List.mem_append.mp hMem with hOld | hNew
  · exact hFollows.fit r' hOld
  · rw [List.mem_singleton.mp hNew]
    exact hFit

/- A refused call adds nothing to what is registered. -/
theorem follows_refused
    (hFollows : e.Follows log)
    (call : Registration)
    (failure : Failure) :
    e.Follows (log ++ [⟨call, .error failure⟩]) := by
  have hNone :
      Registered.trigger? ⟨call, .error failure⟩ = none ∧
        Registered.step? ⟨call, .error failure⟩ = none := by
    cases call <;> exact ⟨rfl, rfl⟩
  have hTriggers :
      Registered.triggers (log ++ [⟨call, .error failure⟩]) =
        Registered.triggers log := by
    simp [Registered.triggers, hNone.1]
  have hSteps :
      Registered.steps (log ++ [⟨call, .error failure⟩]) =
        Registered.steps log := by
    simp [Registered.steps, hNone.2]
  refine ⟨hFollows.fit_concat ?_,
    hTriggers ▸ hFollows.triggers,
    hSteps ▸ hFollows.steps,
    hTriggers ▸ hFollows.triggersAgree,
    hSteps ▸ hFollows.stepsAgree⟩
  cases call <;> exact True.intro

/- A type of triggers comes under a slug that was free. -/
theorem follows_trigger
    {i : Identifier}
    {type : TriggerType}
    {slug : String}
    (hFollows : e.Follows log)
    (hType : i.trigger = .ok type)
    (hSlug : slugOf .trigger type.slug = .ok slug)
    (hFree : e.triggerTypes.lookup slug = none) :
    Follows (log ++ [⟨.trigger i, .ok slug⟩])
      { e with
        triggerTypes :=
          Entries.put slug type e.triggerTypes } := by
  have hTriggers :
      Registered.triggers (log ++ [⟨.trigger i, .ok slug⟩]) =
        Registered.triggers log ++ [(slug, type)] := by
    simp [Registered.triggers, Registered.trigger?, hType,
      Except.toOption]
  have hSteps :
      Registered.steps (log ++ [⟨.trigger i, .ok slug⟩]) =
        Registered.steps log := by
    simp [Registered.steps, Registered.step?]
  rw [hFollows.triggers] at hFree
  constructor
  · exact hFollows.fit_concat ⟨type, hType, hSlug⟩
  · rw [hTriggers, Entries.ofPairs_concat,
      ← hFollows.triggers]
  · rw [hSteps]
    exact hFollows.steps
  · rw [hTriggers]
    refine Entries.agree_concat hFollows.triggersAgree ?_
    intro value hValue
    rw [hFree] at hValue
    cases hValue
  · rw [hSteps]
    exact hFollows.stepsAgree

omit [Surroundings] in
/- A replaced type of a strict engine is the same type. -/
theorem eq_of_replacing
    {slug : String}
    {type : StepType}
    {entry : StepEntry}
    {notices : List Notice}
    (hReplaces :
      replacing true slug type (some entry) =
        .ok notices) :
    entry = .type type := by
  by_cases hSame : entry = .type type
  · exact hSame
  · simp [replacing, hSame] at hReplaces

/-
  A type of steps comes under its slug, and if the engine is
  strict, it is the one that was there.
-/
theorem follows_step
    {i : Identifier}
    {type : StepType}
    {slug : String}
    {notices : List Notice}
    (hFollows : e.Follows log)
    (hType : i.step = .ok type)
    (hSlug : slugOf .step type.slug = .ok slug)
    (hReplaces :
      replacing e.isStrict slug type
        (e.stepTypes.lookup slug) = .ok notices) :
    Follows (log ++ [⟨.step i, .ok slug⟩])
      { e with
        stepTypes :=
          Entries.put slug (.type type) e.stepTypes } := by
  have hTriggers :
      Registered.triggers (log ++ [⟨.step i, .ok slug⟩]) =
        Registered.triggers log := by
    simp [Registered.triggers, Registered.trigger?]
  have hSteps :
      Registered.steps (log ++ [⟨.step i, .ok slug⟩]) =
        Registered.steps log ++ [(slug, .type type)] := by
    simp [Registered.steps, Registered.step?, hType,
      Except.toOption]
  rw [hFollows.steps] at hReplaces
  constructor
  · exact hFollows.fit_concat ⟨type, hType, hSlug⟩
  · rw [hTriggers]
    exact hFollows.triggers
  · rw [hSteps, Entries.ofPairs_concat, ← hFollows.steps]
  · rw [hTriggers]
    exact hFollows.triggersAgree
  · intro hStrict
    have hBefore : e.isStrict = true := hStrict
    rw [hSteps]
    refine Entries.agree_concat
      (hFollows.stepsAgree hBefore) ?_
    intro value hValue
    rw [hBefore, hValue] at hReplaces
    exact eq_of_replacing hReplaces

/- What an engine is told leaves the log that it follows. -/
theorem Follows.hear
    (hFollows : e.Follows log)
    (notices : List Notice) :
    (hear notices e).Follows log :=
  { hFollows with }

/- The call that comes next is followed as well. -/
theorem follows_of_registers
    (hFollows : e.Follows log)
    {call : Registration}
    {outcome : Except Failure String}
    (hRegisters : Registers e call outcome e') :
    e'.Follows (log ++ [⟨call, outcome⟩]) ∧
      e'.isStrict = e.isStrict := by
  cases hRegisters with
  | refused call failure =>
      exact ⟨follows_refused hFollows call failure, rfl⟩
  | trigger hType hSlug hFree =>
      exact ⟨(follows_trigger hFollows hType hSlug
        hFree).hear _, rfl⟩
  | step hType hSlug hReplaces =>
      exact ⟨(follows_step (hFollows.hear _) hType hSlug
        hReplaces).hear _, rfl⟩

/-
  Calls that are made in order lead to an engine that
  follows all of them.
-/
theorem follows_registerAll
    (hFollows : e.Follows log)
    (calls : List Registration) :
    ∃ made e',
      registerAll calls e = (.ok made, e') ∧
        made.map Registered.call = calls ∧
          e'.Follows (log ++ made) ∧
            e'.isStrict = e.isStrict := by
  induction calls generalizing e log with
  | nil =>
      refine ⟨[], e, rfl, rfl, ?_, rfl⟩
      rw [List.append_nil]
      exact hFollows
  | cons call calls ih =>
      rcases hCall : call.act e with ⟨outcome, e₁⟩
      have hRegisters := registers_act (e := e) call
      rw [hCall] at hRegisters
      rcases follows_of_registers hFollows hRegisters with
        ⟨hFirst, hStrict⟩
      rcases ih hFirst with
        ⟨made, e', hRest, hCalls, hFollows', hStrict'⟩
      refine ⟨⟨call, outcome⟩ :: made, e', ?_, ?_, ?_, ?_⟩
      · rw [registerAll, Act.attempt_bind _ hCall,
          Act.bind_of_ok hRest]
        rfl
      · rw [List.map_cons, hCalls]
      · rw [List.append_cons]
        exact hFollows'
      · rw [hStrict', hStrict]

/- A new engine follows whatever calls are made with it. -/
theorem exists_follows
    {limit : Int}
    {isStrict : Bool}
    {access : DataAccess}
    (hMade : make limit isStrict access = .ok e)
    (calls : List Registration) :
    ∃ log, (registerAll calls e).2.Follows log := by
  rcases follows_registerAll (follows_make hMade).1 calls with
    ⟨made, e', hRan, -, hFollows, -⟩
  rw [hRan]
  exact ⟨_, hFollows⟩

end Engine

end EventFlow

------------------------------------------------------------
-- What Registries Hold
------------------------------------------------------------

namespace EventFlow

namespace Engine

variable {e : Engine}
variable {log : List Registered}

/- A slug that a type is registered under is its own. -/
theorem slugOf_eq_ok_iff
    {role : Role}
    {raw slug : String} :
    slugOf role raw = .ok slug ↔
      slug = Text.trim raw ∧ slug ≠ "" := by
  unfold slugOf
  dsimp only
  by_cases hEmpty : Text.trim raw = ""
  · constructor
    · intro hSlug
      simp [hEmpty] at hSlug
    · rintro ⟨rfl, hSome⟩
      exact absurd hEmpty hSome
  · have hFalse : (Text.trim raw).isEmpty = false := by
      simpa using hEmpty
    rw [hFalse, if_neg Bool.false_ne_true]
    constructor
    · intro hSlug
      cases hSlug
      exact ⟨rfl, hEmpty⟩
    · rintro ⟨rfl, -⟩
      rfl

variable [Surroundings]

/- An identifier of a type of triggers stands for the type. -/
theorem resolve_of_trigger
    {i : Identifier}
    {type : TriggerType}
    (hType : i.trigger = .ok type) :
    i.resolve = .ok (some (.trigger type)) := by
  unfold Identifier.trigger at hType
  split at hType <;> cases hType
  assumption

/- An identifier of a type of steps stands for the type. -/
theorem resolve_of_step
    {i : Identifier}
    {type : StepType}
    (hType : i.step = .ok type) :
    i.resolve = .ok (some (.step type)) := by
  unfold Identifier.step at hType
  split at hType <;> cases hType
  assumption

/- What is registered for a trigger was registered by a call. -/
theorem Follows.trigger_of_mem
    (hFollows : e.Follows log)
    {slug : String}
    {type : TriggerType}
    (hMem : (slug, type) ∈ Registered.triggers log) :
    ∃ i,
      ⟨.trigger i, .ok slug⟩ ∈ log ∧
        i.resolve = .ok (some (.trigger type)) ∧
          slug = Text.trim type.slug ∧ slug ≠ "" := by
  rcases List.mem_filterMap.mp hMem with ⟨r, hLog, hSome⟩
  have hFit := hFollows.fit r hLog
  rcases r with ⟨⟨i⟩ | ⟨i⟩, outcome | told⟩
  · cases hSome
  · rcases hFit with ⟨found, hFound, hSlug⟩
    simp only [Registered.trigger?, hFound,
      Except.toOption, Option.map_some,
      Option.some.injEq] at hSome
    cases hSome
    exact ⟨i, hLog, resolve_of_trigger hFound,
      slugOf_eq_ok_iff.mp hSlug⟩
  · cases hSome
  · cases hSome

/- What is registered for a step was registered by a call. -/
theorem Follows.step_of_mem
    (hFollows : e.Follows log)
    {slug : String}
    {entry : StepEntry}
    (hMem : (slug, entry) ∈ Registered.steps log) :
    ∃ i type,
      ⟨.step i, .ok slug⟩ ∈ log ∧
        entry = .type type ∧
          i.resolve = .ok (some (.step type)) ∧
            slug = Text.trim type.slug ∧ slug ≠ "" := by
  rcases List.mem_filterMap.mp hMem with ⟨r, hLog, hSome⟩
  have hFit := hFollows.fit r hLog
  rcases r with ⟨⟨i⟩ | ⟨i⟩, outcome | told⟩
  · cases hSome
  · cases hSome
  · cases hSome
  · rcases hFit with ⟨found, hFound, hSlug⟩
    simp only [Registered.step?, hFound, Except.toOption,
      Option.map_some, Option.some.injEq] at hSome
    cases hSome
    exact ⟨i, found, hLog, rfl, resolve_of_step hFound,
      slugOf_eq_ok_iff.mp hSlug⟩

/- What follows a history has no entry that is stale. -/
theorem Follows.not_stale
    (hFollows : e.Follows log)
    (slug : String) :
    e.stepTypes.lookup slug ≠ some .stale := by
  intro hStale
  have hMem := Entries.mem_of_lookup hStale
  rw [hFollows.steps] at hMem
  rcases hFollows.step_of_mem
    (Entries.mem_of_mem_ofPairs hMem) with
    ⟨i, type, -, hEntry, -⟩
  cases hEntry

end Engine

end EventFlow

------------------------------------------------------------
-- The Invariant of Registries
------------------------------------------------------------

namespace EventFlow

namespace Engine

variable {e : Engine}
variable {log : List Registered}

variable [Surroundings]

/- A type of triggers is refused exactly under a taken slug. -/
theorem registerTrigger_taken_iff
    {i : Identifier}
    {type : TriggerType}
    (hType : i.trigger = .ok type)
    (hSlug : Text.trim type.slug ≠ "") :
    ((registerTrigger i e).1 =
        .error (.slugTaken .trigger (Text.trim type.slug)) ↔
      (e.triggerTypes.lookup (Text.trim type.slug)).isSome) ∧
    ((registerTrigger i e).1 = .ok (Text.trim type.slug) ↔
      e.triggerTypes.lookup (Text.trim type.slug) =
        none) := by
  rw [registerTrigger_of_type hType
    (slugOf_eq_ok_iff.mpr ⟨rfl, hSlug⟩)]
  cases e.triggerTypes.lookup (Text.trim type.slug) with
  | none => simp
  | some other => simp

/-
  Among types only, a type of steps is refused exactly by a
  strict engine under the slug of another type.
-/
theorem registerStep_taken_iff
    (hTypes :
      ∀ slug, e.stepTypes.lookup slug ≠ some .stale)
    {i : Identifier}
    {type : StepType}
    (hType : i.step = .ok type)
    (hSlug : Text.trim type.slug ≠ "") :
    ((registerStep i e).1 =
        .error (.slugTaken .step (Text.trim type.slug)) ↔
      e.isStrict = true ∧
        ∃ other,
          e.stepTypes.lookup (Text.trim type.slug) =
              some (.type other) ∧
            other ≠ type) ∧
    ((registerStep i e).1 = .ok (Text.trim type.slug) ↔
      ¬ (e.isStrict = true ∧
        ∃ other,
          e.stepTypes.lookup (Text.trim type.slug) =
              some (.type other) ∧
            other ≠ type)) := by
  rw [registerStep_of_type hType
    (slugOf_eq_ok_iff.mpr ⟨rfl, hSlug⟩)]
  cases hHeld : e.stepTypes.lookup (Text.trim type.slug) with
  | none => simp [replacing]
  | some entry =>
      cases entry with
      | stale => exact absurd hHeld (hTypes _)
      | type other =>
          by_cases hSame : other = type
          · simp [replacing, hSame]
          · cases e.isStrict <;> simp [replacing, hSame]

/- A call that fails leaves the engine as it was. -/
theorem act_of_error
    {call : Registration}
    {failure : Failure}
    {e' : Engine}
    (hFailed : call.act e = (.error failure, e')) :
    e' = e := by
  have hRegisters := registers_act (e := e) call
  rw [hFailed] at hRegisters
  cases hRegisters
  rfl

/-
  Whatever calls register types with a new engine, in
  whatever order and with whatever identifiers: every type
  that is held was registered by one of the calls, is
  complete, and stands under its own slug without blanks
  around it.  A slug stands for the first type of triggers,
  and for the last type of steps, that was registered under
  it; in a strict engine for the first one.  The slugs stand
  in the order of their first registration.  A slug that is
  taken is refused to triggers, and to steps in a strict
  engine if another type holds it.  A call that fails
  changes neither registry.
-/
theorem registries_follow_history
    {limit : Int}
    {isStrict : Bool}
    {access : DataAccess}
    {e₀ : Engine}
    (hNew : make limit isStrict access = .ok e₀)
    (calls : List Registration) :
    ∃ log e,
      registerAll calls e₀ = (.ok log, e) ∧
      log.map Registered.call = calls ∧
      (∀ slug type,
        (slug, type) ∈ e.triggerTypes →
          ∃ i,
            ⟨.trigger i, .ok slug⟩ ∈ log ∧
              i.resolve = .ok (some (.trigger type)) ∧
                slug = Text.trim type.slug ∧ slug ≠ "") ∧
      (∀ slug entry,
        (slug, entry) ∈ e.stepTypes →
          ∃ i type,
            ⟨.step i, .ok slug⟩ ∈ log ∧
              entry = .type type ∧
                i.resolve = .ok (some (.step type)) ∧
                  slug = Text.trim type.slug ∧
                    slug ≠ "") ∧
      (∀ slug,
        e.triggerTypes.lookup slug =
          (Registered.triggers log).lookup slug) ∧
      (∀ slug,
        e.stepTypes.lookup slug =
          (Registered.steps log).reverse.lookup slug) ∧
      (isStrict = true →
        ∀ slug,
          e.stepTypes.lookup slug =
            (Registered.steps log).lookup slug) ∧
      e.triggerTypes.map Prod.fst =
        ((Registered.triggers log).map Prod.fst).eraseDups ∧
      e.stepTypes.map Prod.fst =
        ((Registered.steps log).map Prod.fst).eraseDups ∧
      (∀ (i : Identifier) (type : TriggerType) (slug : String),
        i.trigger = .ok type →
        slug = Text.trim type.slug →
        slug ≠ "" →
          ((registerTrigger i e).1 =
              .error (.slugTaken .trigger slug) ↔
            (e.triggerTypes.lookup slug).isSome) ∧
          ((registerTrigger i e).1 = .ok slug ↔
            e.triggerTypes.lookup slug = none)) ∧
      (∀ (i : Identifier) (type : StepType) (slug : String),
        i.step = .ok type →
        slug = Text.trim type.slug →
        slug ≠ "" →
          ((registerStep i e).1 =
              .error (.slugTaken .step slug) ↔
            isStrict = true ∧
              ∃ other,
                e.stepTypes.lookup slug =
                    some (.type other) ∧
                  other ≠ type) ∧
          ((registerStep i e).1 = .ok slug ↔
            ¬ (isStrict = true ∧
              ∃ other,
                e.stepTypes.lookup slug =
                    some (.type other) ∧
                  other ≠ type))) ∧
      (∀ (call : Registration) failure e',
        call.act e = (.error failure, e') →
          e'.triggerTypes = e.triggerTypes ∧
            e'.stepTypes = e.stepTypes) := by
  rcases follows_make hNew with ⟨hStart, hMode⟩
  rcases follows_registerAll hStart calls with
    ⟨log, e, hRan, hCalls, hFollows, hStrict⟩
  rw [List.nil_append] at hFollows
  rw [hMode] at hStrict
  have hTriggers (slug : String) :
      e.triggerTypes.lookup slug =
        (Registered.triggers log).lookup slug := by
    rw [hFollows.triggers, Entries.lookup_ofPairs,
      Entries.lookup_reverse hFollows.triggersAgree]
  have hSteps (slug : String) :
      e.stepTypes.lookup slug =
        (Registered.steps log).reverse.lookup slug := by
    rw [hFollows.steps, Entries.lookup_ofPairs]
  have hHeld :
      ∀ slug entry,
        (slug, entry) ∈ e.stepTypes →
          (slug, entry) ∈ Registered.steps log := by
    intro slug entry hMem
    rw [hFollows.steps] at hMem
    exact Entries.mem_of_mem_ofPairs hMem
  refine ⟨log, e, hRan, hCalls, ?_, ?_, hTriggers, hSteps,
    ?_, ?_, ?_, ?_, ?_, ?_⟩
  · intro slug type hMem
    rw [hFollows.triggers] at hMem
    exact hFollows.trigger_of_mem
      (Entries.mem_of_mem_ofPairs hMem)
  · intro slug entry hMem
    exact hFollows.step_of_mem (hHeld _ _ hMem)
  · intro hOn slug
    rw [hSteps, Entries.lookup_reverse
      (hFollows.stepsAgree (hStrict.trans hOn))]
  · rw [hFollows.triggers, Entries.map_fst_ofPairs]
  · rw [hFollows.steps, Entries.map_fst_ofPairs]
  · rintro i type slug hType rfl hSlug
    exact registerTrigger_taken_iff hType hSlug
  · rintro i type slug hType rfl hSlug
    rw [← hStrict]
    exact registerStep_taken_iff hFollows.not_stale hType
      hSlug
  · intro call failure e' hFailed
    rw [act_of_error hFailed]
    exact ⟨rfl, rfl⟩

end Engine

end EventFlow

------------------------------------------------------------
-- Types Under One Slug
------------------------------------------------------------

namespace EventFlow

namespace Engine

/- A type of triggers under a slug that another one has. -/
def impostor : TriggerType :=
  { name := "ImpostorTrigger"
    slug := " crm/transaction_updated\n"
    event := "something_else" }

/- A type of conditions under a slug that another one has. -/
def alternative : StepType :=
  { Builtin.transactionField with
    name := "AlternativeTransactionField" }

/- Calls that register types under slugs of others. -/
def rivals : List Registration := [
  .trigger (.item (.trigger Builtin.transactionUpdated)),
  .step (.item (.step Builtin.transactionField)),
  .trigger (.item (.trigger impostor)),
  .step (.item (.step Builtin.addContactLog)),
  .step (.item (.step alternative))
]

open scoped Bare in
/-
  The first of two triggers stays, and the second of two
  conditions takes the place of the first.
-/
theorem registries_follow_history_rivals :
    make 5 false .none = .ok { limit := 5 } ∧
      ∃ log e,
        registerAll rivals { limit := 5 } = (.ok log, e) ∧
        e.triggerTypes.lookup "crm/transaction_updated" =
          some Builtin.transactionUpdated ∧
        e.stepTypes.lookup "crm/condition/transaction_field" =
          some (.type alternative) ∧
        e.stepTypes.map Prod.fst =
          [ "crm/condition/transaction_field",
            "crm/add_contact_log" ] := by
  have hNew : make 5 false .none = .ok { limit := 5 } := rfl
  rcases registries_follow_history hNew rivals with
    ⟨log, e, hRan, -, -, -, hTriggers, hSteps, -, -, hOrder,
      -⟩
  have hLog :
      (registerAll rivals { limit := 5 }).1.map
          (fun log =>
            (Registered.triggers log,
              Registered.steps log)) =
        .ok
          ([ ("crm/transaction_updated",
              Builtin.transactionUpdated) ],
            [ ("crm/condition/transaction_field",
                .type Builtin.transactionField),
              ("crm/add_contact_log",
                .type Builtin.addContactLog),
              ("crm/condition/transaction_field",
                .type alternative) ]) := by
    rfl
  rw [hRan] at hLog
  rcases Prod.mk.inj (Except.ok.inj hLog) with
    ⟨hFirst, hThen⟩
  refine ⟨hNew, log, e, hRan, ?_, ?_, ?_⟩
  · rw [hTriggers, hFirst]
    rfl
  · rw [hSteps, hThen]
    rfl
  · rw [hOrder, hThen]
    rfl

end Engine

end EventFlow
