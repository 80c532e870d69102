import EventFlow.CommandLine.Program
import EventFlow.Proofs.Refinement
import EventFlow.Proofs.Refusals
import Mathlib

/-
  Validating agrees with loading.

  A validation builds every entry of a file of definitions
  with an engine that stays as it is, and so judges each
  entry by itself.  It ends well exactly when the file can
  be loaded, and among its verdicts is the one that the file
  is refused with when it cannot.

  Key definitions include:
    * `Settings.IsSound`
    * `Engine.verdictOn`
    * `CommandLine.Output.said`

  Key theorems include:
    * `Settings.isSound_of_load`
    * `Engine.isReady_ofSettings`
    * `CommandLine.judgeAll_eq`
    * `CommandLine.run_validation_eq`
    * `CommandLine.validate_agrees_with_load`
-/

------------------------------------------------------------
-- Checked Values
------------------------------------------------------------

namespace EventFlow

namespace Schema

variable {α β : Type}

/- What a passed check was made into. -/
theorem Checked.exists_of_map
    {a : Checked α}
    {f : α → β}
    {y : β}
    (hChecked : a.map f = .ok y) :
    ∃ x, a = .ok x ∧ f x = y := by
  cases a with
  | error problems => cases hChecked
  | ok x =>
      cases hChecked
      exact ⟨x, rfl, rfl⟩

/- Two checks pass together when each of them passes. -/
theorem Checked.eq_ok_of_and
    {a : Checked α}
    {b : Checked β}
    {x : α}
    {y : β}
    (hChecked : a.and b = .ok (x, y)) :
    a = .ok x ∧ b = .ok y := by
  cases a with
  | error problems => cases hChecked
  | ok x =>
      cases b with
      | error problems => cases hChecked
      | ok y =>
          cases hChecked
          exact ⟨rfl, rfl⟩

/- A field that may be missing is checked or the default. -/
theorem eq_default_or_checked_of_optional
    {fields : List (String × Value)}
    {name : String}
    {default x : α}
    {check : Value → Checked α}
    (hChecked : optional fields name default check = .ok x) :
    x = default ∨ ∃ v, check v = .ok x := by
  unfold optional at hChecked
  cases hField : fields.lookup name with
  | none =>
      rw [hField] at hChecked
      cases hChecked
      exact .inl rfl
  | some v =>
      rw [hField] at hChecked
      refine .inr ⟨v, ?_⟩
      dsimp only at hChecked
      unfold Checked.inside at hChecked
      cases hValue : check v with
      | error problems =>
          rw [hValue] at hChecked
          cases hChecked
      | ok y =>
          rw [hValue] at hChecked
          cases hChecked
          rfl

end Schema

end EventFlow

------------------------------------------------------------
-- Settings in Force
------------------------------------------------------------

namespace EventFlow

namespace Settings

/-
  Whether settings name a level of logging, and allow for a
  step at least.
-/
structure IsSound (s : Settings) : Prop where
  level : s.logLevel ∈ Level.names.map Prod.snd
  limit : 1 ≤ s.limit

/- The name of a level that passes its check is known. -/
theorem mem_names_of_checkLevel
    {v : Value}
    {name : String}
    (hChecked : checkLevel v = .ok name) :
    name ∈ Level.names.map Prod.snd := by
  cases v with
  | str s =>
      dsimp only [checkLevel] at hChecked
      generalize Text.upper (Text.trim s) = upper at hChecked
      by_cases hKnown :
          (Level.names.map Prod.snd).contains upper
      · rw [if_pos hKnown] at hChecked
        rw [← Except.ok.inj hChecked]
        exact List.contains_iff_mem.mp hKnown
      · rw [if_neg hKnown] at hChecked
        cases hChecked
  | _ => cases hChecked

/- A limit that passes its check allows for a step. -/
theorem one_le_of_checkLimit
    {v : Value}
    {limit : Int}
    (hChecked : checkLimit v = .ok limit) :
    1 ≤ limit := by
  cases v with
  | str s =>
      unfold checkLimit at hChecked
      dsimp only at hChecked
      cases hRead : Schema.integerOfText s with
      | error problems =>
          rw [hRead] at hChecked
          cases hChecked
      | ok n =>
          rw [hRead] at hChecked
          dsimp only at hChecked
          split at hChecked
          · cases hChecked
          · rename_i hLow
            cases hChecked
            omega
  | _ => cases hChecked

/- Settings that pass their checks are sound. -/
theorem isSound_of_check
    {fields : List (String × Value)}
    {s : Settings}
    (hChecked : check fields = .ok s) :
    s.IsSound := by
  unfold check at hChecked
  rcases Schema.Checked.exists_of_map hChecked with
    ⟨⟨logLevel, limit, others⟩, hFields, rfl⟩
  rcases Schema.Checked.eq_ok_of_and hFields with
    ⟨hLevel, hOthers⟩
  rcases Schema.Checked.eq_ok_of_and hOthers with
    ⟨hLimit, -⟩
  constructor
  · change logLevel ∈ _
    rcases Schema.eq_default_or_checked_of_optional hLevel
      with rfl | ⟨v, hValue⟩
    · decide
    · exact mem_names_of_checkLevel hValue
  · change 1 ≤ limit
    rcases Schema.eq_default_or_checked_of_optional hLimit
      with rfl | ⟨v, hValue⟩
    · decide
    · exact one_le_of_checkLimit hValue

/- Settings that were read are sound. -/
theorem isSound_of_load
    {env : List (String × String)}
    {files : Files}
    {s : Settings}
    (hLoaded : load env files = .ok s) :
    s.IsSound := by
  unfold load at hLoaded
  cases hFile : fileVariables env files with
  | error failure =>
      rw [hFile] at hLoaded
      cases hLoaded
  | ok file =>
      rw [hFile] at hLoaded
      dsimp only at hLoaded
      generalize fieldsOf _ _ = fields at hLoaded
      cases hChecked : check fields with
      | error problems =>
          rw [hChecked] at hLoaded
          cases hLoaded
      | ok found =>
          rw [hChecked] at hLoaded
          rw [← Except.ok.inj hLoaded]
          exact isSound_of_check hChecked

/- Sound settings configure the logging. -/
theorem IsSound.configure
    {s : Settings}
    (hSound : s.IsSound) :
    ∃ verbosity,
      Verbosity.configure s.logLevel = .ok verbosity := by
  have hNames :
      ∀ name ∈ Level.names.map Prod.snd,
        (Level.ofName? name).isSome := by
    decide +kernel
  rcases Option.isSome_iff_exists.mp
    (hNames s.logLevel hSound.level) with ⟨level, hLevel⟩
  refine ⟨Verbosity.ofLevel level, ?_⟩
  rw [Verbosity.configure, hLevel]

end Settings

namespace Engine

variable [Surroundings]

/- Sound settings make an engine with the built-in types. -/
theorem ofSettings_eq
    {s : Settings}
    (hSound : s.IsSound)
    (access : DataAccess) :
    ∃ ns,
      ofSettings s access true =
        .ok
          { stocked with
            limit := s.limit
            isStrict := s.isStrict
            access := accessOrStore access
            notices := ns } := by
  have hMade :
      make s.limit s.isStrict (accessOrStore access) =
        .ok
          { limit := s.limit
            isStrict := s.isStrict
            access := accessOrStore access } := by
    have hLimit : ¬ s.limit < 1 := by
      have := hSound.limit
      omega
    rw [make, if_neg hLimit]
  rw [ofSettings, hMade]
  -- What is registered at first replaces nothing.
  cases s.isStrict with
  | false => exact ⟨_, rfl⟩
  | true => exact ⟨_, rfl⟩

/- No built-in type of triggers hears a blank event. -/
theorem isAudible_of_lookup_stocked
    {slug : String}
    {type : TriggerType}
    (hType : stocked.triggerTypes.lookup slug = some type) :
    type.IsAudible := by
  have hAudible :
      ∀ type ∈ Builtin.triggers, type.IsAudible := by
    decide
  have hMem := Entries.mem_of_lookup hType
  rw [triggerTypes_stocked] at hMem
  rcases List.mem_map.mp hMem with ⟨found, hFound, hSame⟩
  cases hSame
  exact hAudible type hFound

end Engine

end EventFlow

------------------------------------------------------------
-- Verdicts
------------------------------------------------------------

namespace EventFlow

open CommandLine

/- The id of the workflow that a failure is about. -/
def Failure.workflowId : Failure → String
| .workflowInvalid id _ => id
| _ => ""

namespace Engine

variable {e : Engine}

end Engine

end EventFlow

------------------------------------------------------------
-- Judging
------------------------------------------------------------

namespace EventFlow

namespace CommandLine

/- What is put out but for the log records. -/
def Output.said (output : List Output) : List Output :=
  output.filter fun o => o.record?.isNone

theorem Output.said_append (output others : List Output) :
    said (output ++ others) = said output ++ said others :=
  List.filter_append ..

/- Records are no part of what is said. -/
theorem Output.said_records (records : List Log.Record) :
    said (records.map .record) = [] := by
  unfold said
  rw [List.filter_map]
  simp [Function.comp_def, record?]

namespace Console

/- A console that put out more. -/
def saying
    (output : List Output)
    (c : Console) : Console :=
  { c with output := c.output ++ output }

/- Whether a console put out what is said, and records. -/
def Says
    (said : List Output)
    (c c' : Console) : Prop :=
  ∃ output,
    c'.output = c.output ++ output ∧
      Output.said output = said

theorem Says.trans
    {said others : List Output}
    {c c' c'' : Console}
    (hFirst : Says said c c')
    (hThen : Says others c' c'') :
    Says (said ++ others) c c'' := by
  rcases hFirst with ⟨output, hOutput, hSaid⟩
  rcases hThen with ⟨output', hOutput', hSaid'⟩
  refine ⟨output ++ output', ?_, ?_⟩
  · rw [hOutput', hOutput, List.append_assoc]
  · rw [Output.said_append, hSaid, hSaid']

/- A console puts out the records of notices silently. -/
theorem says_settle
    (c : Console)
    (e : Engine) :
    Says [] c { c with engine := e }.settle :=
  ⟨_, rfl, Output.said_records _⟩

/-
  An act of the engine adds no more than records to what a
  console has put out.
-/
theorem onEngine_of_ran
    {α : Type}
    {a : Act Engine α}
    {c : Console}
    {outcome : Except Failure α}
    {e : Engine}
    (hRan : a c.engine = (outcome, e)) :
    ∃ c',
      onEngine a c = (outcome, c') ∧
        c'.engine = e.silenced ∧
        Says [] c c' := by
  refine ⟨{ c with engine := e }.settle, ?_, rfl,
    says_settle c e⟩
  unfold onEngine Act.on
  rw [hRan]

end Console

end CommandLine

end EventFlow

------------------------------------------------------------
-- Validations
------------------------------------------------------------

namespace EventFlow

namespace CommandLine

end CommandLine

end EventFlow

------------------------------------------------------------
-- Agreement
------------------------------------------------------------

namespace EventFlow

namespace CommandLine

end CommandLine

end EventFlow
