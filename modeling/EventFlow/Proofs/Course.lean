import EventFlow.Catalog.Builtin
import EventFlow.Contact
import EventFlow.Definition.Basic
import EventFlow.Notice
import EventFlow.Proofs.Acts
import EventFlow.Workflow.Basic
import Mathlib.Data.List.Basic

/-
  The course of a definition on a payload.

  A definition whose steps are of the built-in types says by
  itself which steps are visited on a payload, whether their
  conditions are met, and what becomes of the contacts.  The
  course is what it says: no engine, no made step and no
  record of the visit takes part in it.

  Key definitions include:
    * `StepDefinition.performed`
    * `StepDefinition.successor`
    * `Course`
    * `Course.Ending`
    * `Course.Ends`

  Key theorems include:
    * `Course.comparable`
    * `Course.ends_unique`
    * `Course.met_isSome`
    * `Course.acted`
-/

------------------------------------------------------------
-- Attributes
------------------------------------------------------------

namespace EventFlow

namespace StepDefinition

/- The value of an attribute that a step cannot do without. -/
def needed
    (s : StepDefinition)
    (name : String) : Except Failure Value :=
  match s.attributes.lookup name with
  | some v => .ok v
  | none => .error (.attributeMissing s.slug name)

/- The value of an attribute, or another value. -/
def given
    (s : StepDefinition)
    (name : String)
    (default : Value) : Value :=
  (s.attributes.lookup name).getD default

/-
  The contact that an action is about: the configured one,
  or else the one that the payload names.
-/
def subject
    (s : StepDefinition)
    (payload : Value) : Except Failure Value :=
  match s.given "contact_id" .null, payload.fieldD "id" with
  | .null, .null =>
      .error (.attributeMissing s.slug "contact_id")
  | .null, v => .ok v
  | v, _ => .ok v

end StepDefinition

end EventFlow

------------------------------------------------------------
-- Meaning of the Built-In Types
------------------------------------------------------------

namespace EventFlow

namespace Builtin

/- The built-in type of steps that has a slug. -/
def typeOf? (slug : String) : Option StepType :=
  steps.find? (·.slug == slug)

/- Whether a value is an operator of field conditions. -/
def isOperator (v : Value) : Bool :=
  fieldCondition.allowsOperator v

/- A type that lists these operators allows no others. -/
theorem allowsOperator_eq_isOperator
    {type : StepType}
    (hOperators :
      type.validOperators = FieldCondition.operators)
    (v : Value) :
    type.allowsOperator v = isOperator v := by
  unfold isOperator StepType.allowsOperator
  rw [hOperators]
  rfl

end Builtin

namespace StepDefinition

/-
  Whether a field condition is met by a payload.  Only where
  the payload has the field does the operator matter.
-/
def verdict
    (s : StepDefinition)
    (payload : Value) : Except Failure Bool := do
  let field ← s.needed "field"
  let operator ← s.needed "operator"
  let expected ← s.needed "value"
  match ← FieldCondition.actual? payload field with
  | none => return false
  | some actual =>
      if Builtin.isOperator operator then
        FieldCondition.evaluate operator actual expected
      else
        .error (.operatorInvalid operator)

/- The log entry that an action adds. -/
def log (s : StepDefinition) : Except Failure ContactLog := do
  let type ← s.needed "type"
  ContactLog.ofFields [
    ("type", type),
    ("short_description",
      s.given "short_description" (.str "")),
    ("long_description",
      s.given "long_description" (.str ""))
  ]

/- Add a log entry to a contact. -/
def logged
    (s : StepDefinition)
    (payload : Value)
    (access : DataAccess) : Except Failure DataAccess := do
  let contact ← s.subject payload
  let log ← s.log
  access.addLog contact log

/- The mode in which an action updates tags. -/
def tagMode (s : StepDefinition) : Except Failure Value := do
  let mode ← s.needed "mode"
  if (TagMode.ofValue? mode).isNone then
    .error (.attributeInvalid s.slug "mode")
  else
    return mode

/- The tags of an action: a text is a single tag. -/
def tags (s : StepDefinition) :
    Except Failure (List Value) := do
  match ← s.needed "tags" with
  | .str tag => return [.str tag]
  | v => v.items

/- Update the tags of a contact. -/
def tagged
    (s : StepDefinition)
    (payload : Value)
    (access : DataAccess) : Except Failure DataAccess := do
  let contact ← s.subject payload
  let mode ← s.tagMode
  let tags ← s.tags
  (access.updateTags contact (.list tags) mode).map Prod.fst

/-
  What a step of a built-in type does on a payload: whether
  its condition is met, if it is one, and the data access
  afterwards.
-/
def performed
    (s : StepDefinition)
    (payload : Value)
    (access : DataAccess) :
    Except Failure (Option Bool × DataAccess) :=
  match (Builtin.typeOf? s.slug).map StepType.behavior with
  | some (.compareField _) =>
      (s.verdict payload).map fun met => (some met, access)
  | some .addContactLog =>
      (s.logged payload access).map fun access =>
        (none, access)
  | some .changeContactTags =>
      (s.tagged payload access).map fun access =>
        (none, access)
  | _ => .error (.slugUnknown .step s.slug)

/-
  The successor of a step: of a condition the one for its
  outcome, of an action its only one.
-/
def successor (s : StepDefinition) :
    Option Bool → Option String
| none => s.nextStep
| some true => s.nextStepTrue
| some false => s.nextStepFalse

end StepDefinition

end EventFlow

------------------------------------------------------------
-- Courses
------------------------------------------------------------

namespace EventFlow

/-
  A part of the course of a definition: from a step and a
  data access on, the steps visited, the step to be visited
  next, and the data access by then.
-/
inductive Course
    (d : WorkflowDefinition)
    (payload : Value) :
    Option String → DataAccess →
      List StepOutcome →
        Option String → DataAccess → Prop where
| stay
    (next : Option String)
    (access : DataAccess) :
    Course d payload next access [] next access
| step
    {id : String}
    {s : StepDefinition}
    {met : Option Bool}
    {last : Option String}
    {access₁ access₂ access₃ : DataAccess}
    {path : List StepOutcome}
    (hDefined : d.steps.lookup id = some s)
    (hPerformed :
      s.performed payload access₁ = .ok (met, access₂))
    (hRest :
      Course d payload (s.successor met) access₂
        path last access₃) :
    Course d payload (some id) access₁
      ({ stepId := id
         slug := s.slug
         met := met.map .bool } :: path)
      last access₃

namespace Course

/- How the visit to the steps of a definition can end. -/
inductive Ending where
| finished
    (path : List StepOutcome)
    (access : DataAccess)
| failed
    (path : List StepOutcome)
    (stepId slug : String)
    (failure : Failure)
    (access : DataAccess)
| exceeded
    (path : List StepOutcome)
    (stepId : String)
    (access : DataAccess)

/-
  The ending of a visit under a limit: the course comes to
  its end within the limit, or comes to a step that fails
  before the limit is used up, or still has a step to visit
  when it is.
-/
inductive Ends
    (d : WorkflowDefinition)
    (payload : Value)
    (start : DataAccess)
    (limit : Nat) : Ending → Prop where
| finished
    {path : List StepOutcome}
    {access : DataAccess}
    (hCourse :
      Course d payload (some d.initialStep) start
        path none access)
    (hLimit : path.length ≤ limit) :
    Ends d payload start limit (.finished path access)
| failed
    {path : List StepOutcome}
    {id : String}
    {s : StepDefinition}
    {failure : Failure}
    {access : DataAccess}
    (hCourse :
      Course d payload (some d.initialStep) start
        path (some id) access)
    (hLimit : path.length < limit)
    (hDefined : d.steps.lookup id = some s)
    (hPerformed :
      s.performed payload access = .error failure) :
    Ends d payload start limit
      (.failed path id s.slug failure access)
| exceeded
    {path : List StepOutcome}
    {id : String}
    {access : DataAccess}
    (hCourse :
      Course d payload (some d.initialStep) start
        path (some id) access)
    (hLimit : path.length = limit) :
    Ends d payload start limit (.exceeded path id access)

namespace Ending

/- The steps that were executed. -/
def path : Ending → List StepOutcome
| .finished path _ => path
| .failed path _ _ _ _ => path
| .exceeded path _ _ => path

/- The step that was to be executed next, if there is one. -/
def last : Ending → Option String
| .finished _ _ => none
| .failed _ stepId _ _ _ => some stepId
| .exceeded _ stepId _ => some stepId

/- The data access at the end. -/
def access : Ending → DataAccess
| .finished _ access => access
| .failed _ _ _ _ access => access
| .exceeded _ _ access => access

/- What a run with a limit comes to. -/
def outcome
    (run : Run)
    (limit : Int) : Ending → Except Failure ExecutionResult
| .finished path _ =>
    .ok
      { workflowId := run.workflowId
        trigger := run.trigger
        correlationId := run.correlationId
        steps := path }
| .failed _ _ _ failure _ => .error failure
| .exceeded _ _ _ => .error (.stepLimit run.workflowId limit)

/- What is told of a run with a limit. -/
def told
    (run : Run)
    (limit : Int) : Ending → List Notice
| .finished path _ =>
    [.walkStarted run, .walkFinished run path.length]
| .failed _ stepId slug failure _ =>
    [.walkStarted run, .stepFailed run stepId slug failure]
| .exceeded _ _ _ =>
    [.walkStarted run, .limitReached run limit]

end Ending

end Course

end EventFlow

------------------------------------------------------------
-- Determinacy
------------------------------------------------------------

namespace EventFlow

namespace Course

variable {d : WorkflowDefinition}
variable {payload : Value}
variable {next last last' : Option String}
variable {start access access' : DataAccess}
variable {path path' : List StepOutcome}
variable {limit : Nat}

/- A course of one step more is not at its end. -/
theorem step_of_ne_nil
    (hCourse : Course d payload next start path last access)
    (hPath : path ≠ []) :
    ∃ id s met access₂,
      next = some id ∧
        d.steps.lookup id = some s ∧
          s.performed payload start = .ok (met, access₂) := by
  cases hCourse with
  | stay => exact absurd rfl hPath
  | step hDefined hPerformed hRest =>
      exact ⟨_, _, _, _, rfl, hDefined, hPerformed⟩

/- Of two courses from one point, one goes on to the other. -/
theorem comparable
    (hFirst : Course d payload next start path last access)
    (hSecond :
      Course d payload next start path' last' access') :
    (∃ rest,
      path' = path ++ rest ∧
        Course d payload last access rest last' access') ∨
    (∃ rest,
      path = path' ++ rest ∧
        Course d payload last' access' rest last access) := by
  induction hFirst generalizing path' with
  | stay next start => exact .inl ⟨path', rfl, hSecond⟩
  | @step id s met last access₁ access₂ access₃ path
      hDefined hPerformed hRest ih =>
      cases hSecond with
      | stay =>
          exact .inr ⟨_, rfl,
            .step hDefined hPerformed hRest⟩
      | step hDefined' hPerformed' hRest' =>
          rw [hDefined] at hDefined'
          cases hDefined'
          rw [hPerformed] at hPerformed'
          cases hPerformed'
          rcases ih hRest' with
            ⟨rest, rfl, hOn⟩ | ⟨rest, rfl, hOn⟩
          · exact .inl ⟨rest, rfl, hOn⟩
          · exact .inr ⟨rest, rfl, hOn⟩

/- Whether a course of a length goes no further. -/
def Halts
    (d : WorkflowDefinition)
    (payload : Value)
    (limit length : Nat)
    (last : Option String)
    (access : DataAccess) : Prop :=
  length = limit ∨
    ∀ id s met access₂,
      last = some id →
        d.steps.lookup id = some s →
          s.performed payload access ≠ .ok (met, access₂)

/- A course that halts has nothing behind it in the limit. -/
theorem rest_eq_nil
    {rest : List StepOutcome}
    (hHalts :
      Halts d payload limit path.length last access)
    (hRest :
      Course d payload last access rest last' access')
    (hLimit : (path ++ rest).length ≤ limit) :
    rest = [] := by
  by_contra hSome
  rcases hHalts with hFull | hStuck
  · have hPos := List.length_pos_of_ne_nil hSome
    rw [List.length_append] at hLimit
    omega
  · rcases hRest.step_of_ne_nil hSome with
      ⟨id, s, met, access₂, hNext, hDefined, hPerformed⟩
    exact hStuck id s met access₂ hNext hDefined hPerformed

/- Two courses that halt in the limit are one. -/
theorem halts_unique
    (hFirst : Course d payload next start path last access)
    (hSecond :
      Course d payload next start path' last' access')
    (hLimit : path.length ≤ limit)
    (hLimit' : path'.length ≤ limit)
    (hHalts :
      Halts d payload limit path.length last access)
    (hHalts' :
      Halts d payload limit path'.length last' access') :
    path = path' ∧ last = last' ∧ access = access' := by
  rcases comparable hFirst hSecond with
    ⟨rest, rfl, hOn⟩ | ⟨rest, rfl, hOn⟩
  · have hNil := rest_eq_nil hHalts hOn hLimit'
    subst hNil
    cases hOn
    exact ⟨(List.append_nil _).symm, rfl, rfl⟩
  · have hNil := rest_eq_nil hHalts' hOn hLimit
    subst hNil
    cases hOn
    exact ⟨List.append_nil _, rfl, rfl⟩

/- An ending is the end of a course that halts there. -/
theorem Ends.halts
    {ending : Ending}
    (hEnds : Ends d payload start limit ending) :
    Course d payload (some d.initialStep) start
        ending.path ending.last ending.access ∧
      ending.path.length ≤ limit ∧
        Halts d payload limit ending.path.length
          ending.last ending.access := by
  cases hEnds with
  | finished hCourse hLimit =>
      refine ⟨hCourse, hLimit, .inr ?_⟩
      intro id s met access₂ hNext
      cases hNext
  | failed hCourse hLimit hDefined hPerformed =>
      refine ⟨hCourse, Nat.le_of_lt hLimit, .inr ?_⟩
      intro id s met access₂ hNext hDefined' hPerformed'
      cases hNext
      rw [hDefined] at hDefined'
      cases hDefined'
      rw [Ending.access, hPerformed] at hPerformed'
      cases hPerformed'
  | exceeded hCourse hLimit =>
      exact ⟨hCourse, Nat.le_of_eq hLimit, .inl hLimit⟩

/- A visit under a limit ends in one way only. -/
theorem ends_unique
    {ending ending' : Ending}
    (hEnds : Ends d payload start limit ending)
    (hEnds' : Ends d payload start limit ending') :
    ending = ending' := by
  rcases hEnds.halts with ⟨hCourse, hWithin, hHalts⟩
  rcases hEnds'.halts with ⟨hCourse', hWithin', hHalts'⟩
  rcases halts_unique hCourse hCourse' hWithin hWithin'
    hHalts hHalts' with ⟨hPath, hLast, hAccess⟩
  cases hEnds with
  | finished _ _ =>
      cases hEnds' with
      | finished _ _ =>
          cases hPath
          cases hAccess
          rfl
      | failed _ _ _ _ => cases hLast
      | exceeded _ _ => cases hLast
  | failed _ hLimit hDefined hPerformed =>
      cases hEnds' with
      | finished _ _ => cases hLast
      | failed _ _ hDefined' hPerformed' =>
          cases hPath
          cases hAccess
          cases hLast
          rw [hDefined] at hDefined'
          cases hDefined'
          rw [hPerformed] at hPerformed'
          cases hPerformed'
          rfl
      | exceeded _ hLimit' =>
          cases hPath
          exact absurd hLimit' (Nat.ne_of_lt hLimit)
  | exceeded _ hLimit =>
      cases hEnds' with
      | finished _ _ => cases hLast
      | failed _ hLimit' _ _ =>
          cases hPath
          exact absurd hLimit (Nat.ne_of_lt hLimit')
      | exceeded _ _ =>
          cases hPath
          cases hAccess
          cases hLast
          rfl

end Course

end EventFlow

------------------------------------------------------------
-- What a Course Visits
------------------------------------------------------------

namespace EventFlow

namespace Builtin

/- Whether a slug is that of a built-in condition. -/
def isCondition (slug : String) : Bool :=
  (typeOf? slug).any fun type => type.variant = .condition

end Builtin

namespace StepDefinition

variable {s : StepDefinition}
variable {payload : Value}
variable {access access' : DataAccess}
variable {met : Option Bool}

/- The behaviours that a performed step can have. -/
theorem behavior_of_performed
    (hPerformed :
      s.performed payload access = .ok (met, access')) :
    ∃ type,
      Builtin.typeOf? s.slug = some type ∧
        ((∃ subject verdict,
          type.behavior = .compareField subject ∧
            met = some verdict ∧ access' = access) ∨
        (type.behavior = .addContactLog ∧ met = none ∧
          s.logged payload access = .ok access') ∨
        (type.behavior = .changeContactTags ∧ met = none ∧
          s.tagged payload access = .ok access')) := by
  unfold performed at hPerformed
  cases hType : Builtin.typeOf? s.slug with
  | none =>
      rw [hType] at hPerformed
      cases hPerformed
  | some type =>
      refine ⟨type, rfl, ?_⟩
      rw [hType, Option.map_some] at hPerformed
      cases hBehavior : type.behavior with
      | compareField subject =>
          rw [hBehavior] at hPerformed
          rcases Outcome.map_eq_ok hPerformed with
            ⟨verdict, -, hEq⟩
          cases hEq
          exact .inl ⟨subject, verdict, rfl, rfl, rfl⟩
      | addContactLog =>
          rw [hBehavior] at hPerformed
          rcases Outcome.map_eq_ok hPerformed with
            ⟨after, hLogged, hEq⟩
          cases hEq
          exact .inr (.inl ⟨rfl, rfl, hLogged⟩)
      | changeContactTags =>
          rw [hBehavior] at hPerformed
          rcases Outcome.map_eq_ok hPerformed with
            ⟨after, hTagged, hEq⟩
          cases hEq
          exact .inr (.inr ⟨rfl, rfl, hTagged⟩)
      | _ =>
          rw [hBehavior] at hPerformed
          cases hPerformed

/- Exactly conditions are met or not met. -/
theorem isSome_of_performed
    (hPerformed :
      s.performed payload access = .ok (met, access')) :
    met.isSome = Builtin.isCondition s.slug := by
  rcases behavior_of_performed hPerformed with
    ⟨type, hType, hBehavior⟩
  unfold Builtin.isCondition
  rw [hType, Option.any_some, StepType.variant]
  rcases hBehavior with
    ⟨subject, verdict, hIs, rfl, -⟩ | ⟨hIs, rfl, -⟩ |
      ⟨hIs, rfl, -⟩
  · rw [hIs]; rfl
  · rw [hIs]; rfl
  · rw [hIs]; rfl

/- A condition leaves the data access as it is. -/
theorem access_of_performed
    {verdict : Bool}
    (hPerformed :
      s.performed payload access =
        .ok (some verdict, access')) :
    access' = access := by
  rcases behavior_of_performed hPerformed with
    ⟨type, hType,
      ⟨subject, verdict, -, -, hSame⟩ | ⟨-, hNone, -⟩ |
        ⟨-, hNone, -⟩⟩
  · exact hSame
  · cases hNone
  · cases hNone

end StepDefinition

namespace WorkflowDefinition

/- What a visited step makes of the data access. -/
def acted
    (d : WorkflowDefinition)
    (payload : Value)
    (access : DataAccess)
    (o : StepOutcome) : Except Failure DataAccess :=
  match d.steps.lookup o.stepId with
  | some s => (s.performed payload access).map Prod.snd
  | none => .error (.keyUnknown (.str o.stepId))

end WorkflowDefinition

namespace Course

variable {d : WorkflowDefinition}
variable {payload : Value}
variable {next last : Option String}
variable {start access : DataAccess}
variable {path : List StepOutcome}

/- Exactly the conditions on a course have an outcome. -/
theorem met_isSome
    (hCourse :
      Course d payload next start path last access) :
    ∀ o ∈ path, o.met.isSome = Builtin.isCondition o.slug := by
  induction hCourse with
  | stay => simp
  | step hDefined hPerformed hRest ih =>
      rw [List.forall_mem_cons]
      refine ⟨?_, ih⟩
      rw [Option.isSome_map,
        StepDefinition.isSome_of_performed hPerformed]

/-
  The data access at the end of a course is made by its
  actions alone, each applied once and in their order.
-/
theorem acted
    (hCourse :
      Course d payload next start path last access) :
    (path.filter (·.met.isNone)).foldlM
      (d.acted payload) start = .ok access := by
  induction hCourse with
  | stay => rfl
  | @step id s met last access₁ access₂ access₃ path
      hDefined hPerformed hRest ih =>
      cases met with
      | some verdict =>
          have hSame :=
            StepDefinition.access_of_performed hPerformed
          subst hSame
          exact ih
      | none =>
          have hActed :
              d.acted payload access₁
                { stepId := id, slug := s.slug } =
                  .ok access₂ := by
            simp [WorkflowDefinition.acted, hDefined,
              hPerformed, Except.map]
          simp only [Option.map_none, Option.isNone_none,
            List.filter_cons_of_pos, List.foldlM_cons,
            hActed]
          exact ih

end Course

end EventFlow
