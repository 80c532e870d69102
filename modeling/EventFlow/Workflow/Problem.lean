import EventFlow.Definition.Basic
import EventFlow.Step.Type
import EventFlow.Value.Text

/-
  What is wrong with a definition.

  A definition of the right shape can still name types that
  are not registered, steps that are not defined, successors
  that its steps do not have, and attributes and triggers
  that the types of its steps do not allow.  Every such
  violation is one problem.

  Key definitions include:
    * `Workflow.Problem`
    * `Workflow.Problem.text`
    * `Workflow.stepProblems`
-/

------------------------------------------------------------
-- Problems
------------------------------------------------------------

namespace EventFlow

namespace Workflow

/- One violation. -/
inductive Problem where
| triggerUnknown (slug : String)
| initialUndefined (stepId : String)
| typeUnknown (stepId slug : String)
| branchesOfAction (stepId : String)
| successorOfCondition (stepId : String)
| operatorInvalid (stepId : String) (operator : Value)
| successorUndefined (stepId successor : String)
| attributeMissing (stepId name : String)
| triggerRefused (stepId slug trigger : String)

/- The wording of a problem. -/
def Problem.text : Problem → String
| .triggerUnknown slug =>
    "unknown trigger " ++ Text.quoted slug
| .initialUndefined stepId =>
    "initial step " ++ Text.quoted stepId ++
      " is not defined"
| .typeUnknown stepId slug =>
    "step " ++ Text.quoted stepId ++
      " uses unknown step type " ++ Text.quoted slug
| .branchesOfAction stepId =>
    "action " ++ Text.quoted stepId ++
      " cannot use conditional successors"
| .successorOfCondition stepId =>
    "condition " ++ Text.quoted stepId ++
      " must use next_step_true/next_step_false"
| .operatorInvalid stepId operator =>
    "condition " ++ Text.quoted stepId ++
      " uses invalid operator " ++ operator.shown
| .successorUndefined stepId successor =>
    "step " ++ Text.quoted stepId ++
      " points to undefined step " ++ Text.quoted successor
| .attributeMissing stepId name =>
    "step " ++ Text.quoted stepId ++
      " is missing required attribute " ++ Text.quoted name
| .triggerRefused stepId slug trigger =>
    "step " ++ Text.quoted stepId ++ " (" ++ slug ++
      ") does not allow trigger " ++ Text.quoted trigger

end Workflow

end EventFlow

------------------------------------------------------------
-- Problems of Steps
------------------------------------------------------------

namespace EventFlow

namespace Workflow

/- A problem, if it is there. -/
def problemIf
    (isThere : Bool)
    (problem : Problem) : List Problem :=
  if isThere then [problem] else []

/- The successors that the variant of a step has. -/
def successors
    (variant : Variant)
    (s : StepDefinition) : List String :=
  match variant with
  | .action => s.nextStep.toList
  | .condition => s.nextStepTrue.toList ++ s.nextStepFalse.toList
  | .plain => []

/- Successors that the variant of a step does not have. -/
def strayProblems
    (stepId : String)
    (variant : Variant)
    (s : StepDefinition) : List Problem :=
  match variant with
  | .action =>
      problemIf
        (s.nextStepTrue.isSome || s.nextStepFalse.isSome)
        (.branchesOfAction stepId)
  | .condition =>
      problemIf s.nextStep.isSome
        (.successorOfCondition stepId)
  | .plain => []

/- An operator that the type of a condition does not know. -/
def operatorProblems
    (stepId : String)
    (type : StepType)
    (s : StepDefinition) : List Problem :=
  match type.variant, s.attributes.lookup "operator" with
  | .condition, some operator =>
      problemIf
        (!operator.isNull && !type.allowsOperator operator)
        (.operatorInvalid stepId operator)
  | _, _ => []

/- Successors that are not defined. -/
def successorProblems
    (d : WorkflowDefinition)
    (stepId : String)
    (variant : Variant)
    (s : StepDefinition) : List Problem :=
  ((successors variant s).filter fun id => !d.hasStep id).map
    (.successorUndefined stepId)

/- Required attributes that are missing. -/
def attributeProblems
    (stepId : String)
    (type : StepType)
    (s : StepDefinition) : List Problem :=
  (type.requiredAttributes.filter fun name =>
    (s.attributes.lookup name).isNone).map
      (.attributeMissing stepId)

/- Triggers that the type of a step does not allow. -/
def refusedTriggers
    (d : WorkflowDefinition)
    (stepId : String)
    (type : StepType) : List Problem :=
  (d.triggers.filter fun trigger =>
    !type.allowsTrigger trigger).map
      (.triggerRefused stepId type.slug)

/- All problems of a step whose type is known. -/
def stepProblems
    (d : WorkflowDefinition)
    (stepId : String)
    (type : StepType)
    (s : StepDefinition) : List Problem :=
  strayProblems stepId type.variant s ++
    operatorProblems stepId type s ++
    successorProblems d stepId type.variant s ++
    attributeProblems stepId type s ++
    refusedTriggers d stepId type

end Workflow

end EventFlow
