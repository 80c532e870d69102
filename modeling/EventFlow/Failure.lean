import EventFlow.Files
import EventFlow.Ingress.TargetFault
import EventFlow.Json.Parser
import EventFlow.Log.Template
import EventFlow.Log.Timestamp
import EventFlow.Schema
import EventFlow.Text.Utf8

/-
  What can go wrong, by cause.

  Every failure of the library is a value of `Failure`, and
  `Failure.message` gives its wording.  The first groups are
  the failures of the engine itself, which carry a stable
  code for callers; the others concern the shape of data and
  the world around the engine.

  Key definitions include:
    * `Role`
    * `Failure`
    * `Failure.message`
    * `Failure.code?`
    * `Failure.isInterrupt`
-/

------------------------------------------------------------
-- Causes
------------------------------------------------------------

namespace EventFlow

/- The two roles that a registered type can play. -/
inductive Role where
| trigger
| step
deriving DecidableEq, Repr

namespace Role

/- The name of a role at the start of a sentence. -/
def title : Role → String
| .trigger => "Trigger"
| .step => "Step"

/- The name of a role. -/
def name : Role → String
| .trigger => "trigger"
| .step => "step"

end Role

/- A cause of failure. -/
inductive Failure where
-- Registration of types.
| typeMissing (role : Role) (identifier : String)
| typeUnfit (role : Role) (identifier : String)
| slugBlank (role : Role)
| slugTaken (role : Role) (slug : String)
-- Lookup of types.
| slugUnknown (role : Role) (slug : String)
| stepUnusable (slug : String)
-- Execution of steps and workflows.
| operatorInvalid (operator : Value)
| operatorUnhandled (operator : Value)
| attributeMissing (slug : String) (name : String)
| attributeInvalid (slug : String) (name : String)
| triggerUnbound (slug : String)
| workflowInvalid (id : String) (problems : List String)
| stepLimit (id : String) (limit : Int)
-- Settings of an engine and its bus.
| limitTooLow
| eventBlank
| levelUnknown (name : String)
| accessMissing
| contextMissing (slug : String)
| tagModeUnknown (mode : Value)
-- Shapes of data.
| record (title : String) (problems : List Schema.Problem)
| undecodable (fault : Utf8.Fault)
| unusable (fault : Files.Fault)
| unreadable (fault : Json.Fault)
| notFinite
| storedTooDeep
| keyUnknown (key : Value)
| notHashable (kind : String)
| notIterable (kind : String)
| notUnpackable (kind : String)
| notSearchable (kind : String)
| notText (kind : String)
| memberMissing (kind : String) (name : String)
| pairShape (index : Nat)
| pairLength (index : Nat) (length : Nat)
-- Log records.
| channelNotText
| fieldLocked (name : String)
| unfilled (fault : Template.Fault)
| untimed (fault : Timestamp.Fault)
-- Requests.
| misdirected (fault : Ingress.TargetFault)
-- Types that cannot be used.
| relativePath (part : String)
| typeAbstract (name : String) (missing : List String)
| notType
| triggerTakesNoData
| typeTakesNoData (name : String)
-- Scripted handlers and access to data.
| indexOutOfRange
| nestedTooDeep
| raised (kind : String) (message : String)

end EventFlow

------------------------------------------------------------
-- Wording
------------------------------------------------------------

namespace EventFlow

namespace Failure

/- The wording of a raised error. -/
def raisedMessage (kind message : String) : String :=
  if kind = "KeyError" then
    Text.quoted message
  else
    message

/- The wording of a failure. -/
def message : Failure → String
| .typeMissing role identifier =>
    role.title ++ " class " ++ identifier ++
      " does not exist"
| .typeUnfit role identifier =>
    role.title ++ " class " ++ identifier ++
      " does not implement the " ++ role.title ++ " interface"
| .slugBlank role =>
    "The " ++ role.name ++ " must have a non-empty slug"
| .slugTaken _ slug => "Slug already exists: " ++ slug
| .slugUnknown role slug =>
    role.title ++ " " ++ slug ++ " does not exist"
| .stepUnusable slug =>
    "Step class registered for " ++ slug ++ " does not exist"
| .operatorInvalid operator =>
    "Invalid operator: " ++ operator.text
| .operatorUnhandled operator =>
    "Valid but unimplemented operator: " ++ operator.text
| .attributeMissing slug name =>
    "Step " ++ slug ++ " is missing required attribute: " ++
      name
| .attributeInvalid slug name =>
    "Step " ++ slug ++
      " has an invalid value for attribute: " ++ name
| .triggerUnbound slug =>
    "Trigger " ++ slug ++ " is not bound to a workflow"
| .workflowInvalid id problems =>
    "Workflow " ++ id ++ " is invalid: " ++
      "; ".intercalate problems
| .stepLimit id limit =>
    "Workflow " ++ id ++ " exceeded the step limit of " ++
      toString limit
| .limitTooLow => "max_workflow_steps must be at least 1"
| .eventBlank => "event name is required"
| .levelUnknown name =>
    "Unknown level: " ++ Text.quoted name
| .accessMissing =>
    "No data access collaborator is configured on the engine"
| .contextMissing slug =>
    "Action " ++ slug ++ " has no engine context"
| .tagModeUnknown mode =>
    "Unsupported tag mode: " ++ mode.text
| .record title problems => Schema.report title problems
| .undecodable fault => fault.message
| .unusable fault => fault.message
| .unreadable fault => fault.message
| .notFinite =>
    "Out of range float values are not JSON compliant"
| .storedTooDeep => "Maximum serialization depth exceeded"
| .keyUnknown key => key.shown
| .notHashable kind => "unhashable type: '" ++ kind ++ "'"
| .notIterable kind =>
    "'" ++ kind ++ "' object is not iterable"
| .notUnpackable kind =>
    "Value after * must be an iterable, not " ++ kind
| .notSearchable kind =>
    "argument of type '" ++ kind ++ "' is not iterable"
| .notText kind =>
    "'in <string>' requires string as left operand, not " ++
      kind
| .memberMissing kind name =>
    "'" ++ kind ++ "' object has no attribute '" ++ name ++
      "'"
| .pairShape index =>
    "cannot convert dictionary update sequence element #" ++
      toString index ++ " to a sequence"
| .pairLength index length =>
    "dictionary update sequence element #" ++
      toString index ++ " has length " ++ toString length ++
      "; 2 is required"
| .channelNotText => "A logger name must be a string"
| .fieldLocked name =>
    Text.quoted
      ("Attempt to overwrite " ++ Text.quoted name ++
        " in LogRecord")
| .unfilled fault => fault.message
| .untimed fault => fault.message
| .misdirected fault => fault.message
| .relativePath part =>
    "the 'package' argument is required to perform a " ++
      "relative import for " ++ Text.quoted part
| .typeAbstract name missing =>
    "Can't instantiate abstract class " ++ name ++
      " with abstract method" ++
      (if missing.length = 1 then " " else "s ") ++
      ", ".intercalate missing
| .notType => "issubclass() arg 1 must be a class"
| .triggerTakesNoData =>
    "Trigger.__init__() takes 1 positional argument but 2 " ++
      "were given"
| .typeTakesNoData name => name ++ "() takes no arguments"
| .indexOutOfRange => "list index out of range"
| .nestedTooDeep => "maximum recursion depth exceeded"
| .raised kind message => raisedMessage kind message

end Failure

end EventFlow

------------------------------------------------------------
-- Codes and Kinds
------------------------------------------------------------

namespace EventFlow

namespace Failure

/- The stable code of a failure of the engine. -/
def code? : Failure → Option String
| .typeMissing role _ =>
    some (role.name ++ "_class_not_found")
| .typeUnfit role _ =>
    some (role.name ++ "_interface_missing")
| .slugBlank role => some (role.name ++ "_slug_empty")
| .slugTaken role _ => some (role.name ++ "_slug_exists")
| .slugUnknown role _ => some (role.name ++ "_not_found")
| .stepUnusable _ => some "step_class_missing"
| .operatorInvalid _ => some "condition_invalid_operator"
| .operatorUnhandled _ =>
    some "condition_operator_not_implemented"
| .attributeMissing _ _ => some "step_attribute_missing"
| .attributeInvalid _ _ => some "step_attribute_missing"
| .triggerUnbound _ => some "trigger_not_bound"
| .workflowInvalid _ _ => some "workflow_invalid"
| .stepLimit _ _ => some "workflow_step_limit_exceeded"
| _ => none

/- The kinds of raised errors that stop a whole delivery. -/
def interruptKinds : List String :=
  ["KeyboardInterrupt", "SystemExit", "GeneratorExit"]

/-
  Whether a failure is no failure of one subscriber but a
  request to stop.
-/
def isInterrupt : Failure → Bool
| .raised kind _ => interruptKinds.contains kind
| _ => false

end Failure

end EventFlow
