import EventFlow.Sample.Area

/-
  The areas of the types, and of all that they are made of.

  Key definitions include:
    * `Sample.typeAreas`
-/

------------------------------------------------------------
-- Types
------------------------------------------------------------

namespace EventFlow

namespace Sample

def triggerArea : Area :=
  area "crm_automation.automation.commons.triggers"
    (Builtin.triggers.map .trigger ++
      anyTrigger ::
      others ["annotations", "BUILTIN_TRIGGERS"])

def conditionArea : Area :=
  area "crm_automation.automation.commons.conditions"
    (Builtin.conditions.map .step ++
      .step Builtin.fieldCondition ::
      anyCondition ::
      others [
        "annotations",
        "Mapping",
        "Any",
        "ClassVar",
        "UnimplementedOperatorError",
        "_strict_equals",
        "BUILTIN_CONDITIONS"
      ])

def actionArea : Area :=
  area "crm_automation.automation.commons.actions"
    (Builtin.actions.map .step ++
      contactAction ::
      anyAction ::
      others [
        "annotations",
        "Mapping",
        "Any",
        "ClassVar",
        "get_args",
        "ContactLog",
        "ContactsDataAccess",
        "TagMode",
        "StepAttributeError",
        "BUILTIN_ACTIONS"
      ])

def triggerBaseArea : Area :=
  area "crm_automation.automation.triggers"
    (anyTrigger ::
      others [
        "annotations",
        "logging",
        "Mapping",
        "Enum",
        "TYPE_CHECKING",
        "Any",
        "ClassVar",
        "EventBus",
        "Subscription",
        "TriggerNotBound",
        "logger",
        "TriggerState"
      ])

def stepBaseArea : Area :=
  area "crm_automation.automation.steps"
    (anyStep ::
      anyCondition ::
      anyAction ::
      others [
        "annotations",
        "ABC",
        "abstractmethod",
        "Mapping",
        "Any",
        "ClassVar",
        "Protocol",
        "InvalidOperatorError",
        "StepAttributeError",
        "AutomationLogger",
        "StepContext"
      ])

def groupArea : Area :=
  group "crm_automation.automation.commons"
    (others ["actions", "conditions", "triggers"])

def engineArea : Area :=
  group "crm_automation.automation"
    (anyTrigger ::
      anyStep ::
      anyCondition ::
      anyAction ::
      others [
        "__all__",
        "AutomationEngine",
        "AutomationError",
        "AutomationLogger",
        "DispatchResult",
        "ErrorCode",
        "EventBus",
        "ExecutionResult",
        "StepDefinition",
        "StepOutcome",
        "TriggerState",
        "Workflow",
        "WorkflowDefinition",
        "WorkflowDefinitionStore",
        "create_engine",
        "load_workflows",
        "register_builtin_types",
        "bootstrap",
        "commons",
        "contacts",
        "definitions",
        "engine",
        "events",
        "exceptions",
        "logger",
        "steps",
        "triggers",
        "workflow"
      ])

def topArea : Area :=
  group "crm_automation"
    (others [
      "__all__",
      "__version__",
      "AutomationSettings",
      "automation",
      "cli",
      "config",
      "logging",
      "server"
    ])

/- The areas of the types. -/
def typeAreas : List Area := [
  triggerArea,
  conditionArea,
  actionArea,
  triggerBaseArea,
  stepBaseArea,
  groupArea,
  engineArea,
  topArea
]

end Sample

end EventFlow
