import EventFlow.Sample.Area

/-
  The areas around the types: what runs workflows, what
  configures it, and the ways to reach it.

  Such an area has at most the types of which all others
  are made.

  Key definitions include:
    * `Sample.runningAreas`
    * `Sample.outerAreas`
-/

------------------------------------------------------------
-- What Runs Workflows
------------------------------------------------------------

namespace EventFlow

namespace Sample

def bootstrapArea : Area :=
  area "crm_automation.automation.bootstrap"
    (others [
      "AutomationEngine",
      "AutomationLogger",
      "AutomationSettings",
      "Any",
      "BUILTIN_ACTIONS",
      "BUILTIN_CONDITIONS",
      "BUILTIN_TRIGGERS",
      "EventBus",
      "InMemoryContactStore",
      "WorkflowDefinitionStore",
      "annotations",
      "create_engine",
      "load_workflows",
      "logger",
      "logging",
      "register_builtin_types"
    ])

def contactArea : Area :=
  area "crm_automation.automation.contacts"
    (others [
      "BaseModel",
      "ContactLog",
      "ContactsDataAccess",
      "Field",
      "InMemoryContactStore",
      "Literal",
      "Protocol",
      "TagMode",
      "UTC",
      "annotations",
      "datetime",
      "threading"
    ])

def definitionArea : Area :=
  area "crm_automation.automation.definitions"
    (others [
      "Any",
      "BaseModel",
      "ConfigDict",
      "Field",
      "Mapping",
      "Path",
      "StepDefinition",
      "ValidationError",
      "WorkflowDefinition",
      "WorkflowDefinitionStore",
      "WorkflowValidationError",
      "annotations",
      "coerce_definition",
      "json",
      "logger",
      "logging"
    ])

def registryArea : Area :=
  area "crm_automation.automation.engine"
    (anyTrigger ::
      anyStep ::
      others [
        "Any",
        "AutomationEngine",
        "AutomationLogger",
        "DEFAULT_MAX_WORKFLOW_STEPS",
        "ErrorCode",
        "EventBus",
        "Mapping",
        "NotFound",
        "SlugEmpty",
        "SlugExists",
        "StepClassNotFound",
        "StepInterfaceMissing",
        "StepNotFound",
        "TriggerInterfaceMissing",
        "TriggerNotFound",
        "Workflow",
        "WorkflowDefinition",
        "_implements",
        "_name",
        "_resolve",
        "annotations",
        "importlib",
        "inspect",
        "logger",
        "logging",
        "threading"
      ])

def eventArea : Area :=
  area "crm_automation.automation.events"
    (others [
      "Any",
      "Callable",
      "DispatchResult",
      "EventBus",
      "EventCallback",
      "Mapping",
      "Subscription",
      "annotations",
      "dataclass",
      "field",
      "itertools",
      "logger",
      "logging",
      "threading"
    ])

def failureArea : Area :=
  area "crm_automation.automation.exceptions"
    (others [
      "AutomationError",
      "Enum",
      "ErrorCode",
      "InvalidOperatorError",
      "NotFound",
      "SlugEmpty",
      "SlugExists",
      "StepAttributeError",
      "StepClassNotFound",
      "StepInterfaceMissing",
      "StepNotFound",
      "TriggerInterfaceMissing",
      "TriggerNotBound",
      "TriggerNotFound",
      "UnimplementedOperatorError",
      "WorkflowStepLimitExceeded",
      "WorkflowValidationError",
      "annotations"
    ])

def trailArea : Area :=
  area "crm_automation.automation.logger"
    (others [
      "Any",
      "AutomationLogger",
      "ClassVar",
      "LogEntry",
      "TRACE_LOGGER_NAME",
      "UTC",
      "annotations",
      "dataclass",
      "datetime",
      "field",
      "logger",
      "logging",
      "threading",
      "trace_logger"
    ])

def workflowArea : Area :=
  area "crm_automation.automation.workflow"
    (anyTrigger ::
      anyStep ::
      anyCondition ::
      anyAction ::
      others [
        "Any",
        "ExecutionResult",
        "Mapping",
        "NotFound",
        "StepDefinition",
        "StepOutcome",
        "TYPE_CHECKING",
        "Workflow",
        "WorkflowDefinition",
        "WorkflowStepLimitExceeded",
        "WorkflowValidationError",
        "_step_problems",
        "annotations",
        "coerce_definition",
        "dataclass",
        "field",
        "logger",
        "logging"
      ])

/- The areas of what runs workflows. -/
def runningAreas : List Area := [
  bootstrapArea,
  contactArea,
  definitionArea,
  registryArea,
  eventArea,
  failureArea,
  trailArea,
  workflowArea
]

end Sample

end EventFlow

------------------------------------------------------------
-- What Lies Around It
------------------------------------------------------------

namespace EventFlow

namespace Sample

def commandArea : Area :=
  area "crm_automation.cli"
    (others [
      "AutomationError",
      "AutomationSettings",
      "ExecutionResult",
      "Path",
      "ValidationError",
      "WorkflowDefinitionStore",
      "WorkflowValidationError",
      "__version__",
      "_parse_payload",
      "annotations",
      "argparse",
      "build_parser",
      "configure_logging",
      "create_engine",
      "json",
      "load_workflows",
      "logger",
      "logging",
      "main",
      "sys"
    ])

def settingsArea : Area :=
  area "crm_automation.config"
    (others [
      "AutomationSettings",
      "BaseSettings",
      "Field",
      "Path",
      "SettingsConfigDict",
      "annotations",
      "field_validator"
    ])

def recordArea : Area :=
  area "crm_automation.logging"
    (others [
      "Any",
      "JsonFormatter",
      "TRACE_LOGGER_NAME",
      "TextIO",
      "UTC",
      "_RESERVED_LOG_RECORD_ATTRS",
      "annotations",
      "configure_logging",
      "datetime",
      "json",
      "logging",
      "sys"
    ])

def ingressArea : Area :=
  group "crm_automation.server"
    (others [
      "__all__",
      "annotations",
      "app",
      "create_app",
      "models"
    ])

def answerArea : Area :=
  area "crm_automation.server.app"
    (others [
      "ApiError",
      "ApiExecution",
      "ApiStep",
      "ApiTrigger",
      "ApiWorkflow",
      "AutomationEngine",
      "AutomationError",
      "AutomationSettings",
      "EventRequest",
      "EventResponse",
      "ExecutionResult",
      "FastAPI",
      "HTTPException",
      "WorkflowDefinitionStore",
      "__version__",
      "_to_api_error",
      "annotations",
      "create_app",
      "create_engine",
      "load_workflows",
      "logger",
      "logging"
    ])

def messageArea : Area :=
  area "crm_automation.server.models"
    (others [
      "Any",
      "ApiError",
      "ApiExecution",
      "ApiStep",
      "ApiTrigger",
      "ApiWorkflow",
      "BaseModel",
      "EventRequest",
      "EventResponse",
      "Field",
      "annotations"
    ])

/- The areas around what runs workflows. -/
def outerAreas : List Area := [
  commandArea,
  settingsArea,
  recordArea,
  ingressArea,
  answerArea,
  messageArea
]

end Sample

end EventFlow
