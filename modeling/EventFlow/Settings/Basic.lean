import EventFlow.Engine.Basic
import EventFlow.Files.Text
import EventFlow.Settings.Expansion
import EventFlow.Text.UpperCase

/-
  The settings of an engine.

  Settings are read from variables of the environment and
  from a file of assignments.  Names of variables are
  compared without regard to case, and the environment comes
  before the file.  All settings that cannot be read are
  reported at once.

  Key definitions include:
    * `Settings`
    * `Settings.check`
    * `Settings.load`
-/

------------------------------------------------------------
-- Settings
------------------------------------------------------------

namespace EventFlow

/- The settings of an engine and of the programs around it. -/
structure Settings where
  logLevel : String := "INFO"
  limit : Int := defaultLimit
  isStrict : Bool := false
  path : Path := Path.ofText "workflows.json"
  shouldInit : Bool := true

namespace Settings

/- Settings as a value. -/
def toValue (s : Settings) : Value :=
  .object [
    ("log_level", .str s.logLevel),
    ("max_workflow_steps", .int s.limit),
    ("strict_step_registration", .bool s.isStrict),
    ("auto_init_workflows", .bool s.shouldInit),
    ("workflows_path", .str s.path.text)
  ]

end Settings

end EventFlow

------------------------------------------------------------
-- Checks
------------------------------------------------------------

namespace EventFlow

namespace Settings

/- The name of a level, in any case and with blanks around. -/
def checkLevel : Value → Schema.Checked String
| .str s =>
    let name := Text.upper (Text.trim s)
    if (Level.names.map Prod.snd).contains name then
      .ok name
    else
      Schema.broken (.other ("Unknown log level: " ++ s))
        (.str s)
| v => Schema.broken .text v

/- A limit of steps. -/
def checkLimit : Value → Schema.Checked Int
| .str s =>
    match Schema.integerOfText s with
    | .error problems => .error problems
    | .ok n =>
        if n < 1 then
          Schema.broken .atLeastOne (.str s)
        else
          .ok n
| v => Schema.broken .writtenInteger v

/- A path. -/
def checkPath : Value → Schema.Checked Path
| .str s => .ok (Path.ofText s)
| v => Schema.broken .text v

/- Check the values of variables. -/
def check
    (fields : List (String × Value)) :
    Schema.Checked Settings :=
  let default : Settings := {}
  ((Schema.optional fields "LOG_LEVEL" default.logLevel
      checkLevel).and <|
    (Schema.optional fields "AUTOMATION_MAX_WORKFLOW_STEPS"
      default.limit checkLimit).and <|
    (Schema.optional fields
      "AUTOMATION_STRICT_STEP_REGISTRATION"
      default.isStrict Schema.truth).and <|
    (Schema.optional fields "AUTOMATION_WORKFLOWS_PATH"
      default.path checkPath).and <|
    Schema.optional fields "AUTOMATION_AUTO_INIT_WORKFLOWS"
      default.shouldInit Schema.truth).map
    fun (logLevel, limit, isStrict, path, shouldInit) =>
      { logLevel := logLevel
        limit := limit
        isStrict := isStrict
        path := path
        shouldInit := shouldInit }

end Settings

end EventFlow

------------------------------------------------------------
-- Reading
------------------------------------------------------------

namespace EventFlow

namespace Settings

/- The names of the variables that settings are read from. -/
def variableNames : List String := [
  "LOG_LEVEL",
  "AUTOMATION_MAX_WORKFLOW_STEPS",
  "AUTOMATION_STRICT_STEP_REGISTRATION",
  "AUTOMATION_WORKFLOWS_PATH",
  "AUTOMATION_AUTO_INIT_WORKFLOWS"
]

/- Variables by the form that names are compared in. -/
def byComparedName (vars : Variables) : Variables :=
  Entries.ofPairs
    (vars.map fun (name, value) =>
      (Text.lowerName name, value))

/- The values that variables give to settings. -/
def fieldsOf
    (env file : Variables) : List (String × Value) :=
  variableNames.filterMap fun name =>
    let key := Text.lowerName name
    let value? :=
      ((env.lookup key).join).or ((file.lookup key).join)
    value?.map fun value => (name, .str value)

/- The path of the file of assignments. -/
def filePath : Path :=
  Path.ofText ".env"

/- The variables of the file of assignments, if there is one. -/
def fileVariables
    (env : List (String × String))
    (files : Files) : Except Failure Variables :=
  match files.bytes? filePath with
  | none => .ok []
  | some bytes =>
      (Files.decode bytes).map fun s =>
        Expansion.resolve env (Assignments.read s)

/- The name of the settings in reports. -/
def title : String :=
  "AutomationSettings"

/- Read settings from the environment and from files. -/
def load
    (env : List (String × String))
    (files : Files) : Except Failure Settings :=
  match fileVariables env files with
  | .error failure => .error failure
  | .ok file =>
      let env := env.map fun (name, value) =>
        (name, some value)
      (check (fieldsOf (byComparedName env)
        (byComparedName file))).mapError (.record title)

end Settings

end EventFlow
