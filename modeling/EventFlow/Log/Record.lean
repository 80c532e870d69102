import EventFlow.Json.Printer
import EventFlow.Notice

/-
  Log records and their written form.

  A record is written as one JSON object in one line.  A
  record of the trace channel is marked as such, and its
  context stands beside its message; all other fields stand
  together.  Fields with a reserved name, or with a name
  that begins with an underscore, are left out.

  Key definitions include:
    * `Log.Record`
    * `Log.Record.toValue`
    * `Log.Record.render`
    * `Notice.toRecord`
-/

------------------------------------------------------------
-- Records
------------------------------------------------------------

namespace EventFlow

namespace Log

/-
  A record, ready to be written.  The name of its level need
  not be the usual one.
-/
structure Record where
  channel : String
  level : Level
  levelName : Value := .str level.name
  message : String
  fields : List (String × Value) := []
  exception? : Option String := none

/- The names that a record uses for itself. -/
def ownNames : List String := [
  "args",
  "created",
  "exc_info",
  "exc_text",
  "filename",
  "funcName",
  "levelname",
  "levelno",
  "lineno",
  "module",
  "msecs",
  "msg",
  "name",
  "pathname",
  "process",
  "processName",
  "relativeCreated",
  "stack_info",
  "thread",
  "threadName"
]

/- The names that a field must not have. -/
def lockedNames : List String :=
  ["message", "asctime"] ++ ownNames

/- The names of fields that are not written. -/
def reservedNames : List String :=
  "taskName" :: lockedNames

/- Whether a field is written. -/
def isWritten (name : String) : Bool :=
  !reservedNames.contains name &&
    name.toList.head? != some '_'

end Log

end EventFlow

------------------------------------------------------------
-- Written Records
------------------------------------------------------------

namespace EventFlow

namespace Log

namespace Record

/- Whether a record belongs to the trace. -/
def isTrace (r : Record) : Bool :=
  r.channel == Channel.trace.name

/- The fields that are written. -/
def writtenFields (r : Record) : List (String × Value) :=
  r.fields.filter fun (name, _) => isWritten name

/- The context of a record of the trace. -/
def context (r : Record) : Value :=
  ((r.writtenFields.lookup "context").getD .null)

/- The fields that mark a record of the trace. -/
def traceFields (r : Record) : List (String × Value) :=
  if r.isTrace then
    ("trace", .bool true) ::
      (if r.context.isNull then
        []
      else
        [("context", r.context)])
  else
    []

/- The fields that stand together. -/
def otherFields (r : Record) : List (String × Value) :=
  if r.isTrace then
    r.writtenFields.filter fun (name, _) =>
      name != "context"
  else
    r.writtenFields

/- The written form of a record at a time, as an object. -/
def toValue
    (r : Record)
    (time : String) : Value :=
  .object <|
    [ ("timestamp", .str time),
      ("level", r.levelName),
      ("logger", .str r.channel),
      ("message", .str r.message) ] ++
      r.traceFields ++
      (if r.otherFields.isEmpty then
        []
      else
        [("extra", .object r.otherFields)]) ++
      (match r.exception? with
        | some text => [("exception", .str text)]
        | none => [])

/- The written form of a record at a time, as a line. -/
def render
    (r : Record)
    (time : String) : String :=
  Json.render (r.toValue time)

end Record

end Log

/- The record of a notice. -/
def Notice.toRecord (n : Notice) : Log.Record :=
  { channel := n.channel.name
    level := n.level
    message := n.message
    fields := n.fields
    exception? := n.failure?.map Failure.message }

end EventFlow
