import EventFlow.Log.Record

/-
  Drafts of records.

  A draft holds what a record is made from: a channel, a
  level, a template and its arguments, extra fields, an
  error, and a time.  It can be rendered when the channel
  and the level can be named, no extra field has a locked
  name, the time can be written, and the template can be
  filled; the first of these that does not hold is the
  failure.

  Key definitions include:
    * `Log.Draft`
    * `Log.Draft.render`
-/

------------------------------------------------------------
-- Drafts
------------------------------------------------------------

namespace EventFlow

namespace Log

/- What a record is made from. -/
structure Draft where
  channel : Value := .str "test"
  level : Value := .int Level.info
  template : Value
  arguments : List Value := []
  fields : List (String × Value) := []
  error? : Option (String × String) := none
  time : Value := .int 0

namespace Draft

/- An error as its kind and its message, if it has one. -/
def errorText (kind message : String) : String :=
  let message := Failure.raisedMessage kind message
  if message.isEmpty then
    kind
  else
    kind ++ ": " ++ message

/- The name of the channel that all others lie below. -/
def topChannel : String :=
  "root"

/- The name of the channel. -/
def channelName (d : Draft) : Except Failure String :=
  if d.channel.isTruthy then
    match d.channel with
    | .str name => .ok name
    | _ => .error .channelNotText
  else
    .ok topChannel

/-
  The name of the level.  A level that is given by its name
  is called by its number.
-/
def levelName (d : Draft) : Except Failure Value :=
  let unnamed := Value.str ("Level " ++ d.level.text)
  match d.level with
  | .list _ => .error (.notHashable d.level.kind)
  | .object _ => .error (.notHashable d.level.kind)
  | .str name =>
      match Level.ofUpper? name with
      | some level => .ok (.int level)
      | none => .ok unnamed
  | v =>
      match Level.names.find? fun (n, _) => v.same (.int n) with
      | some (_, name) => .ok (.str name)
      | none => .ok unnamed

/- Refuse extra fields with locked names. -/
def checkFields (d : Draft) : Except Failure Unit :=
  match d.fields.find? fun (name, _) =>
      lockedNames.contains name with
  | some (name, _) => .error (.fieldLocked name)
  | none => .ok ()

/- The written form of a draft. -/
def render (d : Draft) : Except Failure String := do
  let channel ← d.channelName
  let levelName ← d.levelName
  d.checkFields
  let time ← (Timestamp.ofValue d.time).mapError .untimed
  let message ←
    (Template.fill d.template.text d.arguments).mapError
      .unfilled
  let record : Record :=
    { channel := channel
      level := Level.notSet
      levelName := levelName
      message := message
      fields := d.fields
      exception? := d.error?.map fun (kind, message) =>
        errorText kind message }
  return record.render time

end Draft

end Log

end EventFlow
