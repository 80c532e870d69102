import EventFlow.Step.Basic

/-
  Actions.

  A contact action works on one contact: the one that its
  attributes name, or else the one that the payload names by
  its id.  An action traces what it is about to do before it
  reaches for the contacts, and a failure of the data access
  is the failure of the step.

  Key definitions include:
    * `Step.contact`
    * `Step.addContactLog`
    * `Step.changeContactTags`
-/

------------------------------------------------------------
-- Subjects
------------------------------------------------------------

namespace EventFlow

namespace Step

/- The contact that a contact action works on. -/
def contact
    (s : Step)
    (payload : Value) : Except Failure Value :=
  match s.attributes.getD "contact_id" with
  | .null =>
      match payload.fieldD "id" with
      | .null =>
          .error (.attributeMissing s.type.slug "contact_id")
      | v => .ok v
  | v => .ok v

/-
  Use the data access.  A step that no engine made has none.
-/
def reach
    {α : Type}
    (s : Step)
    (use : Except Failure α) : Except Failure α :=
  if s.isDetached then
    .error (.contextMissing s.type.slug)
  else
    use

/- The effect of a use of the data access. -/
def applying
    (s : Step)
    (access : DataAccess)
    (traces : List TraceEntry)
    (used : Except Failure DataAccess) : Effect :=
  match s.reach used with
  | .error failure => s.failing access traces failure
  | .ok access => s.accessing access traces

end Step

end EventFlow

------------------------------------------------------------
-- Contact Actions
------------------------------------------------------------

namespace EventFlow

namespace Step

/- The value of an attribute, or the empty text. -/
def attributeOrBlank
    (s : Step)
    (name : String) : Value :=
  (s.attributes.get? name).getD (.str "")

/- The log entry that a step is to add. -/
def contactLog (s : Step) : Except Failure ContactLog :=
  match s.require "type" with
  | .error failure => .error failure
  | .ok type =>
      ContactLog.ofFields [
        ("type", type),
        ("short_description",
          s.attributeOrBlank "short_description"),
        ("long_description",
          s.attributeOrBlank "long_description")
      ]

/- The entry about a log entry to be added. -/
def addingLog
    (contact : Value)
    (log : ContactLog) : TraceEntry :=
  { message := "Adding log to contact " ++ contact.text
    context := some [(.str "type", .str log.type)] }

/- Add a log entry to a contact. -/
def addContactLog
    (s : Step)
    (payload : Value)
    (access : DataAccess) : Effect :=
  match s.contact payload with
  | .error failure => s.failing access [] failure
  | .ok contact =>
      match s.contactLog with
      | .error failure => s.failing access [] failure
      | .ok log =>
          s.applying access [addingLog contact log]
            (access.addLog contact log)

/- The mode and the tags that a step is to update with. -/
def tagSettings (s : Step) :
    Except Failure (Value × List Value) :=
  match s.require "mode" with
  | .error failure => .error failure
  | .ok mode =>
      if (TagMode.ofValue? mode).isNone then
        .error (.attributeInvalid s.type.slug "mode")
      else
        match s.require "tags" with
        | .error failure => .error failure
        | .ok (.str tag) => .ok (mode, [.str tag])
        | .ok tags => tags.items.map fun tags => (mode, tags)

/- The entry about tags to be updated. -/
def updatingTags
    (contact mode : Value)
    (tags : List Value) : TraceEntry :=
  { message := "Updating tags on contact " ++ contact.text
    context := some [
      (.str "mode", mode),
      (.str "tags", .list tags)
    ] }

/- Update the tags of a contact. -/
def changeContactTags
    (s : Step)
    (payload : Value)
    (access : DataAccess) : Effect :=
  match s.contact payload with
  | .error failure => s.failing access [] failure
  | .ok contact =>
      match s.tagSettings with
      | .error failure => s.failing access [] failure
      | .ok (mode, tags) =>
          s.applying access [updatingTags contact mode tags]
            ((access.updateTags contact (.list tags) mode).map
              Prod.fst)

end Step

end EventFlow
