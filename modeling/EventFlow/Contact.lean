import EventFlow.Value.Table

/-
  Contacts: their tags and their logs.

  The contact store keeps, for every contact, an ordered set
  of tags and a list of log entries.  A contact is known by
  the text of its id, so that the number five and the text
  of it name the same contact.

  Access to contacts is one of four kinds: a store in
  memory, a recorder of the calls made, an access that
  refuses every call, or none at all.

  Key definitions include:
    * `ContactLog`
    * `TagMode`
    * `ContactStore`
    * `ContactStore.updateTags`
    * `DataAccess`
-/

------------------------------------------------------------
-- Log Entries
------------------------------------------------------------

namespace EventFlow

/- One log entry of a contact. -/
structure ContactLog where
  type : String
  shortDescription : String := ""
  longDescription : String := ""
deriving DecidableEq, Repr

namespace ContactLog

/- The name of the record in reports. -/
def title : String := "ContactLog"

/- A log entry as a value. -/
def toValue (log : ContactLog) : Value :=
  .object [
    ("type", .str log.type),
    ("short_description", .str log.shortDescription),
    ("long_description", .str log.longDescription)
  ]

/- Check the fields of a log entry. -/
def check
    (fields : List (String × Value)) :
    Schema.Checked ContactLog :=
  ((Schema.required fields "type" Schema.text).and <|
    (Schema.optional fields "short_description" ""
      Schema.text).and <|
    (Schema.optional fields "long_description" ""
      Schema.text).and <|
    Schema.optional fields "created_at" "" Schema.text).map
    fun (type, short, long, _) =>
      { type := type
        shortDescription := short
        longDescription := long }

/- Read a log entry from the fields of an object. -/
def ofFields
    (fields : List (String × Value)) :
    Except Failure ContactLog :=
  (check fields).mapError (.record title)

end ContactLog

end EventFlow

------------------------------------------------------------
-- Tags
------------------------------------------------------------

namespace EventFlow

/- What an update does with the tags it is given. -/
inductive TagMode where
| append
| replace
| remove
deriving DecidableEq, Repr

namespace TagMode

/- The modes by their names. -/
def names : List (String × TagMode) := [
  ("append", .append),
  ("replace", .replace),
  ("remove", .remove)
]

/- The mode that a value names. -/
def ofValue? : Value → Option TagMode
| .str s => names.lookup s
| _ => none

end TagMode

namespace Tags

/- The given tags as members of a set. -/
def members (vs : List Value) :
    Except Failure (List Value) :=
  (vs.mapM Value.key).map Value.distinct

/- The tags that replace all others. -/
def replaced (tags : Value) : Except Failure (List Value) :=
  match tags.items with
  | .error failure => .error failure
  | .ok vs => members vs

/- The current tags with the given ones behind them. -/
def appended
    (current : List Value)
    (tags : Value) : Except Failure (List Value) :=
  match tags.items? with
  | none => .error (.notUnpackable tags.kind)
  | some vs => members (current ++ vs)

/- Whether characters occur in a row in others. -/
def occursIn (word : List Char) : List Char → Bool
| [] => word.isEmpty
| c :: cs =>
    word.isPrefixOf (c :: cs) || occursIn word cs

/-
  Whether a tag is among the given ones.  A text holds every
  text that is a part of it.
-/
def listed
    (tags : Value)
    (tag : Value) : Except Failure Bool :=
  match tags with
  | .list vs => .ok (tag.isAmong vs)
  | .object fields =>
      .ok (tag.isAmong (fields.map fun (k, _) => .str k))
  | .str s =>
      match tag with
      | .str t => .ok (occursIn t.toList s.toList)
      | v => .error (.notText v.kind)
  | v => .error (.notSearchable v.kind)

/- The current tags that are not among the given ones. -/
def removed
    (tags : Value) :
    List Value → Except Failure (List Value)
| [] => .ok []
| tag :: rest =>
    match listed tags tag with
    | .error failure => .error failure
    | .ok isListed =>
        (removed tags rest).map fun kept =>
          if isListed then kept else tag :: kept

/- The tags after an update. -/
def updated
    (mode : TagMode)
    (current : List Value)
    (tags : Value) : Except Failure (List Value) :=
  match mode with
  | .replace => replaced tags
  | .append => appended current tags
  | .remove => removed tags current

end Tags

end EventFlow

------------------------------------------------------------
-- The Contact Store
------------------------------------------------------------

namespace EventFlow

/- The logs and tags of contacts, by the text of their id. -/
structure ContactStore where
  logs : List (String × List ContactLog) := []
  tags : List (String × List Value) := []

namespace ContactStore

/- The logs of a contact. -/
def logsOf
    (s : ContactStore)
    (contact : Value) : List ContactLog :=
  (s.logs.lookup contact.text).getD []

/- The tags of a contact. -/
def tagsOf
    (s : ContactStore)
    (contact : Value) : List Value :=
  (s.tags.lookup contact.text).getD []

/- The ids of the contacts that were ever written. -/
def contacts (s : ContactStore) : List String :=
  s.logs.map Prod.fst ++
    (s.tags.map Prod.fst).filter fun id =>
      (s.logs.lookup id).isNone

/- Add a log entry to a contact. -/
def addLog
    (s : ContactStore)
    (contact : Value)
    (log : ContactLog) : ContactStore :=
  { s with
    logs :=
      Entries.put contact.text
        (s.logsOf contact ++ [log]) s.logs }

/- Write the tags of a contact. -/
def setTags
    (s : ContactStore)
    (contact : Value)
    (tags : List Value) : ContactStore :=
  { s with tags := Entries.put contact.text tags s.tags }

/- Update the tags of a contact, and tell them. -/
def updateTags
    (s : ContactStore)
    (contact : Value)
    (tags : Value)
    (mode : Value) :
    Except Failure (ContactStore × List Value) :=
  match TagMode.ofValue? mode with
  | none => .error (.tagModeUnknown mode)
  | some mode =>
      match Tags.updated mode (s.tagsOf contact) tags with
      | .error failure => .error failure
      | .ok tags => .ok (s.setTags contact tags, tags)

end ContactStore

end EventFlow

------------------------------------------------------------
-- Access to Contacts
------------------------------------------------------------

namespace EventFlow

/- A call that a recorder has seen. -/
inductive AccessCall where
| record (payload : Value)
| addLog (contact : Value) (log : ContactLog)
| updateTags (contact : Value) (tags : Value) (mode : Value)

namespace AccessCall

/- A recorded call as a list of its name and arguments. -/
def toValue : AccessCall → Value
| .record payload => .list [.str "record", payload]
| .addLog contact log =>
    .list [.str "add_contact_log", contact, log.toValue]
| .updateTags contact tags mode =>
    .list [.str "update_contact_tags", contact, tags, mode]

end AccessCall

/- How an engine reaches contacts. -/
inductive DataAccess where
| none
| contacts (store : ContactStore)
| recorder (calls : List AccessCall)
| refusing

namespace DataAccess

/- Add a log entry to a contact. -/
def addLog
    (contact : Value)
    (log : ContactLog) :
    DataAccess → Except Failure DataAccess
| .none => .error .accessMissing
| .contacts store =>
    .ok (.contacts (store.addLog contact log))
| .recorder calls =>
    .ok (.recorder (calls ++ [.addLog contact log]))
| .refusing =>
    .error (.raised "RuntimeError" "db down")

/- Update the tags of a contact, and tell them if known. -/
def updateTags
    (contact : Value)
    (tags : Value)
    (mode : Value) :
    DataAccess → Except Failure (DataAccess × Value)
| .none => .error .accessMissing
| .contacts store =>
    (store.updateTags contact tags mode).map
      fun (store, tags) => (.contacts store, .list tags)
| .recorder calls =>
    .ok
      (.recorder (calls ++ [.updateTags contact tags mode]),
        .null)
| .refusing =>
    .error
      (.raised "ConnectionError" "database unavailable")

/- Hand a payload on. -/
def record
    (payload : Value) :
    DataAccess → Except Failure DataAccess
| .none => .error .accessMissing
| .contacts _ =>
    .error (.memberMissing "InMemoryContactStore" "record")
| .recorder calls =>
    .ok (.recorder (calls ++ [.record payload]))
| .refusing => .error (.raised "KeyError" "record")

end DataAccess

end EventFlow
