import EventFlow.CommandLine.Console
import EventFlow.Engine.Dispatch

/-
  A small program around one workflow.

  The workflow tags the contact of a transaction that was
  paid, and notes it in the logs of the contact.  The
  program adds the workflow, delivers one event about a
  transaction, and tells what became of the contact.

  Key definitions include:
    * `CommandLine.TagPaid.definition`
    * `CommandLine.TagPaid.run`
-/

------------------------------------------------------------
-- Arguments
------------------------------------------------------------

namespace EventFlow

namespace CommandLine

namespace TagPaid

/- Read an integer. -/
def readNumber : ValueReader :=
  fun word =>
    match Text.readInteger? word with
    | some n => .ok (.int n)
    | none =>
        .error
          (.reason
            ("invalid int value: " ++ Text.quoted word))

/- The grammar of the program, which is called by a name. -/
def grammar (program : String) : Grammar :=
  { program := program
    about :=
      "Run a paid-transaction workflow " ++
        "(programmatic example)."
    named := [
      .help,
      .value "contact-id" "Contact the transaction belongs to"
        readNumber,
      .value "status"
        "Transaction status, e.g. \"paid\" or \"draft\"",
      .value "tags"
        ("Comma-separated tags to add when the " ++
          "transaction is paid")
    ] }

/- Tags from a text that separates them by commas. -/
def tagsOf (s : String) : List String :=
  ((s.splitOn ",").map Text.trim).filter (!·.isEmpty)

/- The contact, the status and the tags to be added. -/
structure Order where
  contact : Value
  status : Value
  tags : List String

/-
  The order that a command line gives.  Tags that are given
  as no text cannot be separated.
-/
def Order.ofReading (r : Reading) : Except Failure Order :=
  let order (tags : List String) : Order :=
    { contact := (r.values.lookup "contact-id").getD (.int 1)
      status :=
        (r.values.lookup "status").getD (.str "paid")
      tags := tags }
  match r.values.lookup "tags" with
  | none => .ok (order ["customer", "paid"])
  | some (.str tags) => .ok (order (tagsOf tags))
  | some v => .error (.memberMissing v.kind "split")

end TagPaid

end CommandLine

end EventFlow

------------------------------------------------------------
-- The Workflow
------------------------------------------------------------

namespace EventFlow

namespace CommandLine

namespace TagPaid

/- The step that asks whether the transaction was paid. -/
def isPaid : Value :=
  .object [
    ("slug", .str "crm/condition/transaction_field"),
    ("attributes",
      .object [
        ("field", .str "status"),
        ("operator", .str "is"),
        ("value", .str "paid")
      ]),
    ("next_step_true", .str "tag")
  ]

/- The step that adds tags. -/
def addTags (tags : List String) : Value :=
  .object [
    ("slug", .str "crm/add_remove_contact_tag"),
    ("attributes",
      .object [
        ("mode", .str "append"),
        ("tags", .list (tags.map .str))
      ]),
    ("next_step", .str "note")
  ]

/- The step that adds a log entry. -/
def addNote : Value :=
  .object [
    ("slug", .str "crm/add_contact_log"),
    ("attributes",
      .object [
        ("type", .str "note"),
        ("short_description", .str "Transaction paid")
      ])
  ]

/- The definition of the workflow. -/
def definition (tags : List String) : Value :=
  .object [
    ("id", .str "tag-paid-customers"),
    ("name", .str "Tag paid customers"),
    ("triggers",
      .list [
        .str "crm/transaction_updated",
        .str "crm/transaction_created"
      ]),
    ("initial_step", .str "is_paid"),
    ("steps",
      .object [
        ("is_paid", isPaid),
        ("tag", addTags tags),
        ("note", addNote)
      ])
  ]

end TagPaid

end CommandLine

end EventFlow

------------------------------------------------------------
-- The Program
------------------------------------------------------------

namespace EventFlow

namespace CommandLine

namespace TagPaid

/- The payload of the event about a transaction. -/
def payload (o : Order) : Value :=
  .object [
    ("id", o.contact),
    ("data", .object [("status", o.status)])
  ]

/- The line of a walk. -/
def runLine (r : ExecutionResult) : String :=
  r.workflowId ++ ": " ++ " -> ".intercalate r.stepIds

/- The lines about a contact. -/
def contactLines
    (store : ContactStore)
    (contact : Value) : List String :=
  let notes := (store.logsOf contact).map fun log =>
    Value.str log.shortDescription
  [ "Tags: " ++ (Value.list (store.tagsOf contact)).shown,
    "Logs: " ++ (Value.list notes).shown ]

/- The contacts of a console. -/
def contactsOf (c : Console) : ContactStore :=
  match c.engine.access with
  | .contacts store => store
  | _ => {}

variable [Surroundings]

/- Deliver the event, and tell what became of the contact. -/
def deliver (o : Order) : Act Console Nat := do
  let result ← Console.onEngine
    (Engine.dispatch "transaction_updated" (payload o) .null)
  Act.ofExcept result.raiseForErrors
  Console.sayAll (result.runs.map runLine)
  let store ← Act.look contactsOf
  Console.sayAll (contactLines store o.contact)
  return 0

/- Add the workflow, and deliver the event. -/
def carryOut (o : Order) : Act Console Nat := do
  match ← Act.attempt
      (Console.onEngine
        (Engine.buildAndAdd (definition o.tags) true)) with
  | .ok _ => deliver o
  | .error failure =>
      match failure with
      | .workflowInvalid _ _ =>
          Console.say failure.message
          return 1
      | failure => Act.fail failure

/- Run the program under the name that it is called by. -/
def run
    (program : String)
    (words : List String)
    (env : List (String × String))
    (files : Files) : Outcome :=
  match (grammar program).readAll words with
  | .error stop => stop.outcome program
  | .ok found =>
      let opened := do
        let order ← Order.ofReading found
        let settings ← Settings.load env files
        return (order, settings)
      match opened with
      | .error failure => { ending := .failed failure }
      | .ok (order, settings) =>
          Console.run settings (.contacts {})
            (carryOut order)

end TagPaid

end CommandLine

end EventFlow
