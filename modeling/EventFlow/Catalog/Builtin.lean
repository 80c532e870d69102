import EventFlow.Catalog.Item
import EventFlow.Step.Condition

/-
  The built-in types.

  Seven triggers hear the events of transactions and
  contacts, two conditions look at their fields, and two
  actions change contacts.  Every slug and every event of a
  built-in type is its own.

  Key definitions include:
    * `Builtin.triggers`
    * `Builtin.steps`
-/

------------------------------------------------------------
-- Triggers
------------------------------------------------------------

namespace EventFlow

namespace Builtin

/- Any trigger, before it is given a slug and an event. -/
def trigger : TriggerType :=
  { name := "Trigger"
    slug := "" }

/- A trigger of transactions. -/
def transactionTrigger
    (name event title description : String) :
    TriggerType :=
  { name := name
    slug := "crm/" ++ event
    title := title
    description := description
    category := "transaction"
    event := event }

/- A trigger of contacts. -/
def contactTrigger
    (name event title description : String) :
    TriggerType :=
  { transactionTrigger name event title description with
    category := "contact" }

def transactionCreated : TriggerType :=
  transactionTrigger "TransactionCreated"
    "transaction_created" "Transaction Created"
    "Triggered when a transaction is created"

def transactionUpdated : TriggerType :=
  transactionTrigger "TransactionUpdated"
    "transaction_updated" "Transaction Updated"
    "Triggered when a transaction is updated"

def transactionStatusUpdated : TriggerType :=
  transactionTrigger "TransactionStatusUpdated"
    "transaction_status_updated"
    "Transaction Status Updated"
    "Triggered when the status of a transaction changes"

def transactionDeleted : TriggerType :=
  transactionTrigger "TransactionDeleted"
    "transaction_deleted" "Transaction Deleted"
    "Triggered when a transaction is deleted"

def contactCreated : TriggerType :=
  contactTrigger "ContactCreated"
    "contact_created" "Contact Created"
    "Triggered when a contact is created"

def contactUpdated : TriggerType :=
  contactTrigger "ContactUpdated"
    "contact_updated" "Contact Updated"
    "Triggered when a contact is updated"

def contactDeleted : TriggerType :=
  contactTrigger "ContactDeleted"
    "contact_deleted" "Contact Deleted"
    "Triggered when a contact is deleted"

/- The built-in triggers, in the order of registration. -/
def triggers : List TriggerType := [
  transactionCreated,
  transactionUpdated,
  transactionStatusUpdated,
  transactionDeleted,
  contactCreated,
  contactUpdated,
  contactDeleted
]

end Builtin

end EventFlow

------------------------------------------------------------
-- Conditions
------------------------------------------------------------

namespace EventFlow

namespace Builtin

/- Any field condition, before it is given a slug. -/
def fieldCondition : StepType :=
  { name := "FieldCondition"
    slug := ""
    type := "condition"
    category := "conditions"
    requiredAttributes := FieldCondition.attributes
    validOperators := FieldCondition.operators
    behavior := .compareField "record" }

def transactionField : StepType :=
  { fieldCondition with
    name := "TransactionField"
    slug := "crm/condition/transaction_field"
    title := "Transaction Field"
    description :=
      "Checks if a transaction field matches " ++
        "an expected value"
    category := "transaction"
    allowedTriggers := [
      "crm/transaction_status_updated",
      "crm/transaction_updated",
      "crm/transaction_created"
    ]
    behavior := .compareField "transaction" }

def contactField : StepType :=
  { fieldCondition with
    name := "ContactField"
    slug := "crm/condition/contact_field"
    title := "Contact Field"
    description :=
      "Checks if a contact field matches an expected value"
    category := "contact"
    allowedTriggers := [
      "crm/contact_created",
      "crm/contact_updated"
    ]
    behavior := .compareField "contact" }

/- The built-in conditions, in the order of registration. -/
def conditions : List StepType := [
  transactionField,
  contactField
]

end Builtin

end EventFlow

------------------------------------------------------------
-- Actions
------------------------------------------------------------

namespace EventFlow

namespace Builtin

def addContactLog : StepType :=
  { name := "AddContactLog"
    slug := "crm/add_contact_log"
    title := "Add Contact Log Action"
    description := "Action to add a log to a contact"
    type := "contacts"
    category := "actions"
    requiredAttributes := ["type"]
    behavior := .addContactLog }

def addRemoveContactTag : StepType :=
  { name := "AddRemoveContactTag"
    slug := "crm/add_remove_contact_tag"
    title := "Add / Remove Contact Tag Action"
    description := "Action to add or remove the contact tag"
    type := "contacts"
    category := "actions"
    requiredAttributes := ["mode", "tags"]
    behavior := .changeContactTags }

/- The built-in actions, in the order of registration. -/
def actions : List StepType := [
  addContactLog,
  addRemoveContactTag
]

/- The built-in steps, in the order of registration. -/
def steps : List StepType :=
  conditions ++ actions

end Builtin

end EventFlow
