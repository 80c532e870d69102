import EventFlow.Act
import EventFlow.Bus
import EventFlow.Catalog.Builtin
import EventFlow.Catalog.Identifier
import EventFlow.Catalog.Item
import EventFlow.CommandLine.Console
import EventFlow.CommandLine.Grammar
import EventFlow.CommandLine.Help
import EventFlow.CommandLine.Program
import EventFlow.CommandLine.Reading
import EventFlow.CommandLine.Request
import EventFlow.CommandLine.TagPaid
import EventFlow.CommandLine.Word
import EventFlow.Contact
import EventFlow.Definition.Basic
import EventFlow.Definition.Check
import EventFlow.Definition.Store
import EventFlow.Engine.Basic
import EventFlow.Engine.Binding
import EventFlow.Engine.Building
import EventFlow.Engine.Creation
import EventFlow.Engine.Dispatch
import EventFlow.Engine.Loading
import EventFlow.Engine.Registration
import EventFlow.Engine.Running
import EventFlow.Entries
import EventFlow.Failure
import EventFlow.Files
import EventFlow.Files.Text
import EventFlow.Ingress.Answer
import EventFlow.Ingress.EventRequest
import EventFlow.Ingress.Host
import EventFlow.Ingress.Percent
import EventFlow.Ingress.Response
import EventFlow.Ingress.Route
import EventFlow.Ingress.Target
import EventFlow.Ingress.TargetFault
import EventFlow.Json.Parser
import EventFlow.Json.Printer
import EventFlow.Log.Draft
import EventFlow.Log.Level
import EventFlow.Log.Record
import EventFlow.Log.Template
import EventFlow.Log.Timestamp
import EventFlow.Log.Tracer
import EventFlow.Log.Trail
import EventFlow.Log.Verbosity
import EventFlow.Main
import EventFlow.Notice
import EventFlow.Number.Double
import EventFlow.Number.Power
import EventFlow.Number.Rounded
import EventFlow.Number.Shortest
import EventFlow.Number.Written
import EventFlow.Path
import EventFlow.Proofs.Accords
import EventFlow.Proofs.Acts
import EventFlow.Proofs.Adding
import EventFlow.Proofs.Binding
import EventFlow.Proofs.BoundTriggers
import EventFlow.Proofs.BusOrder
import EventFlow.Proofs.Checks
import EventFlow.Proofs.Chronicle
import EventFlow.Proofs.ClosedGraph
import EventFlow.Proofs.CommandWords
import EventFlow.Proofs.Configuration
import EventFlow.Proofs.ContactTags
import EventFlow.Proofs.Course
import EventFlow.Proofs.Cycles
import EventFlow.Proofs.Deafness
import EventFlow.Proofs.DefinitionRoundTrip
import EventFlow.Proofs.Delivery
import EventFlow.Proofs.Encoding
import EventFlow.Proofs.Evolution
import EventFlow.Proofs.Execution
import EventFlow.Proofs.FieldConditions
import EventFlow.Proofs.FileAccess
import EventFlow.Proofs.FrontEnds
import EventFlow.Proofs.Identifiers
import EventFlow.Proofs.JsonGrammar
import EventFlow.Proofs.JsonNumbers
import EventFlow.Proofs.JsonReading
import EventFlow.Proofs.JsonRoundTrip
import EventFlow.Proofs.LegibleValues
import EventFlow.Proofs.JsonSteps
import EventFlow.Proofs.LineEnds
import EventFlow.Proofs.Listings
import EventFlow.Proofs.Loading
import EventFlow.Proofs.LogLines
import EventFlow.Proofs.Numerals
import EventFlow.Proofs.Ordinary
import EventFlow.Proofs.RaisedLimits
import EventFlow.Proofs.Redelivery
import EventFlow.Proofs.Refinement
import EventFlow.Proofs.Refusals
import EventFlow.Proofs.Registries
import EventFlow.Proofs.ReportedSlugs
import EventFlow.Proofs.Reports
import EventFlow.Proofs.Rounding
import EventFlow.Proofs.Sessions
import EventFlow.Proofs.ShortestDecimals
import EventFlow.Proofs.Siblings
import EventFlow.Proofs.StepData
import EventFlow.Proofs.StepFailures
import EventFlow.Proofs.StoreIndependence
import EventFlow.Proofs.StrictEquality
import EventFlow.Proofs.StrictTypes
import EventFlow.Proofs.Subscriptions
import EventFlow.Proofs.Targets
import EventFlow.Proofs.Tolerance
import EventFlow.Proofs.Totality
import EventFlow.Proofs.TraceIndependence
import EventFlow.Proofs.Trimming
import EventFlow.Proofs.Usage
import EventFlow.Proofs.Validation
import EventFlow.Proofs.Verdicts
import EventFlow.Proofs.Walks
import EventFlow.Proofs.Worth
import EventFlow.Sample.Area
import EventFlow.Sample.OuterAreas
import EventFlow.Sample.Surroundings
import EventFlow.Sample.TypeAreas
import EventFlow.Sample.Types
import EventFlow.Schema
import EventFlow.Session.Command
import EventFlow.Session.Opening
import EventFlow.Session.Perform
import EventFlow.Session.Reply
import EventFlow.Session.State
import EventFlow.Settings.Assignments
import EventFlow.Settings.Basic
import EventFlow.Settings.Expansion
import EventFlow.Step.Action
import EventFlow.Step.Basic
import EventFlow.Step.Condition
import EventFlow.Step.Execute
import EventFlow.Step.Type
import EventFlow.Surroundings
import EventFlow.Text.Blank
import EventFlow.Text.Digit
import EventFlow.Text.Encoding
import EventFlow.Text.Line
import EventFlow.Text.Printable
import EventFlow.Text.Quoted
import EventFlow.Text.UpperCase
import EventFlow.Text.Utf8
import EventFlow.Trace
import EventFlow.Trigger.Type
import EventFlow.Value.Basic
import EventFlow.Value.Equality
import EventFlow.Value.Table
import EventFlow.Value.Text
import EventFlow.Version
import EventFlow.Workflow.Basic
import EventFlow.Workflow.Problem
import EventFlow.Workflow.Walk
