import TestWorker.Action
import TestWorker.Action.Database
import TestWorker.Action.Evaluation
import TestWorker.Action.Generate
import TestWorker.Action.Http
import TestWorker.Activity
import TestWorker.Agent
import TestWorker.Batch
import TestWorker.Clock
import TestWorker.CommandLine
import TestWorker.CommandLine.Help
import TestWorker.CommandLine.Parameter
import TestWorker.CommandLine.Reading
import TestWorker.Console
import TestWorker.Context
import TestWorker.Coordinator
import TestWorker.Crew
import TestWorker.Cycle
import TestWorker.Database.Address
import TestWorker.Database.Statement
import TestWorker.Fault
import TestWorker.Generator
import TestWorker.Job
import TestWorker.Json.Reader
import TestWorker.Json.Writer
import TestWorker.Main
import TestWorker.Number.Decimal
import TestWorker.Number.Double
import TestWorker.Number.Reading
import TestWorker.Offline
import TestWorker.Outcome
import TestWorker.Outcome.Draft
import TestWorker.Outside
import TestWorker.Placeholder.Substitute
import TestWorker.Placeholder.Token
import TestWorker.Proofs.Action.Evaluation
import TestWorker.Proofs.Action.Request
import TestWorker.Proofs.Activity
import TestWorker.Proofs.Context
import TestWorker.Proofs.Coordinator.Delivery
import TestWorker.Proofs.Except
import TestWorker.Proofs.Job.Request
import TestWorker.Proofs.Job.Test
import TestWorker.Proofs.Json.Strict
import TestWorker.Proofs.Placeholder.Substitute
import TestWorker.Proofs.Placeholder.Token
import TestWorker.Proofs.Test.Intake
import TestWorker.Proofs.Test.Lenient
import TestWorker.Proofs.Test.Run
import TestWorker.Proofs.Test.Validation
import TestWorker.Proofs.Web.Address
import TestWorker.Rehearsal
import TestWorker.Rehearsal.Cycles
import TestWorker.Schedule
import TestWorker.Settings
import TestWorker.Settings.Document
import TestWorker.Shift
import TestWorker.Test
import TestWorker.Text.CaseTable
import TestWorker.Text.Encoding
import TestWorker.Text.Letters
import TestWorker.Text.Likeness
import TestWorker.Text.Quoted
import TestWorker.Text.Table
import TestWorker.Value
import TestWorker.Web.Client
import TestWorker.Web.Cookie
import TestWorker.Web.Draft
import TestWorker.Web.Host
import TestWorker.Web.Message
import TestWorker.Web.Percent
import TestWorker.Web.Query
import TestWorker.Web.Redirect
import TestWorker.Web.Url
import TestWorker.Wire.Issue
import TestWorker.Wire.Job
import TestWorker.Wire.Reader
import TestWorker.Wire.Result
import TestWorker.Proofs.Placeholder.Pieces
import TestWorker.Proofs.Action.Atomic
import TestWorker.Proofs.Crew
import TestWorker.Proofs.Shift.Account
import TestWorker.Proofs.Shift.Routine
import TestWorker.Proofs.Shift.Drain
import TestWorker.Proofs.Batch
import TestWorker.Proofs.Cycle.Half
import TestWorker.Proofs.Cycle.Halves
import TestWorker.Proofs.Agent
import TestWorker.Proofs.Json.Reading
import TestWorker.Proofs.Coordinator.Answer
import TestWorker.Proofs.Batch.Execution
import TestWorker.Proofs.Shift.Regularity
import TestWorker.Proofs.Agent.Apart
import TestWorker.Proofs.Test.Rest
import TestWorker.Proofs.Test.Runnable
import TestWorker.Proofs.Placeholder.Strict
import TestWorker.Proofs.Test.Strict
import TestWorker.Proofs.Job.Strict
import TestWorker.Proofs.Shift.Stop
import TestWorker.Proofs.Job.Absence
import TestWorker.Proofs.Test.Stored
import TestWorker.Proofs.Agent.Secrecy
import TestWorker.Proofs.Cycle.Insertion
import TestWorker.Proofs.Action.Connection
import TestWorker.Proofs.Test.Unread
import TestWorker.Proofs.Agent.Logging
import TestWorker.Proofs.Placeholder.Missing
import TestWorker.Proofs.Test.Scope
import TestWorker.Proofs.Coordinator.Destination
import TestWorker.Proofs.Action.Verdict
import TestWorker.Proofs.Placeholder.Separator
import TestWorker.Proofs.Json.RoundTrip
import TestWorker.Proofs.Action.Parameter
import TestWorker.Proofs.Action.Template
import TestWorker.Proofs.Web.Query
import TestWorker.Proofs.Web.Draft
import TestWorker.Proofs.Action.Query
import TestWorker.Proofs.Action.Place
import TestWorker.Proofs.Wire.Form
import TestWorker.Proofs.Action.Generate
import TestWorker.Proofs.Test.Keys
