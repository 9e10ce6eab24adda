import ServicePlane.Application.Context
import ServicePlane.Application.Run
import ServicePlane.Availability.Feed
import ServicePlane.Availability.Gate
import ServicePlane.Availability.Registry
import ServicePlane.Availability.Status
import ServicePlane.CommandLine.Arguments
import ServicePlane.CommandLine.Operator
import ServicePlane.CommandLine.Program
import ServicePlane.Config.Basic
import ServicePlane.Config.Codec
import ServicePlane.Config.Load
import ServicePlane.Config.Validate
import ServicePlane.Decimal
import ServicePlane.Document.Basic
import ServicePlane.Document.Error
import ServicePlane.Document.Reader
import ServicePlane.Document.Words
import ServicePlane.Http.MediaType
import ServicePlane.Http.Message
import ServicePlane.Http.Percent
import ServicePlane.Http.Router
import ServicePlane.Http.Url
import ServicePlane.Json.Basic
import ServicePlane.Json.Decode
import ServicePlane.Json.Number
import ServicePlane.Json.Printer
import ServicePlane.Json.Quotation
import ServicePlane.Json.Reader
import ServicePlane.Lifecycle.Hook
import ServicePlane.Lifecycle.Registry
import ServicePlane.Lifecycle.Script
import ServicePlane.Lifecycle.StartupOrder
import ServicePlane.Lifecycle.StopSignal
import ServicePlane.Lifecycle.Watched
import ServicePlane.Main
import ServicePlane.Monitor.Check
import ServicePlane.Monitor.State
import ServicePlane.Net.Network
import ServicePlane.Net.Probe
import ServicePlane.Net.SocketAddress
import ServicePlane.Operator.Interface
import ServicePlane.Operator.Summary
import ServicePlane.Operator.View
import ServicePlane.Plane.Basic
import ServicePlane.Plane.Clock
import ServicePlane.Plane.Control
import ServicePlane.Plane.Public
import ServicePlane.Plane.Settings
import ServicePlane.Proofs.Lifecycle.History
import ServicePlane.Proofs.Lifecycle.HookRuns
import ServicePlane.Proofs.Lifecycle.Placement
import ServicePlane.Proofs.Lifecycle.Precedence
import ServicePlane.Proofs.Lifecycle.RegistryState
import ServicePlane.Proofs.Lifecycle.Requirement
import ServicePlane.Proofs.Lifecycle.Resolution
import ServicePlane.Proofs.Lifecycle.Teardown
import ServicePlane.Proofs.Lifecycle.Visit
import ServicePlane.Proofs.Text.ByteOrder
import ServicePlane.Proofs.Text.Letters
import ServicePlane.Service
import ServicePlane.Task
import ServicePlane.Telemetry.Filter
import ServicePlane.Telemetry.Log
import ServicePlane.Telemetry.Metric
import ServicePlane.Telemetry.Notice
import ServicePlane.Text.Blank
import ServicePlane.Text.Letter
import ServicePlane.Text.Quoted
import ServicePlane.Text.Shown
import ServicePlane.Text.Span
import ServicePlane.Toml.Moment
import ServicePlane.Toml.Number
import ServicePlane.Toml.Reader
import ServicePlane.Toml.Table
import ServicePlane.Toml.Text
import ServicePlane.Toml.Value
import ServicePlane.Proofs.Availability.Calls
import ServicePlane.Proofs.Availability.Hysteresis
import ServicePlane.Proofs.Availability.Publication
import ServicePlane.Proofs.Availability.Subscription
import ServicePlane.Proofs.Availability.Transitions
import ServicePlane.Proofs.Plane.RegistryCalls
import ServicePlane.Proofs.Lifecycle.Attempts
import ServicePlane.Proofs.Monitor.Cycle
import ServicePlane.Proofs.Monitor.Dropping
import ServicePlane.Proofs.Monitor.Isolation
import ServicePlane.Proofs.Monitor.OwnCycle
import ServicePlane.Proofs.Monitor.Rest
import ServicePlane.Proofs.Monitor.Recording
import ServicePlane.Proofs.Monitor.Running
import ServicePlane.Proofs.Monitor.Cadence
import ServicePlane.Proofs.Monitor.Turns
import ServicePlane.Proofs.Monitor.Waiting
import ServicePlane.Proofs.Operator.AvailabilityViews
import ServicePlane.Proofs.Lifecycle.Startup
import ServicePlane.Proofs.Lifecycle.Shutdown
import ServicePlane.Proofs.Plane.Course
import ServicePlane.Proofs.Availability.Interleaving
import ServicePlane.Proofs.Config.Faults
import ServicePlane.Proofs.Config.Verdict
import ServicePlane.Proofs.Application.Building
import ServicePlane.Proofs.Application.Agreement
import ServicePlane.Proofs.Application.Preparing
import ServicePlane.Proofs.Application.Starting
import ServicePlane.Proofs.Application.Boot
import ServicePlane.Proofs.Http.Routing
import ServicePlane.Proofs.Http.Headers
import ServicePlane.Proofs.Http.Percent
import ServicePlane.Proofs.Http.Address
import ServicePlane.Proofs.Operator.Authority
import ServicePlane.Proofs.Operator.Put
import ServicePlane.Proofs.Operator.Command
import ServicePlane.Proofs.Lifecycle.Addition
import ServicePlane.Proofs.Availability.Grace
import ServicePlane.Proofs.Monitor.Succession
import ServicePlane.Proofs.Lifecycle.Fallback
import ServicePlane.Proofs.Lifecycle.Resumption
import ServicePlane.Proofs.Telemetry.Series
import ServicePlane.Proofs.Availability.Rejection
import ServicePlane.Proofs.Availability.Monotonicity
import ServicePlane.Proofs.Availability.Announcements
import ServicePlane.Proofs.Plane.Reconciliation
import ServicePlane.Proofs.Plane.Gating
import ServicePlane.Proofs.Plane.Lasting
import ServicePlane.Proofs.Application.Exits
import ServicePlane.Proofs.Config.RoundTrip
import ServicePlane.Proofs.Lifecycle.Stopping
import ServicePlane.Proofs.Lifecycle.Samples
import ServicePlane.Proofs.Lifecycle.ShutdownPlaces
import ServicePlane.Proofs.Config.Omissions
import ServicePlane.Proofs.Lifecycle.Termination
