import RoleDaemon.BootstrapError
import RoleDaemon.Cause
import RoleDaemon.Cli.Arguments
import RoleDaemon.Cli.Parameter
import RoleDaemon.Cli.Process
import RoleDaemon.Config.Basic
import RoleDaemon.Config.Expansion
import RoleDaemon.Config.Format
import RoleDaemon.Config.Load
import RoleDaemon.Environment.Basic
import RoleDaemon.Environment.Diagnostics
import RoleDaemon.Files.Path
import RoleDaemon.Files.Tree
import RoleDaemon.Hostname
import RoleDaemon.Http.JsonBody
import RoleDaemon.Http.MediaType
import RoleDaemon.Http.Message
import RoleDaemon.Http.Route
import RoleDaemon.Identity
import RoleDaemon.Json.Fault
import RoleDaemon.Json.Read
import RoleDaemon.Json.Scan
import RoleDaemon.Json.Value
import RoleDaemon.Lifecycle
import RoleDaemon.Log.Event
import RoleDaemon.Log.Filter
import RoleDaemon.Log.Line
import RoleDaemon.Machine
import RoleDaemon.Main
import RoleDaemon.Metrics.Exposition
import RoleDaemon.Metrics.Histogram
import RoleDaemon.Metrics.Name
import RoleDaemon.Metrics.Registry
import RoleDaemon.Metrics.Series
import RoleDaemon.Net.Address
import RoleDaemon.Net.Sockets
import RoleDaemon.Number.Binary64
import RoleDaemon.Number.Shortest
import RoleDaemon.Occasion
import RoleDaemon.Proofs.Config.Expansion
import RoleDaemon.Proofs.Config.Layers
import RoleDaemon.Proofs.Config.RoundTrip
import RoleDaemon.Proofs.Config.Services
import RoleDaemon.Proofs.Config.Supply
import RoleDaemon.Proofs.Config.Template
import RoleDaemon.Proofs.Environment.Attempts
import RoleDaemon.Proofs.Environment.Diagnostics
import RoleDaemon.Proofs.Environment.Pages
import RoleDaemon.Proofs.Hostname
import RoleDaemon.Proofs.Identity
import RoleDaemon.Proofs.Json.Defaults
import RoleDaemon.Proofs.Json.Reading
import RoleDaemon.Proofs.Json.Scanning
import RoleDaemon.Proofs.Json.Syntax
import RoleDaemon.Proofs.Json.Writing
import RoleDaemon.Proofs.Metrics.Admission
import RoleDaemon.Proofs.Metrics.Book
import RoleDaemon.Proofs.Metrics.Flags
import RoleDaemon.Proofs.Metrics.History
import RoleDaemon.Proofs.Metrics.Reading
import RoleDaemon.Proofs.Metrics.Refusal
import RoleDaemon.Proofs.Metrics.Registration
import RoleDaemon.Proofs.Metrics.Reordering
import RoleDaemon.Proofs.Metrics.Sequence
import RoleDaemon.Proofs.Metrics.Series
import RoleDaemon.Proofs.Metrics.Views
import RoleDaemon.Proofs.Net.Literal
import RoleDaemon.Proofs.Net.Sockets
import RoleDaemon.Proofs.Number.Shortest
import RoleDaemon.Proofs.Readiness
import RoleDaemon.Proofs.Rpc.Trace
import RoleDaemon.Proofs.Service.Accounts
import RoleDaemon.Proofs.Service.Handle
import RoleDaemon.Proofs.Service.Handover
import RoleDaemon.Proofs.Service.Holdings
import RoleDaemon.Proofs.Service.Lifetime
import RoleDaemon.Proofs.Service.Planning
import RoleDaemon.Proofs.Service.Promises
import RoleDaemon.Proofs.Service.Tracing
import RoleDaemon.Proofs.Supervisor.Course
import RoleDaemon.Proofs.Supervisor.FailFast
import RoleDaemon.Proofs.Supervisor.Join
import RoleDaemon.Proofs.Supervisor.Readiness
import RoleDaemon.Proofs.Supervisor.Release
import RoleDaemon.Proofs.Supervisor.Run
import RoleDaemon.Proofs.Supervisor.Stages
import RoleDaemon.Proofs.Task.History
import RoleDaemon.Proofs.Text.Splitting
import RoleDaemon.Proofs.Text.Trimming
import RoleDaemon.Proofs.Uuid
import RoleDaemon.Readiness
import RoleDaemon.Role
import RoleDaemon.Rpc.Trace
import RoleDaemon.Service.Calls
import RoleDaemon.Service.Execution
import RoleDaemon.Service.Handle
import RoleDaemon.Service.Transport
import RoleDaemon.Subsystem.Basic
import RoleDaemon.Subsystem.Defaults
import RoleDaemon.Supervisor.Activation
import RoleDaemon.Supervisor.Course
import RoleDaemon.Supervisor.Join
import RoleDaemon.Supervisor.Run
import RoleDaemon.Task.Registry
import RoleDaemon.Text.Blank
import RoleDaemon.Text.Digits
import RoleDaemon.Text.Printable
import RoleDaemon.Text.Quoted
import RoleDaemon.Timestamp
import RoleDaemon.Uuid
import RoleDaemon.Proofs.Files.Path
import RoleDaemon.Proofs.Subsystem.Run
import RoleDaemon.Proofs.Subsystem.Defaults
