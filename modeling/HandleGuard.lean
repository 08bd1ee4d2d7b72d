import HandleGuard.Binding
import HandleGuard.Foreign.Binding
import HandleGuard.Foreign.Calls
import HandleGuard.Main
import HandleGuard.Proofs.Context.Alike
import HandleGuard.Proofs.Context.Conservation
import HandleGuard.Proofs.Context.Detached
import HandleGuard.Proofs.Context.Forest
import HandleGuard.Proofs.Context.Frame
import HandleGuard.Proofs.Context.Ideal
import HandleGuard.Proofs.Context.Leaks
import HandleGuard.Proofs.Context.Outcome
import HandleGuard.Proofs.Context.Reporting
import HandleGuard.Proofs.Context.Run
import HandleGuard.Proofs.Context.Shield
import HandleGuard.Proofs.Context.Simulation
import HandleGuard.Proofs.Context.Step
import HandleGuard.Proofs.Context.TableRuns
import HandleGuard.Proofs.Context.Timeline
import HandleGuard.Proofs.Context.Tower
import HandleGuard.Proofs.Context.Transparent
import HandleGuard.Proofs.Diagnostic.Log
import HandleGuard.Proofs.Foreign.Agreement
import HandleGuard.Proofs.Foreign.Bindings
import HandleGuard.Proofs.Foreign.LastErrors
import HandleGuard.Proofs.Foreign.Pointers
import HandleGuard.Proofs.Foreign.Process
import HandleGuard.Proofs.Foreign.Recorded
import HandleGuard.Proofs.Json.Records
import HandleGuard.Proofs.Json.RoundTrip
import HandleGuard.Proofs.Process.Isolation
import HandleGuard.Proofs.Process.Registry
import HandleGuard.Proofs.Process.Run
import HandleGuard.Proofs.Replay.Exact
import HandleGuard.Proofs.Replay.Issues
import HandleGuard.Proofs.Replay.Lifetimes
import HandleGuard.Proofs.Replay.Report
import HandleGuard.Proofs.Replay.Sessions
import HandleGuard.Proofs.Replay.Stops
import HandleGuard.Proofs.Store.Objects
import HandleGuard.Proofs.Store.Produced
import HandleGuard.Proofs.Store.References
import HandleGuard.Proofs.Store.Refusal
import HandleGuard.Proofs.Table.Bindings
import HandleGuard.Proofs.Table.Classification
import HandleGuard.Proofs.Table.Generations
import HandleGuard.Proofs.Table.Growth
import HandleGuard.Proofs.Table.History
import HandleGuard.Proofs.Table.Queue
import HandleGuard.Proofs.Table.Remembered
import HandleGuard.Proofs.Table.Reuse
import HandleGuard.Proofs.Table.Room
import HandleGuard.Proofs.Table.Run
import HandleGuard.Proofs.Table.Short
import HandleGuard.Proofs.Table.Step
import HandleGuard.Proofs.Table.Views
import HandleGuard.Proofs.Table.WellFormed
import HandleGuard.Proofs.Text.Encoding
import HandleGuard.Proofs.Trace.Text
import HandleGuard.Text.Numeral
import HandleGuard.Proofs.Diagnostic.Drains
import HandleGuard.Proofs.Handle.Bits
import HandleGuard.Proofs.Config.Environment
import HandleGuard.Proofs.Store.Allocation
import HandleGuard.Proofs.Store.Leases
