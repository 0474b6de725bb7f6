import EmbeddedPython.Error
import EmbeddedPython.Log
import EmbeddedPython.Options.File
import EmbeddedPython.Cancellation.Script
import EmbeddedPython.Lock.Script
import EmbeddedPython.Asyncio.Coroutine
import EmbeddedPython.Asyncio.Methods
import EmbeddedPython.Bridge.Basic
import EmbeddedPython.Bridge.Driver
import EmbeddedPython.Bridge.EventLoop
import EmbeddedPython.Bridge.Iteration
import EmbeddedPython.Bridge.Script
import EmbeddedPython.CommandLine.Deadline
import EmbeddedPython.CommandLine.Help
import EmbeddedPython.CommandLine.Program
import EmbeddedPython.Environment.Script
import EmbeddedPython.Environment.System
import EmbeddedPython.Proofs.Bridge.Idle
import EmbeddedPython.Proofs.Bridge.Change
import EmbeddedPython.Proofs.Bridge.Move
import EmbeddedPython.Proofs.Bridge.Ledger
import EmbeddedPython.Proofs.Bridge.Promise
import EmbeddedPython.Proofs.Environment.Resolution
import EmbeddedPython.Proofs.Bridge.Lease
import EmbeddedPython.Proofs.Environment.Finalization
import EmbeddedPython.Proofs.Host.Owning
import EmbeddedPython.Proofs.Host.Fetching
import EmbeddedPython.Proofs.Handle.Operation
import EmbeddedPython.Proofs.Object.Freeing
import EmbeddedPython.Proofs.Handle.Conservation
import EmbeddedPython.Object.Evolution
import EmbeddedPython.Proofs.Interpreter.Method
import EmbeddedPython.Proofs.Asyncio.Method
import EmbeddedPython.Proofs.Asyncio.StopOnDone
import EmbeddedPython.Proofs.Host.Succeeding
import EmbeddedPython.Proofs.Asyncio.Notice
import EmbeddedPython.Proofs.Environment.History
import EmbeddedPython.Proofs.Environment.Opening
import EmbeddedPython.Proofs.Environment.Board
import EmbeddedPython.Proofs.Environment.Act
import EmbeddedPython.Proofs.Environment.Driving
import EmbeddedPython.Proofs.Environment.Acting
import EmbeddedPython.Proofs.Environment.Turn
import EmbeddedPython.Proofs.Environment.Settling
import EmbeddedPython.Proofs.Environment.Order
import EmbeddedPython.Proofs.Environment.Stopping
import EmbeddedPython.Proofs.Environment.Tracking
import EmbeddedPython.Proofs.Environment.Registry
import EmbeddedPython.Proofs.Environment.Calls
import EmbeddedPython.Proofs.Environment.Provenance
import EmbeddedPython.Proofs.Environment.Routing
import EmbeddedPython.Proofs.Environment.Cancelling
import EmbeddedPython.Proofs.Environment.Collapse
import EmbeddedPython.Proofs.Handle.Stray
import EmbeddedPython.Proofs.Bridge.Outcome
import EmbeddedPython.Proofs.Bridge.Report
import EmbeddedPython.Proofs.Environment.Memory
import EmbeddedPython.Proofs.Environment.Telling
import EmbeddedPython.Proofs.Cancellation.Account
import EmbeddedPython.Proofs.Cancellation.Calls
import EmbeddedPython.Proofs.Cancellation.Once
import EmbeddedPython.Proofs.Environment.Milestone
import EmbeddedPython.Proofs.Environment.Starting
import EmbeddedPython.Proofs.Environment.Lifecycle
import EmbeddedPython.Proofs.Host.Status
import EmbeddedPython.Proofs.Host.Describing
import EmbeddedPython.Proofs.Host.Quiet
import EmbeddedPython.Proofs.Host.Translating
import EmbeddedPython.Proofs.Host.Honest
import EmbeddedPython.Proofs.Handle.Honesty
import EmbeddedPython.Proofs.Handle.Exceptions
import EmbeddedPython.Proofs.Environment.Equipment
import EmbeddedPython.Proofs.Environment.Outfit
import EmbeddedPython.Proofs.Lock.Course
import EmbeddedPython.Proofs.Lock.Ownership
import EmbeddedPython.Proofs.Handle.Reading
import EmbeddedPython.Proofs.Host.Behavior
import EmbeddedPython.Proofs.Handle.Extraction
import EmbeddedPython.Proofs.Interpreter.Holding
import EmbeddedPython.Proofs.Handle.Encoding
import EmbeddedPython.Proofs.Handle.RoundTrip
import EmbeddedPython.Proofs.Interpreter.Keywords
import EmbeddedPython.Proofs.Interpreter.Preparation
import EmbeddedPython.Proofs.Handle.Calling
import EmbeddedPython.Proofs.Environment.Waking
import EmbeddedPython.Proofs.Cancellation.Deadlock
import EmbeddedPython.Proofs.Cancellation.Dropping
import EmbeddedPython.Proofs.Host.Naming
import EmbeddedPython.Proofs.Environment.Iterating
import EmbeddedPython.Proofs.Host.Nesting
import EmbeddedPython.Proofs.Handle.Room
import EmbeddedPython.Proofs.Lock.Counting
import EmbeddedPython.Proofs.Environment.Handback
import EmbeddedPython.Proofs.Bridge.Agreement
import EmbeddedPython.Proofs.Asyncio.Resuming
import EmbeddedPython.Proofs.Asyncio.Serving
import EmbeddedPython.Proofs.Bridge.Ending
import EmbeddedPython.Proofs.Bridge.Scheduling
import EmbeddedPython.Proofs.Environment.Errands
import EmbeddedPython.Proofs.Environment.Items
import EmbeddedPython.Proofs.Handle.Disposal
import EmbeddedPython.Proofs.Environment.Likeness
import EmbeddedPython.Proofs.Bridge.SetUp
import EmbeddedPython.Proofs.Environment.Containment
import EmbeddedPython.Proofs.Handle.Lending
import EmbeddedPython.Proofs.Environment.Clearing
import EmbeddedPython.Proofs.Environment.Refusal
import EmbeddedPython.Proofs.Handle.Equality
import EmbeddedPython.Proofs.Environment.Closing
import EmbeddedPython.Proofs.Environment.SearchPath
import EmbeddedPython.Proofs.Host.Breaking
import EmbeddedPython.Proofs.Interpreter.Importing
import EmbeddedPython.Proofs.Environment.Needs
import EmbeddedPython.Proofs.Environment.Undoing
import EmbeddedPython.Proofs.CommandLine.Paths
import EmbeddedPython.Proofs.CommandLine.Places
