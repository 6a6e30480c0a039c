import CompilationChecks.Activity
import CompilationChecks.Call
import CompilationChecks.Check.Chain
import CompilationChecks.Check.Complaint
import CompilationChecks.Check.Groups
import CompilationChecks.Check.Outcome
import CompilationChecks.Check.Reports
import CompilationChecks.Codec.Diagnostic
import CompilationChecks.Codec.Fixture
import CompilationChecks.Codec.Location
import CompilationChecks.Codec.Log
import CompilationChecks.Codec.Report
import CompilationChecks.CommandLine
import CompilationChecks.CommandLine.Help
import CompilationChecks.Compilation
import CompilationChecks.Container
import CompilationChecks.Decimal.Shortest
import CompilationChecks.Delegate
import CompilationChecks.Diagnostic
import CompilationChecks.Disk
import CompilationChecks.Failure
import CompilationChecks.File
import CompilationChecks.Fixture
import CompilationChecks.Group
import CompilationChecks.Json.Decode
import CompilationChecks.Json.Number
import CompilationChecks.Json.Outline
import CompilationChecks.Json.Token
import CompilationChecks.Json.Value
import CompilationChecks.Location
import CompilationChecks.Log.Depth
import CompilationChecks.Log.Event
import CompilationChecks.Log.Journal
import CompilationChecks.Log.Level
import CompilationChecks.Log.Notice
import CompilationChecks.Log.Transcript
import CompilationChecks.LoggingMode
import CompilationChecks.Main
import CompilationChecks.Operation
import CompilationChecks.Path
import CompilationChecks.Proofs.BinaryNames
import CompilationChecks.Proofs.Blanking
import CompilationChecks.Proofs.ByteOrder
import CompilationChecks.Proofs.CanonicalPaths
import CompilationChecks.Proofs.Check.Blocks
import CompilationChecks.Proofs.Check.Files
import CompilationChecks.Proofs.Check.Outcomes
import CompilationChecks.Proofs.Check.Selectors
import CompilationChecks.Proofs.Checks
import CompilationChecks.Proofs.Codec.Recovery
import CompilationChecks.Proofs.Containers
import CompilationChecks.Proofs.Delegate.BalancedLog
import CompilationChecks.Proofs.Delegate.Conversation
import CompilationChecks.Proofs.Delegate.Discretion
import CompilationChecks.Proofs.Delegate.Interception
import CompilationChecks.Proofs.Delegate.LogLines
import CompilationChecks.Proofs.Delegate.QuieterSinks
import CompilationChecks.Proofs.Delegate.Service
import CompilationChecks.Proofs.Delegate.Threads
import CompilationChecks.Proofs.Delegate.Transparency
import CompilationChecks.Proofs.Delegate.Truth
import CompilationChecks.Proofs.Delegate.Unwrapping
import CompilationChecks.Proofs.Failures
import CompilationChecks.Proofs.Json.ReadBack
import CompilationChecks.Proofs.Json.Records
import CompilationChecks.Proofs.Listing
import CompilationChecks.Proofs.LocationNames
import CompilationChecks.Proofs.Log.Lines
import CompilationChecks.Proofs.OneLine
import CompilationChecks.Proofs.Resolution
import CompilationChecks.Proofs.Store.ClassFiles
import CompilationChecks.Proofs.Store.Closing
import CompilationChecks.Proofs.Store.Correspondence
import CompilationChecks.Proofs.Store.Getters
import CompilationChecks.Proofs.Store.Growth
import CompilationChecks.Proofs.Store.ListedFiles
import CompilationChecks.Proofs.Store.Modules
import CompilationChecks.Proofs.Store.NamedFiles
import CompilationChecks.Proofs.Store.Queries
import CompilationChecks.Proofs.Store.Reachable
import CompilationChecks.Proofs.Store.Renaming
import CompilationChecks.Proofs.Store.Roots
import CompilationChecks.Proofs.Store.Slots
import CompilationChecks.Proofs.Store.WriteOutcome
import CompilationChecks.Proofs.Store.WriteRead
import CompilationChecks.Proofs.Store.WrittenFile
import CompilationChecks.Proofs.TableChanges
import CompilationChecks.Proofs.Utf8
import CompilationChecks.Proofs.Verification.Closing
import CompilationChecks.Proofs.Verification.Delivery
import CompilationChecks.Proofs.Verification.Filled
import CompilationChecks.Proofs.Verification.Indifference
import CompilationChecks.Proofs.Verification.Materialised
import CompilationChecks.Proofs.Verification.Trace
import CompilationChecks.Proofs.Verification.Verdict
import CompilationChecks.Proofs.WriteHistory
import CompilationChecks.Report
import CompilationChecks.Scenario.Desk
import CompilationChecks.Scenario.Play
import CompilationChecks.Scenario.Register
import CompilationChecks.Scenario.Rig
import CompilationChecks.Scenario.Step
import CompilationChecks.Scenario.Transcript
import CompilationChecks.Shelf
import CompilationChecks.Snapshot
import CompilationChecks.SortedTable
import CompilationChecks.Store
import CompilationChecks.Text.Blank
import CompilationChecks.Text.Inspection
import CompilationChecks.Text.Letters
import CompilationChecks.Text.Printable
import CompilationChecks.Text.Quoted
import CompilationChecks.Text.Split
import CompilationChecks.Text.Utf8
import CompilationChecks.Verification
