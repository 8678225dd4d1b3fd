import ServiceShell.Main
import ServiceShell.Proofs.Result
import ServiceShell.Proofs.Shape.Resolution
import ServiceShell.Proofs.Shape.Termination
import ServiceShell.Proofs.Schema.Compiled
import ServiceShell.Proofs.Shape.BackReference
import ServiceShell.Proofs.Signature.Batch
import ServiceShell.Proofs.Text.Unique
import ServiceShell.Proofs.Json.Quoted
import ServiceShell.Proofs.Signature.Parameters
import ServiceShell.Proofs.Shape.Refusal
import ServiceShell.Proofs.Text.Line
import ServiceShell.Proofs.Text.OneLine
import ServiceShell.Proofs.Signature.Lines
import ServiceShell.Proofs.Module.Completers
import ServiceShell.Proofs.Shape.Cut
import ServiceShell.Proofs.Shape.Limit
import ServiceShell.Proofs.Shape.Reachability
import ServiceShell.Proofs.Host.Note
import ServiceShell.Proofs.Schema.Agreement
import ServiceShell.Proofs.Signature.Notes
import ServiceShell.Proofs.Schema.Record
import ServiceShell.Proofs.Document.Made
import ServiceShell.Proofs.Json.Splitting
import ServiceShell.Proofs.Json.RoundTrip
import ServiceShell.Proofs.Json.Characters
import ServiceShell.Proofs.Json.Parsed
import ServiceShell.Proofs.Files.Tree
import ServiceShell.Proofs.Files.Replacement
import ServiceShell.Proofs.Workspace.Job
import ServiceShell.Proofs.Schema.Store
import ServiceShell.Proofs.Settings.Layers
import ServiceShell.Proofs.Settings.Storable
import ServiceShell.Proofs.Settings.Change
import ServiceShell.Proofs.Settings.Saved
import ServiceShell.Proofs.Command.Keeps
import ServiceShell.Proofs.Command.Configure
import ServiceShell.Proofs.Command.Configured
import ServiceShell.Proofs.Command.Lookup
import ServiceShell.Proofs.Command.Generate
import ServiceShell.Proofs.Command.Display
import ServiceShell.Proofs.Files.Faults
import ServiceShell.Proofs.Service.Source
import ServiceShell.Proofs.Text.Words
import ServiceShell.Proofs.Signature.Variables
import ServiceShell.Proofs.Signature.Call
import ServiceShell.Proofs.Host.Column
import ServiceShell.Proofs.Service.ErrorShape
import ServiceShell.Proofs.Host.Sample
import ServiceShell.Proofs.Host.Rules
import ServiceShell.Proofs.Shape.MemberNames
import ServiceShell.Proofs.Host.Pruning
import ServiceShell.Proofs.Signature.Output
import ServiceShell.Proofs.Signature.Paging
import ServiceShell.Proofs.Document.Layered
import ServiceShell.Proofs.Schema.Merged
import ServiceShell.Proofs.Command.Steps
import ServiceShell.Proofs.Command.Printed
import ServiceShell.Proofs.Command.Columns
import ServiceShell.Proofs.Schema.Accepted
import ServiceShell.Proofs.Service.Noun
import ServiceShell.Proofs.Service.Resource
import ServiceShell.Proofs.Record.Fault
import ServiceShell.Proofs.Settings.Pattern
import ServiceShell.Proofs.Settings.Outcome
import ServiceShell.Proofs.Settings.Breakdown
import ServiceShell.Proofs.Settings.Limit
import ServiceShell.Proofs.Service.NounForm
import ServiceShell.Proofs.Text.Summary
import ServiceShell.Proofs.Text.Search
