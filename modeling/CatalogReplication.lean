import CatalogReplication.Assoc
import CatalogReplication.Catalog.DatabaseUrl
import CatalogReplication.Catalog.Error
import CatalogReplication.Catalog.Handle
import CatalogReplication.Catalog.Keyed
import CatalogReplication.Catalog.Relational
import CatalogReplication.Catalog.Request
import CatalogReplication.Catalog.Stamping
import CatalogReplication.Component.Basic
import CatalogReplication.Component.Disposable
import CatalogReplication.Component.ImportPath
import CatalogReplication.Component.Loading
import CatalogReplication.Component.Package
import CatalogReplication.Component.Requirements
import CatalogReplication.Config.Configuration
import CatalogReplication.Config.Context
import CatalogReplication.Config.Document
import CatalogReplication.Config.Error
import CatalogReplication.Config.Nesting
import CatalogReplication.Config.Search
import CatalogReplication.Console.Logging
import CatalogReplication.Console.Options
import CatalogReplication.Console.Renderer
import CatalogReplication.Console.Severity
import CatalogReplication.Console.Template
import CatalogReplication.Failure
import CatalogReplication.Files.Disk
import CatalogReplication.Files.Tree
import CatalogReplication.Files.Walk
import CatalogReplication.Lab.Console
import CatalogReplication.Lab.Hooks
import CatalogReplication.Lab.Locks
import CatalogReplication.Lab.Scenario
import CatalogReplication.Lab.Session
import CatalogReplication.Lab.World
import CatalogReplication.Location.HostAddress
import CatalogReplication.Location.Rebase
import CatalogReplication.Location.Url
import CatalogReplication.Lock.Error
import CatalogReplication.Lock.Hall
import CatalogReplication.Lock.Manager
import CatalogReplication.Lock.NodeName
import CatalogReplication.Lock.Registry
import CatalogReplication.Lock.Requirement
import CatalogReplication.Lock.State
import CatalogReplication.Number.Binary64
import CatalogReplication.Number.Decimal
import CatalogReplication.Number.Format
import CatalogReplication.PartitionName
import CatalogReplication.Program
import CatalogReplication.Proofs.Assoc
import CatalogReplication.Proofs.Catalog.Agreement
import CatalogReplication.Proofs.Catalog.Comparison
import CatalogReplication.Proofs.Catalog.Identity
import CatalogReplication.Proofs.Catalog.Integrity
import CatalogReplication.Proofs.Catalog.Kind
import CatalogReplication.Proofs.Catalog.Permanence
import CatalogReplication.Proofs.Catalog.Register
import CatalogReplication.Proofs.Catalog.Relational
import CatalogReplication.Proofs.Catalog.Service
import CatalogReplication.Proofs.Catalog.Site
import CatalogReplication.Proofs.Catalog.Storage
import CatalogReplication.Proofs.Catalog.View
import CatalogReplication.Proofs.Component.Loading
import CatalogReplication.Proofs.Config.Acts
import CatalogReplication.Proofs.Config.Blocks
import CatalogReplication.Proofs.Config.Keeping
import CatalogReplication.Proofs.Config.Layers
import CatalogReplication.Proofs.Config.Ledger
import CatalogReplication.Proofs.Config.LockManager
import CatalogReplication.Proofs.Config.Nesting
import CatalogReplication.Proofs.Files.Disk
import CatalogReplication.Proofs.Files.Tree
import CatalogReplication.Proofs.Interleaving
import CatalogReplication.Proofs.Location.Plain
import CatalogReplication.Proofs.Location.Rebase
import CatalogReplication.Proofs.Lock.Alone
import CatalogReplication.Proofs.Lock.Bookkeeping
import CatalogReplication.Proofs.Lock.Cleanup
import CatalogReplication.Proofs.Lock.Conflict
import CatalogReplication.Proofs.Lock.Crew
import CatalogReplication.Proofs.Lock.Desk
import CatalogReplication.Proofs.Lock.Exclusion
import CatalogReplication.Proofs.Lock.Hold
import CatalogReplication.Proofs.Lock.Nest
import CatalogReplication.Proofs.Lock.NodeName
import CatalogReplication.Proofs.Lock.Notification
import CatalogReplication.Proofs.Lock.Order
import CatalogReplication.Proofs.Lock.Progress
import CatalogReplication.Proofs.Lock.Registry
import CatalogReplication.Proofs.Lock.Sequence
import CatalogReplication.Proofs.Lock.Session
import CatalogReplication.Proofs.Lock.Use
import CatalogReplication.Proofs.PartitionName
import CatalogReplication.Proofs.Program
import CatalogReplication.Proofs.Race.Conclusion
import CatalogReplication.Proofs.Race.Effect
import CatalogReplication.Proofs.Race.Setting
import CatalogReplication.Proofs.Race.Strand
import CatalogReplication.Proofs.Record.Comparable
import CatalogReplication.Proofs.Record.Document
import CatalogReplication.Proofs.Record.Parameters
import CatalogReplication.Proofs.Spec
import CatalogReplication.Proofs.Stateful
import CatalogReplication.Proofs.Task.Builder
import CatalogReplication.Proofs.Task.Calls
import CatalogReplication.Proofs.Task.Conduct
import CatalogReplication.Proofs.Task.Consistency
import CatalogReplication.Proofs.Task.Data
import CatalogReplication.Proofs.Task.DataFirst
import CatalogReplication.Proofs.Task.Decision
import CatalogReplication.Proofs.Task.Frame
import CatalogReplication.Proofs.Task.Freely
import CatalogReplication.Proofs.Task.Idempotence
import CatalogReplication.Proofs.Task.Pair
import CatalogReplication.Proofs.Task.Partners
import CatalogReplication.Proofs.Task.Precedence
import CatalogReplication.Proofs.Task.Protection
import CatalogReplication.Proofs.Task.Replicate
import CatalogReplication.Proofs.Task.Resume
import CatalogReplication.Proofs.Task.Retry
import CatalogReplication.Proofs.Task.SourceKept
import CatalogReplication.Proofs.Task.Staging
import CatalogReplication.Proofs.Task.Story
import CatalogReplication.Proofs.Task.Update
import CatalogReplication.Proofs.Text.Cut
import CatalogReplication.Proofs.Text.Escape
import CatalogReplication.Proofs.Text.Percent
import CatalogReplication.Proofs.Text.Reference
import CatalogReplication.Proofs.Transcript
import CatalogReplication.Proofs.Transfer.Carrier
import CatalogReplication.Proofs.Transfer.Copy
import CatalogReplication.Proofs.Transfer.CrashSafety
import CatalogReplication.Proofs.Transfer.Faultless
import CatalogReplication.Proofs.Transfer.Replace
import CatalogReplication.Proofs.Transfer.Report
import CatalogReplication.Proofs.Transfer.Spare
import CatalogReplication.Proofs.Transfer.Trial
import CatalogReplication.Proofs.Transfer.Watch
import CatalogReplication.Proofs.Value.Alike
import CatalogReplication.Proofs.Value.Exchange
import CatalogReplication.Proofs.Value.Expand
import CatalogReplication.Proofs.Value.Json
import CatalogReplication.Proofs.Value.Merge
import CatalogReplication.Proofs.Value.Path
import CatalogReplication.Record.Any
import CatalogReplication.Record.Basic
import CatalogReplication.Record.Comparable
import CatalogReplication.Record.Document
import CatalogReplication.Record.Parameters
import CatalogReplication.Spec
import CatalogReplication.Task.Builder
import CatalogReplication.Task.Calls
import CatalogReplication.Task.ConflictPolicy
import CatalogReplication.Task.Data
import CatalogReplication.Task.Outcome
import CatalogReplication.Task.Replicate
import CatalogReplication.Text.Blank
import CatalogReplication.Text.CaseFold
import CatalogReplication.Text.CaseFold.Table
import CatalogReplication.Text.Character
import CatalogReplication.Text.Character.Hidden
import CatalogReplication.Text.Character.Word
import CatalogReplication.Text.Cut
import CatalogReplication.Text.Lines
import CatalogReplication.Text.Numeral
import CatalogReplication.Text.Percent
import CatalogReplication.Text.Utf8
import CatalogReplication.Trace.Event
import CatalogReplication.Trace.Hook
import CatalogReplication.Transfer.Calls
import CatalogReplication.Transfer.Directory
import CatalogReplication.Transfer.Error
import CatalogReplication.Transfer.Options
import CatalogReplication.Transfer.Request
import CatalogReplication.Value.Basic
import CatalogReplication.Value.Display
import CatalogReplication.Value.Expand
import CatalogReplication.Value.Json
import CatalogReplication.Value.Merge
import CatalogReplication.Value.Order
