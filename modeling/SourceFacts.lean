import SourceFacts.Command
import SourceFacts.Command.Arguments
import SourceFacts.Command.Follow
import SourceFacts.Command.Log
import SourceFacts.Command.Parse
import SourceFacts.Command.Stats
import SourceFacts.Command.World
import SourceFacts.Config
import SourceFacts.Coordinator
import SourceFacts.Decimal
import SourceFacts.Digest
import SourceFacts.Digest.Xxh3
import SourceFacts.Edit
import SourceFacts.Edit.Scan
import SourceFacts.Edit.Survey
import SourceFacts.Error
import SourceFacts.Fact
import SourceFacts.FileTree
import SourceFacts.Grammar
import SourceFacts.Grammar.Go
import SourceFacts.Grammar.Java
import SourceFacts.Grammar.Python
import SourceFacts.Grammar.Rust
import SourceFacts.Grammar.Script
import SourceFacts.Grammar.Script.ClassBody
import SourceFacts.Grammar.Script.Cursor
import SourceFacts.Grammar.Script.Element
import SourceFacts.Grammar.Script.Expression
import SourceFacts.Grammar.Script.Rules
import SourceFacts.Grammar.Script.Statement
import SourceFacts.Grammar.Script.TypeText
import SourceFacts.Ignore
import SourceFacts.Ignore.Glob
import SourceFacts.Json
import SourceFacts.Json.Number
import SourceFacts.Json.Printer
import SourceFacts.Json.Reader
import SourceFacts.Json.Record
import SourceFacts.Language
import SourceFacts.Main
import SourceFacts.Parser
import SourceFacts.Path
import SourceFacts.Pattern
import SourceFacts.Pattern.Reader
import SourceFacts.Pool
import SourceFacts.Pool.Options
import SourceFacts.Position
import SourceFacts.Progress
import SourceFacts.Proofs.CacheRecency
import SourceFacts.Proofs.Recency
import SourceFacts.Record
import SourceFacts.Router
import SourceFacts.Syntax.Group
import SourceFacts.Syntax.Token
import SourceFacts.Syntax.Tree
import SourceFacts.Task
import SourceFacts.Text.Blank
import SourceFacts.Text.Bytes
import SourceFacts.Text.CharClass
import SourceFacts.Text.Quoted
import SourceFacts.Text.Unprintable
import SourceFacts.Text.Uppercase
import SourceFacts.Toml
import SourceFacts.Toml.Table
import SourceFacts.TreeCache
import SourceFacts.Walk
import SourceFacts.Watch
import SourceFacts.Proofs.StampedMap
import SourceFacts.Proofs.EditBetween
import SourceFacts.Proofs.Ledger
import SourceFacts.Proofs.Reading
import SourceFacts.Proofs.CacheMirror
import SourceFacts.Proofs.FactsEquivalence
import SourceFacts.Proofs.RouteHistory
import SourceFacts.Proofs.ChunkEnding
import SourceFacts.Proofs.Chunks
import SourceFacts.Proofs.FailedRead
import SourceFacts.Proofs.MatchOrder
import SourceFacts.Proofs.Dispatch
import SourceFacts.Proofs.WorkerCourse
import SourceFacts.Proofs.BatchAgreement
import SourceFacts.Proofs.UseOrder
import SourceFacts.Proofs.PathIsolation
import SourceFacts.Proofs.QueueCounts
import SourceFacts.Proofs.QueueAtRest
import SourceFacts.Proofs.EscapingCrash
import SourceFacts.Proofs.Tally
import SourceFacts.Proofs.TwoPasses
import SourceFacts.Proofs.Delivery
import SourceFacts.Proofs.Disposal
import SourceFacts.Proofs.Registrations
import SourceFacts.Proofs.Bookkeeping
import SourceFacts.Proofs.ByteScan
import SourceFacts.Proofs.EditApplication
import SourceFacts.Proofs.LeastEdit
import SourceFacts.Proofs.PositionOrder
import SourceFacts.Proofs.EditGeometry
import SourceFacts.Proofs.AdjacentEdits
import SourceFacts.Proofs.BulkForgetting
import SourceFacts.Proofs.NormalForm
import SourceFacts.Proofs.BalancedChunks
import SourceFacts.Proofs.WellFormedFacts
import SourceFacts.Proofs.ExportedFunctions
import SourceFacts.Proofs.JsonScalars
import SourceFacts.Proofs.JsonSpelling
import SourceFacts.Proofs.RecordRoundTrip
