import SecondaryIndex.AccessPath
import SecondaryIndex.Binary.Codec
import SecondaryIndex.Binary.Layout
import SecondaryIndex.Binary.Ordered
import SecondaryIndex.Binary.PostingList
import SecondaryIndex.Bytes
import SecondaryIndex.Codec
import SecondaryIndex.Criterion
import SecondaryIndex.Description
import SecondaryIndex.Environment
import SecondaryIndex.Error
import SecondaryIndex.Event
import SecondaryIndex.KeyLayout
import SecondaryIndex.Maintenance
import SecondaryIndex.Member.Condition
import SecondaryIndex.Member.Field
import SecondaryIndex.Member.Record
import SecondaryIndex.Member.Schema
import SecondaryIndex.OrderedMap
import SecondaryIndex.PathSelection
import SecondaryIndex.Pattern
import SecondaryIndex.Pattern.Automaton.Assembly
import SecondaryIndex.Pattern.Automaton.LiteralTree
import SecondaryIndex.Pattern.Automaton.Memory
import SecondaryIndex.Pattern.Automaton.Room
import SecondaryIndex.Pattern.Automaton.SetStates
import SecondaryIndex.Pattern.Bracket
import SecondaryIndex.Pattern.CharSet
import SecondaryIndex.Pattern.ClassPart
import SecondaryIndex.Pattern.Count
import SecondaryIndex.Pattern.Error
import SecondaryIndex.Pattern.Escape
import SecondaryIndex.Pattern.Expr
import SecondaryIndex.Pattern.NormalForm
import SecondaryIndex.Pattern.Opening
import SecondaryIndex.Pattern.Parser
import SecondaryIndex.Pattern.Positions
import SecondaryIndex.Pattern.Walk
import SecondaryIndex.PostingList
import SecondaryIndex.PostingList.Search
import SecondaryIndex.Producer
import SecondaryIndex.Query
import SecondaryIndex.QueryStream
import SecondaryIndex.RecordLayer
import SecondaryIndex.ResultStream
import SecondaryIndex.Scan
import SecondaryIndex.Schema
import SecondaryIndex.Session.Answer
import SecondaryIndex.Session.Attempt
import SecondaryIndex.Session.Commands
import SecondaryIndex.Session.Environment
import SecondaryIndex.Session.Judgement
import SecondaryIndex.Session.Layouts
import SecondaryIndex.Session.Moves
import SecondaryIndex.Session.Postings
import SecondaryIndex.Session.Run
import SecondaryIndex.Session.State
import SecondaryIndex.Session.Step
import SecondaryIndex.Session.Streams
import SecondaryIndex.Session.Transactions
import SecondaryIndex.Text.Alphabetic
import SecondaryIndex.Text.Blank
import SecondaryIndex.Text.CaseFold
import SecondaryIndex.Text.CodeRanges
import SecondaryIndex.Text.DecimalDigit
import SecondaryIndex.Text.Hex
import SecondaryIndex.Text.Listing
import SecondaryIndex.Text.Numeric
import SecondaryIndex.Text.Quoted
import SecondaryIndex.Text.Unprintable
import SecondaryIndex.Text.Utf8
import SecondaryIndex.Text.Utf8Ranges
import SecondaryIndex.Text.WordChar
import SecondaryIndex.Versioned.Access
import SecondaryIndex.Versioned.Commit
import SecondaryIndex.Versioned.Cursor
import SecondaryIndex.Versioned.Flat
import SecondaryIndex.Versioned.History
import SecondaryIndex.Versioned.Search
import SecondaryIndex.Versioned.Store
import SecondaryIndex.Versioned.Transaction
import SecondaryIndex.Proofs.Binary.Codec
import SecondaryIndex.Proofs.Binary.Extent
import SecondaryIndex.Proofs.Binary.Layout
import SecondaryIndex.Proofs.Binary.NumberOrder
import SecondaryIndex.Proofs.Binary.PostingList
import SecondaryIndex.Proofs.Bytes
import SecondaryIndex.Proofs.EntryContent
import SecondaryIndex.Proofs.Footprint
import SecondaryIndex.Proofs.Independence
import SecondaryIndex.Proofs.Interruption
import SecondaryIndex.Proofs.KeyLayout
import SecondaryIndex.Proofs.KeySeparation
import SecondaryIndex.Proofs.KeyedChanges
import SecondaryIndex.Proofs.Maintenance
import SecondaryIndex.Proofs.MaintenanceEffect
import SecondaryIndex.Proofs.OrderedMap
import SecondaryIndex.Proofs.Outcome
import SecondaryIndex.Proofs.PostingList.FiniteSet
import SecondaryIndex.Proofs.PostingList.StoredForm
import SecondaryIndex.Proofs.Query.Batches
import SecondaryIndex.Proofs.Query.BuildingOrder
import SecondaryIndex.Proofs.Query.CandidateRow
import SecondaryIndex.Proofs.Query.Exhaustion
import SecondaryIndex.Proofs.Query.FailedPulls
import SecondaryIndex.Proofs.Query.IndexScan
import SecondaryIndex.Proofs.Query.Judgement
import SecondaryIndex.Proofs.Query.Locality
import SecondaryIndex.Proofs.Query.MatchFunctions
import SecondaryIndex.Proofs.Query.PartitionScan
import SecondaryIndex.Proofs.Query.PathChoice
import SecondaryIndex.Proofs.Query.PullContract
import SecondaryIndex.Proofs.Query.Simulation
import SecondaryIndex.Proofs.Records.Agreement
import SecondaryIndex.Proofs.Records.Chronicle
import SecondaryIndex.Proofs.Records.Commutation
import SecondaryIndex.Proofs.Records.Conflicts
import SecondaryIndex.Proofs.Records.Evaluation
import SecondaryIndex.Proofs.Records.Footprint
import SecondaryIndex.Proofs.Records.IndexedLookup
import SecondaryIndex.Proofs.Records.Interleaving
import SecondaryIndex.Proofs.Records.Invariant
import SecondaryIndex.Proofs.Records.Operations
import SecondaryIndex.Proofs.Records.PathAgreement
import SecondaryIndex.Proofs.Records.PathChoice
import SecondaryIndex.Proofs.Records.RangeQuery
import SecondaryIndex.Proofs.Records.Replacement
import SecondaryIndex.Proofs.Records.Script
import SecondaryIndex.Proofs.Records.Serialization
import SecondaryIndex.Proofs.Records.World
import SecondaryIndex.Proofs.Records.WriteSets
import SecondaryIndex.Proofs.TextOrder
import SecondaryIndex.Proofs.Versioned.Bookkeeping
import SecondaryIndex.Proofs.Versioned.CursorScript
import SecondaryIndex.Proofs.Versioned.ExactBooks
import SecondaryIndex.Proofs.Versioned.FirstCommitter
import SecondaryIndex.Proofs.Versioned.FirstEntry
import SecondaryIndex.Proofs.Versioned.Flat
import SecondaryIndex.Proofs.Versioned.Listing
import SecondaryIndex.Proofs.Versioned.OpenTransactions
import SecondaryIndex.Proofs.Versioned.Publication
import SecondaryIndex.Proofs.Versioned.Run
import SecondaryIndex.Proofs.Versioned.SnapshotReads
import SecondaryIndex.Proofs.Versioned.StoreLaws
import SecondaryIndex.Proofs.Versioned.World
