import SQPyte.Func.Callables
import SQPyte.Func.Context
import SQPyte.Func.Nulls
import SQPyte.Func.Registry
import SQPyte.Func.Sums
import SQPyte.Library.BigEndian
import SQPyte.Library.Binary64
import SQPyte.Library.Binary64Arith
import SQPyte.Library.Commands
import SQPyte.Library.Comparator
import SQPyte.Library.Division
import SQPyte.Library.InternTable
import SQPyte.Library.Neighbours
import SQPyte.Library.Runs
import SQPyte.Library.SearchTree
import SQPyte.Library.SortedMerge
import SQPyte.Library.Tally
import SQPyte.Library.Truncation
import SQPyte.Library.Varint
import SQPyte.Mem.Acceptance
import SQPyte.Mem.Access
import SQPyte.Mem.Affinity
import SQPyte.Mem.Allocation
import SQPyte.Mem.Buffers
import SQPyte.Mem.CacheHolder
import SQPyte.Mem.CacheState
import SQPyte.Mem.Cell
import SQPyte.Mem.Compare
import SQPyte.Mem.Conversions
import SQPyte.Mem.Effects
import SQPyte.Mem.FlagCache
import SQPyte.Mem.Flags
import SQPyte.Mem.Forgetting
import SQPyte.Mem.ForgottenStates
import SQPyte.Mem.Frame
import SQPyte.Mem.Interning
import SQPyte.Mem.Memory
import SQPyte.Mem.Methods
import SQPyte.Mem.Numeric
import SQPyte.Mem.OneCell
import SQPyte.Mem.Ownership
import SQPyte.Mem.RealLimits
import SQPyte.Mem.Results
import SQPyte.Mem.Routines
import SQPyte.Mem.RowSet
import SQPyte.Mem.Strict
import SQPyte.Mem.Value
import SQPyte.Mem.ValueCache
import SQPyte.Record.Affinities
import SQPyte.Record.Encoding
import SQPyte.Record.Format
import SQPyte.Record.HeaderSize
import SQPyte.Record.LazyHeader
import SQPyte.Record.MakeRecord
import SQPyte.Record.RoundTrip
import SQPyte.Record.SerialTypes
import SQPyte.Record.ZeroBlob
import SQPyte.Vdbe.Accounting
import SQPyte.Vdbe.Arithmetic
import SQPyte.Vdbe.Binding
import SQPyte.Vdbe.BufferFrames
import SQPyte.Vdbe.Calls
import SQPyte.Vdbe.Cast
import SQPyte.Vdbe.Column
import SQPyte.Vdbe.Columns
import SQPyte.Vdbe.CompareJump
import SQPyte.Vdbe.Comparison
import SQPyte.Vdbe.Copies
import SQPyte.Vdbe.Coroutines
import SQPyte.Vdbe.DeepCopies
import SQPyte.Vdbe.Dispatch
import SQPyte.Vdbe.FindCompare
import SQPyte.Vdbe.Isolation
import SQPyte.Vdbe.Iteration
import SQPyte.Vdbe.KeyCompare
import SQPyte.Vdbe.LastRowid
import SQPyte.Vdbe.Mainloop
import SQPyte.Vdbe.MemoryTable
import SQPyte.Vdbe.ModeProtocol
import SQPyte.Vdbe.Moves
import SQPyte.Vdbe.NullComparison
import SQPyte.Vdbe.Nulling
import SQPyte.Vdbe.Op
import SQPyte.Vdbe.OpcodeStatus
import SQPyte.Vdbe.OperandChanges
import SQPyte.Vdbe.Parameters
import SQPyte.Vdbe.Query
import SQPyte.Vdbe.RealConversions
import SQPyte.Vdbe.Resumption
import SQPyte.Vdbe.RowSetRuns
import SQPyte.Vdbe.RowSets
import SQPyte.Vdbe.RowidSeek
import SQPyte.Vdbe.Statement
import SQPyte.Vdbe.StoredRecords
import SQPyte.Vdbe.TableCursors
import SQPyte.Vdbe.TableRuns
import SQPyte.Vdbe.TableScan
import SQPyte.Vdbe.TextSeek
import SQPyte.Vdbe.Undisturbed
import SQPyte.Vdbe.ValueComparison
