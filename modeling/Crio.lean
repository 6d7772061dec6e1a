import Crio.Lib.Reachability
import Crio.Lib.Bitmap
import Crio.Lib.ByteBuffer
import Crio.Lib.ByteFile
import Crio.Lib.Utf8
import Crio.Common.Types
import Crio.Storage.ExtentAllocator
import Crio.Storage.ExtentAllocatorInvariant
import Crio.Storage.Page.DirectoryPage
import Crio.Storage.DiskManager
import Crio.Storage.DiskManagerAllocation
import Crio.Storage.DiskScheduler
import Crio.Storage.DiskSchedulerProtocol
import Crio.Tuple.Value
import Crio.Lib.PartialCmp
import Crio.Tuple.ValueCompare
import Crio.Tuple.Schema
import Crio.Tuple.Tuple
import Crio.Lib.Intervals
import Crio.Storage.Page.SlottedPage
import Crio.Storage.Page.TablePage
import Crio.Storage.Page.SlottedPageLayout
import Crio.Storage.Page.SlottedPageSpec
import Crio.Storage.Page.SlottedPageCompact
import Crio.Storage.Page.SlottedPageRuns
import Crio.Lib.SlotMap
import Crio.Storage.Page.SlottedPageMap
import Crio.Buffer.BufferPoolManager
import Crio.Buffer.BufferPoolRuns
import Crio.Index.BTreeIndex
import Crio.Index.BTreeRuns
import Crio.Lib.StateOption
import Crio.Lib.AListCount
import Crio.Buffer.LruKRuns
import Crio.Lib.KeyedList
import Crio.Storage.Page.DirectoryPageMap
import Crio.Tuple.SchemaCodec
import Crio.Index.BTreePool
import Crio.Lib.IndexLoops
import Crio.Index.BTreePage
import Crio.Index.BTreePageLayout
import Crio.Index.BTreeIterator
import Crio.Tuple.TupleCodec
import Crio.Storage.DiskManagerPages
import Crio.Index.BTreeLeafInsert
import Crio.Index.BTreeLeafSplit
import Crio.Tuple.TupleSize
import Crio.Tuple.ColumnLookup
import Crio.Tuple.TupleBuilder
import Crio.Index.KeyComparator
import Crio.Storage.DiskSchedulerSerial
import Crio.Storage.DiskSchedulerPages
