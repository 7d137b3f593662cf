import LogDevice.Types
import LogDevice.Lib.Except
import LogDevice.Lib.Run
import LogDevice.Lib.Word
import LogDevice.Lib.Loop
import LogDevice.Lib.AList
import LogDevice.Membership.StorageState
import LogDevice.Membership.ShardState
import LogDevice.Membership.StorageMembership
import LogDevice.Membership.ApplyUpdate
import LogDevice.Membership.Validate
import LogDevice.Membership.TwoPhase
import LogDevice.Recovery.Digest
import LogDevice.Rebuilding.RebuildingSet
import LogDevice.Rebuilding.AuthStatus
import LogDevice.Rebuilding.Update
import LogDevice.Rebuilding.Invariant
import LogDevice.Rebuilding.AuthoritativeEmpty
import LogDevice.Lib.Count
import LogDevice.Configuration.Location
import LogDevice.FailureDomain.NodeSet
import LogDevice.FailureDomain.Counts
import LogDevice.FailureDomain.Consistency
import LogDevice.FailureDomain.Fmajority
import LogDevice.FailureDomain.Aggregates
import LogDevice.Lsn
import LogDevice.Lib.Ring
import LogDevice.SlidingWindow.Spec
import LogDevice.SlidingWindow.Slots
import LogDevice.SlidingWindow.Window
import LogDevice.SlidingWindow.SingleEpoch
import LogDevice.FailureDomain.Monotone
import LogDevice.FailureDomain.Copyset
import LogDevice.Safety.CheckerUtils
import LogDevice.Safety.Availability
import LogDevice.Lib.Lattice
import LogDevice.Configuration.Replication
import LogDevice.EpochMetaDataMap
import LogDevice.Lib.Bytes
import LogDevice.LocalLogStore.RocksDBKeyFormat
import LogDevice.LocalLogStore.FindKey
import LogDevice.Sampling.Distribution
import LogDevice.Sampling.Sample
import LogDevice.OffsetMap
import LogDevice.Metadata
import LogDevice.LocalLogStore.MetadataMerge
import LogDevice.LocalLogStore.Keys
import LogDevice.RecordFormat.Header
import LogDevice.RecordFormat.Parse
import LogDevice.RecordFormat.RoundTrip
import LogDevice.Membership.Thrift
import LogDevice.RecordCache.Entry
import LogDevice.Lib.Wire
import LogDevice.Protocol.StoreMessage
import LogDevice.RecordFormat.CopySetIndex
import LogDevice.LogsConfig.Tree
import LogDevice.LogsConfig.Rename
import LogDevice.LogsConfig.Delete
import LogDevice.Lib.Simulation
import LogDevice.Lib.Visit
import LogDevice.Lib.OrderedMap
import LogDevice.LogsConfig.Attribute
import LogDevice.LogsConfig.SetAttributes
import LogDevice.LogsConfig.Inheritance
import LogDevice.ClientReadStream.Buffer
import LogDevice.ClientReadStream.CircularBuffer
import LogDevice.ClientReadStream.OrderedMapBuffer
import LogDevice.ClientReadStream.CircularBufferSpec
import LogDevice.ClientReadStream.OrderedMapBufferSpec
import LogDevice.ClientReadStream.Equivalence
import LogDevice.Lib.Bits
import LogDevice.RecordCache.EpochRecordCache
import LogDevice.RecordCache.Invariant
import LogDevice.RecordCache.Run
import LogDevice.RecordCache.Lookup
import LogDevice.RecordCache.Precedence
import LogDevice.RecordCache.Tail
import LogDevice.RecordCache.Refinement
