import GrallocGbmMesa.Lib.Run
import GrallocGbmMesa.Lib.Checked
import GrallocGbmMesa.Lib.Bits
import GrallocGbmMesa.Lib.Rounding
import GrallocGbmMesa.Lib.PartialMap
import GrallocGbmMesa.Lib.ByteStream
import GrallocGbmMesa.Lib.Scanner
import GrallocGbmMesa.Lib.CriticalSections
import GrallocGbmMesa.Platform.Constants
import GrallocGbmMesa.Platform.Process
import GrallocGbmMesa.Core.Format
import GrallocGbmMesa.Core.Handle
import GrallocGbmMesa.Core.Device
import GrallocGbmMesa.Core.DeviceOwner
import GrallocGbmMesa.Core.Lock
import GrallocGbmMesa.Core.Buffer
import GrallocGbmMesa.Core.LockLocal
import GrallocGbmMesa.Core.LockState
import GrallocGbmMesa.Core.LockRuns
import GrallocGbmMesa.Core.LockSafety
import GrallocGbmMesa.Core.NestedLocks
import GrallocGbmMesa.Core.AllocateImport
import GrallocGbmMesa.Core.PixelStride
import GrallocGbmMesa.Mapper.Metadata
import GrallocGbmMesa.Mapper.MetadataReader
import GrallocGbmMesa.Mapper.MetadataFormat
import GrallocGbmMesa.Mapper.PlaneLayouts
import GrallocGbmMesa.Mapper.Mapper
import GrallocGbmMesa.Mapper.ImportFree
import GrallocGbmMesa.Mapper.Records
import GrallocGbmMesa.Mapper.Session
import GrallocGbmMesa.Mapper.Ledger
import GrallocGbmMesa.Mapper.LedgerSteps
import GrallocGbmMesa.Mapper.Origins
import GrallocGbmMesa.Mapper.Resources
import GrallocGbmMesa.Mapper.MetadataStore
import GrallocGbmMesa.Mapper.Reports
import GrallocGbmMesa.Mapper.RoundTrip
import GrallocGbmMesa.Mapper.GetterReturns
import GrallocGbmMesa.Mapper.LockContract
import GrallocGbmMesa.Mapper.AcquireFence
import GrallocGbmMesa.Mapper.SharedBuffer
import GrallocGbmMesa.Mapper.ReadProtocol
import GrallocGbmMesa.Mapper.Described
import GrallocGbmMesa.Mapper.Clients
import GrallocGbmMesa.Mapper.ClientRuns
import GrallocGbmMesa.Mapper.StrayRecords
import GrallocGbmMesa.Mapper.LockCounts
import GrallocGbmMesa.Mapper.LockedCalls
import GrallocGbmMesa.Mapper.Unimported
import GrallocGbmMesa.Mapper.RawHandles
import GrallocGbmMesa.Allocator.Allocator
import GrallocGbmMesa.Allocator.Holdings
import GrallocGbmMesa.Allocator.Loops
import GrallocGbmMesa.Allocator.AllOrNothing
import GrallocGbmMesa.Allocator.Fidelity
import GrallocGbmMesa.Allocator.Calls
import GrallocGbmMesa.Allocator.Validation
import GrallocGbmMesa.Allocator.Support
import GrallocGbmMesa.Gralloc4.Gralloc
import GrallocGbmMesa.Gralloc4.DeviceLife
import GrallocGbmMesa.Allocator.BoSize
import GrallocGbmMesa.Allocator.FailureReports
import GrallocGbmMesa.Allocator.StaleWords
import GrallocGbmMesa.Core.YcbcrLocks
import GrallocGbmMesa.Gralloc4.AllocDevice
import GrallocGbmMesa.Gralloc4.FrontEnds
import GrallocGbmMesa.Mapper.BufferSizes
import GrallocGbmMesa.Mapper.FailedFrees
import GrallocGbmMesa.Mapper.PlaneGeometry
import GrallocGbmMesa.Lib.Grid
import GrallocGbmMesa.Core.Runs
import GrallocGbmMesa.Core.FailedLocks
import GrallocGbmMesa.Core.YcbcrGeometry
import GrallocGbmMesa.Gralloc4.Balance
import GrallocGbmMesa.Core.FreedMappings
import GrallocGbmMesa.Core.MapStride
import GrallocGbmMesa.Lib.Parcel
import GrallocGbmMesa.Aidl.Parcelables
import GrallocGbmMesa.Aidl.ParcelFormat
import GrallocGbmMesa.Aidl.Binder
import GrallocGbmMesa.Aidl.RemoteCalls
import GrallocGbmMesa.Aidl.InterfaceCache
import GrallocGbmMesa.Aidl.Service
import GrallocGbmMesa.Aidl.EndToEnd
import GrallocGbmMesa.Aidl.HashThreads
import GrallocGbmMesa.Gralloc4.ModuleInit
