import WyrePlumber.Library.Machine
import WyrePlumber.Library.KeyedTable
import WyrePlumber.Library.Python
import WyrePlumber.Library.Calendar
import WyrePlumber.Library.SequencedStream
import WyrePlumber.Library.FifoDispatcher
import WyrePlumber.Native.Connection
import WyrePlumber.Native.Generation
import WyrePlumber.Native.Reports
import WyrePlumber.Native.MutationIsolation
import WyrePlumber.Native.ObservationIsolation
import WyrePlumber.Native.EventStream
import WyrePlumber.Native.Stopping
import WyrePlumber.Native.Dispatcher
import WyrePlumber.Native.ManagedLinks
import WyrePlumber.Native.LinkEffects
import WyrePlumber.Native.LinkIdentity
import WyrePlumber.Native.LinkAdoption
import WyrePlumber.Native.LinkUniqueness
import WyrePlumber.Runtime.RoundTrip
import WyrePlumber.Runtime.EventDelivery
import WyrePlumber.Runtime.Deadline
import WyrePlumber.Runtime.Tampering
import WyrePlumber.Native.CallSlot
import WyrePlumber.Native.RuntimeEvents
import WyrePlumber.Coordination.SequenceGuard
import WyrePlumber.Coordination.FailureKinds
import WyrePlumber.Native.Extraction
import WyrePlumber.Runtime.SelectionGuard
import WyrePlumber.Spa.PropertyFlags
import WyrePlumber.Spa.Containment
import WyrePlumber.Runtime.ChoiceForms
import WyrePlumber.Runtime.DefaultDevices
import WyrePlumber.Runtime.SnapshotIndexes
import WyrePlumber.Coordination.Projection
import WyrePlumber.Native.Waiters
import WyrePlumber.Native.ProjectionCompleteness
