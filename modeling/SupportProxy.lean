import SupportProxy.Library.History
import SupportProxy.Library.SegmentedStream
import SupportProxy.Library.SparseArray
import SupportProxy.Mavlink.Framing
import SupportProxy.Session.MainLoop
import SupportProxy.Mavlink.Effects
import SupportProxy.Mavlink.Gate
import SupportProxy.Session.Actions
import SupportProxy.Library.Occupancy
import SupportProxy.Session.SlotTable
import SupportProxy.Session.Pointers
import SupportProxy.Session.Authentication
import SupportProxy.Binlog.Acknowledgement
import SupportProxy.Binlog.GapTracking
import SupportProxy.Session.Segmentation
import SupportProxy.Session.LinkLayer
import SupportProxy.Mavlink.News
import SupportProxy.Session.Rekeying
import SupportProxy.Mavlink.Streams
import SupportProxy.Session.Replay
import SupportProxy.Library.Transducer
import SupportProxy.Session.SlotReuse
import SupportProxy.Mavlink.SavedTimestamp
import SupportProxy.Mavlink.Delivery
import SupportProxy.Session.Disconnection
import SupportProxy.Library.ByteLayout
import SupportProxy.Keydb.Record
import SupportProxy.Library.FirstMatch
import SupportProxy.Parent.Ports
import SupportProxy.Parent.Reconciliation
import SupportProxy.Parent.FailedFork
import SupportProxy.WebSocket.Frames
import SupportProxy.Library.Search
import SupportProxy.WebSocket.Connection
import SupportProxy.WebSocket.Stream
import SupportProxy.WebSocket.Upgrade
import SupportProxy.WebSocket.Reception
import SupportProxy.WebSocket.Output
import SupportProxy.Library.HandleTable
import SupportProxy.Session.Descriptors
import SupportProxy.Mavlink.Relay
import SupportProxy.Binlog.StartGate
import SupportProxy.Logs.Freshness
import SupportProxy.Logs.Children
import SupportProxy.Logs.Isolation
import SupportProxy.Library.Records
import SupportProxy.Logs.Tlog
import SupportProxy.Logs.Cleanup
import SupportProxy.Library.Utf8
import SupportProxy.Keydb.Codec
import SupportProxy.Keydb.Layout
import SupportProxy.Keydb.Edits
import SupportProxy.Keydb.Operations
import SupportProxy.Keydb.Database
import SupportProxy.Keydb.UniquePorts
import SupportProxy.Keydb.Readers
import SupportProxy.Webadmin.Site
import SupportProxy.Webadmin.Admins
import SupportProxy.Webadmin.Sessions
import SupportProxy.Library.TracedMemory
import SupportProxy.WebSocket.Bounds
import SupportProxy.WebSocket.Progress
import SupportProxy.Session.FanOut
import SupportProxy.Parent.Sockets
import SupportProxy.Connections.DropRequests
import SupportProxy.Connections.Snapshots
import SupportProxy.Binlog.Reboot
import SupportProxy.WebSocket.RoundTrip
import SupportProxy.Binlog.Growth
import SupportProxy.Binlog.Quota
import SupportProxy.Library.UrlReference
import SupportProxy.Webadmin.Redirect
import SupportProxy.Webadmin.Throttle
import SupportProxy.Logs.CleanupPass
import SupportProxy.Keydb.BatchAdd
import SupportProxy.Library.Segments
import SupportProxy.Session.Transcript
import SupportProxy.Connections.Records
import SupportProxy.Connections.Store
import SupportProxy.Connections.Interleaving
import SupportProxy.Connections.Listing
import SupportProxy.Connections.Refinement
import SupportProxy.Binlog.Reassembly
import SupportProxy.Parent.EventLoop
import SupportProxy.Session.BinlogFeed
import SupportProxy.Session.Logging
import SupportProxy.Session.Counters
import SupportProxy.Logs.CleanupTree
import SupportProxy.Keydb.Conversion
import SupportProxy.Webadmin.Confinement
import SupportProxy.Logs.Names
import SupportProxy.Session.Calls
import SupportProxy.Session.Ownership
import SupportProxy.Logs.CleanupSteps
