import Bsdvr.Foundation.Distance
import Bsdvr.Foundation.Acyclic
import Bsdvr.Foundation.Run
import Bsdvr.Foundation.Codec
import Bsdvr.Foundation.Registry
import Bsdvr.Foundation.Sequence
import Bsdvr.Foundation.Lease
import Bsdvr.Foundation.Amortized
import Bsdvr.Model.Network
import Bsdvr.Model.PacketQueue
import Bsdvr.Model.DataPlane
import Bsdvr.Model.Packet
import Bsdvr.Model.Wire
import Bsdvr.Model.Host
import Bsdvr.Model.LinkLayer
import Bsdvr.Model.Timers
import Bsdvr.Proof.Invariant
import Bsdvr.Proof.Handlers
import Bsdvr.Proof.Timers
import Bsdvr.Proof.LinkFailures
import Bsdvr.Proof.Indexing
import Bsdvr.Proof.Format
import Bsdvr.Proof.Wire
import Bsdvr.Static.Network
import Bsdvr.Static.Invariant
import Bsdvr.Static.HopCounts
import Bsdvr.Static.Settled
import Bsdvr.Static.Stability
import Bsdvr.Static.LoopFreedom
import Bsdvr.Static.Convergence
import Bsdvr.Static.Traffic
import Bsdvr.Static.Progress
import Bsdvr.Runs.Considered
import Bsdvr.Runs.Sockets
import Bsdvr.Runs.Interfaces
import Bsdvr.Runs.Destinations
import Bsdvr.Runs.LocalRoutes
import Bsdvr.Runs.LostNeighbors
import Bsdvr.Runs.Exchange
import Bsdvr.Runs.Steady
import Bsdvr.Runs.Coherence
import Bsdvr.Runs.Telling
import Bsdvr.Runs.HopBounds
import Bsdvr.Runs.EntryInterfaces
import Bsdvr.Runs.Support
import Bsdvr.Runs.DirectRoutes
import Bsdvr.Queues.NeighborList
import Bsdvr.Queues.Packets
import Bsdvr.Queues.PendingReplies
import Bsdvr.Queues.Flush
import Bsdvr.Queues.Drain
import Bsdvr.Queues.Eviction
import Bsdvr.Queues.Provenance
import Bsdvr.Runs.Replies
import Bsdvr.Runs.ReplyDistances
import Bsdvr.Runs.Answers
import Bsdvr.Runs.Outlets
import Bsdvr.Runs.BufferedPackets
import Bsdvr.Runs.SocketMaps
import Bsdvr.Runs.Beacons
import Bsdvr.Runs.Detection
import Bsdvr.Runs.Link
import Bsdvr.Runs.Feedback
import Bsdvr.Runs.Headers
import Bsdvr.Runs.Aliasing
import Bsdvr.Tables.Updates
import Bsdvr.Tables.Worst
import Bsdvr.Tables.Selection
import Bsdvr.Tables.Failures
import Bsdvr.Tables.Hellos
import Bsdvr.Tables.Order
import Bsdvr.Forwarding.Input
import Bsdvr.Forwarding.Output
import Bsdvr.Forwarding.Delivery
