import SomeipGateway.Lib.Table
import SomeipGateway.Lib.Run
import SomeipGateway.Lib.Store
import SomeipGateway.Lib.Sum
import SomeipGateway.Lib.Codec
import SomeipGateway.Lib.Alternation
import SomeipGateway.Lib.Memory
import SomeipGateway.Lib.UnorderedMap
import SomeipGateway.Lib.Numbering
import SomeipGateway.Lib.Progress
import SomeipGateway.Lib.Custody
import SomeipGateway.Binding.Message
import SomeipGateway.Binding.Frame
import SomeipGateway.Binding.Decode
import SomeipGateway.Binding.Encode
import SomeipGateway.Binding.ConnectionMetadata
import SomeipGateway.Binding.MappingIndex
import SomeipGateway.Binding.ServiceState
import SomeipGateway.Binding.SharedMemoryManagers
import SomeipGateway.Binding.SlotAccounting
import SomeipGateway.Binding.BindingBase
import SomeipGateway.Binding.View
import SomeipGateway.Binding.Recedes
import SomeipGateway.Binding.Asks
import SomeipGateway.Binding.Defined
import SomeipGateway.Binding.SlotManager
import SomeipGateway.Binding.SlotReuse
import SomeipGateway.Binding.SlotGuards
import SomeipGateway.Binding.SlotGeometry
import SomeipGateway.Binding.Keys
import SomeipGateway.Endpoint.Basic
import SomeipGateway.Endpoint.Perform
import SomeipGateway.Endpoint.Run
import SomeipGateway.Endpoint.Sections
import SomeipGateway.Endpoint.Calls
import SomeipGateway.Endpoint.Foreign
import SomeipGateway.Endpoint.Steady
import SomeipGateway.Endpoint.Replies
import SomeipGateway.Endpoint.Payloads
import SomeipGateway.Endpoint.Isolation
import SomeipGateway.Endpoint.RequestedFlag
import SomeipGateway.Endpoint.LiveOwner
import SomeipGateway.Endpoint.SubscriptionAgreement
import SomeipGateway.Endpoint.SharedConnector
import SomeipGateway.Endpoint.KnownPeers
import SomeipGateway.Endpoint.Pools
import SomeipGateway.Endpoint.Unexpected
import SomeipGateway.Endpoint.Receive
import SomeipGateway.Endpoint.EventRecipients
import SomeipGateway.Endpoint.Forwarding
import SomeipGateway.Endpoint.HandshakeReplies
import SomeipGateway.Endpoint.ProviderPools
import SomeipGateway.Network.Basic
import SomeipGateway.Network.History
import SomeipGateway.Network.Provenance
import SomeipGateway.Network.Traced
import SomeipGateway.Network.HandleResolution
import SomeipGateway.Network.SlotRelease
import SomeipGateway.Network.Frames
import SomeipGateway.Network.EventStream
import SomeipGateway.Network.Sessions
import SomeipGateway.Handshake.Machine
import SomeipGateway.Handshake.Sound
import SomeipGateway.Handshake.Exposure
import SomeipGateway.Handshake.Withdrawal
import SomeipGateway.Handshake.Delivery
import SomeipGateway.Handshake.SingleMapping
import SomeipGateway.Handshake.Projection
import SomeipGateway.Handshake.Refinement
import SomeipGateway.Handshake.Reception
import SomeipGateway.Handshake.Simulation
import SomeipGateway.Handshake.Availability
import SomeipGateway.Handshake.Mapping
import SomeipGateway.Socom.Registry
import SomeipGateway.Socom.Bridges
import SomeipGateway.Socom.BridgeStop
import SomeipGateway.Socom.BridgeRequests
import SomeipGateway.Socom.BridgeOnce
import SomeipGateway.Socom.BridgeHandles
import SomeipGateway.Socom.BridgeProgress
import SomeipGateway.Socom.ServerConnector
import SomeipGateway.Socom.EventRequests
import SomeipGateway.Socom.EventSubscriptions
import SomeipGateway.Socom.StringRegistry
import SomeipGateway.Socom.Runtime
import SomeipGateway.Socom.RuntimeStep
import SomeipGateway.Socom.Moves
import SomeipGateway.Socom.Lifecycle
import SomeipGateway.Socom.Connections
import SomeipGateway.Socom.OneServer
import SomeipGateway.Socom.Replacement
import SomeipGateway.Socom.Matching
import SomeipGateway.Socom.ServiceStateCalls
import SomeipGateway.Socom.Shutdown
import SomeipGateway.Socom.PayloadOwnership
import SomeipGateway.Daemon.Config
import SomeipGateway.Daemon.SlotSizes
import SomeipGateway.Daemon.EventPath
import SomeipGateway.Daemon.EventBytes
import SomeipGateway.Daemon.StoredConnector
import SomeipGateway.Daemon.SharedMemoryPaths
import SomeipGateway.Daemon.NullSerializer
