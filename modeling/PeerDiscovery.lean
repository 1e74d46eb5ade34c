import PeerDiscovery.Main
import PeerDiscovery.Node.Cluster
import PeerDiscovery.Switch
import PeerDiscovery.Proofs.Registry.Consistency
import PeerDiscovery.Proofs.Registry.Blocking
import PeerDiscovery.Proofs.Registry.Merging
import PeerDiscovery.Proofs.Payload.Exactness
import PeerDiscovery.Proofs.Packet.Building
import PeerDiscovery.Proofs.Overlay.Authentication
import PeerDiscovery.Proofs.Overlay.Clocks
import PeerDiscovery.Proofs.Overlay.Estimates
import PeerDiscovery.Proofs.Overlay.Rejection
import PeerDiscovery.Proofs.Network.Traffic
import PeerDiscovery.Proofs.Network.Rendezvous
import PeerDiscovery.Proofs.Network.Walkability
import PeerDiscovery.Proofs.Network.Limits
import PeerDiscovery.Proofs.Node.Lifecycle
import PeerDiscovery.Proofs.Node.Forgetting
import PeerDiscovery.Proofs.Transport.Delivery
import PeerDiscovery.Proofs.Overlay.GlobalTimes
import PeerDiscovery.Proofs.Network.Answering
import PeerDiscovery.Proofs.Registry.Introducers
import PeerDiscovery.Proofs.Network.Learning
import PeerDiscovery.Proofs.Overlay.Pacing
import PeerDiscovery.Proofs.Registry.Repetition
import PeerDiscovery.Proofs.Registry.Independence
import PeerDiscovery.Proofs.Registry.Removal
import PeerDiscovery.Proofs.WanLog.History
import PeerDiscovery.Proofs.WanLog.Vote
import PeerDiscovery.Proofs.Key.Boxes
import PeerDiscovery.Proofs.Overlay.Bootstrapping
import PeerDiscovery.Proofs.Overlay.Puncturing
import PeerDiscovery.Proofs.Network.Routability
import PeerDiscovery.Proofs.Transport.Ports
import PeerDiscovery.Proofs.Configuration.Acceptance
import PeerDiscovery.Proofs.Key.Canonical
import PeerDiscovery.Proofs.Overlay.Dispatching
