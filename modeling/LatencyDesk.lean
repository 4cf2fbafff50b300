import LatencyDesk.Session.RouteTransition.Epochs
import LatencyDesk.Session.RouteTransition.Authority
import LatencyDesk.Session.RouteTransition.FailClosed
import LatencyDesk.Session.Authorization.Grants
import LatencyDesk.Session.Authorization.Pinning
import LatencyDesk.Session.Pairing.Acceptance
import LatencyDesk.Session.Pairing.Transcript
import LatencyDesk.Session.Routing.Promotion
import LatencyDesk.Session.Unattended.Sessions
import LatencyDesk.Session.Unattended.Secrets
import LatencyDesk.SocketTransport.Delivered
import LatencyDesk.H264.LossyPath
import LatencyDesk.H264.Planar
import LatencyDesk.Rendezvous.Lifetime
import LatencyDesk.TurnRelay.Bounds
import LatencyDesk.TurnRelay.LocalPeers
import LatencyDesk.TurnRelay.RoundTrip
import LatencyDesk.SocketTransport.Undisturbed
import LatencyDesk.SocketTransport.AuthTag
import LatencyDesk.Scheduler.Exactness
import LatencyDesk.Surface.Ownership
import LatencyDesk.Platform.PresentationOrder
import LatencyDesk.Platform.PresentationCustody
import LatencyDesk.Runtime.HostAuthority
import LatencyDesk.Runtime.HostRelease
import LatencyDesk.SocketTransport.MediaReception
import LatencyDesk.Session.Disconnect
import LatencyDesk.Frame.Scale
import LatencyDesk.Frame.Refinement
import LatencyDesk.Input.HostInput
import LatencyDesk.Input.EventQueue
