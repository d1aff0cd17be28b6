import GeventSignalR.Protocol.FieldLayout
import GeventSignalR.Protocol.Framing
import GeventSignalR.Protocol.Accepted
import GeventSignalR.Protocol.JsonRoundTrip
import GeventSignalR.Protocol.HandshakeResponse
import GeventSignalR.Protocol.LiveObjects
import GeventSignalR.Transport.ConnectionId
import GeventSignalR.Hub.SingleWebsocket
import GeventSignalR.Hub.FirstMessage
import GeventSignalR.Hub.Stopped
import GeventSignalR.Hub.RejectedHandshake
import GeventSignalR.Hub.Delivery
import GeventSignalR.Hub.ServerMessage
import GeventSignalR.Hub.Superseded
import GeventSignalR.Hub.Segmentation
import GeventSignalR.Hub.KeepAlive
import GeventSignalR.Hub.Outage
import GeventSignalR.Hub.Attempts
import GeventSignalR.Hub.Pending
import GeventSignalR.Hub.Begun
import GeventSignalR.Hub.Unassisted
import GeventSignalR.Hub.FailedSend
import GeventSignalR.Hub.Dispatch
import GeventSignalR.Hub.ClientStream
import GeventSignalR.Hub.CloseCalls
import GeventSignalR.Hub.HandshakeFirst
import GeventSignalR.Protocol.Varint
import GeventSignalR.Transport.Policies
import GeventSignalR.Hub.Callable
import GeventSignalR.Hub.Headers
import GeventSignalR.Hub.HandlerLife
import GeventSignalR.Hub.Lifecycle
import GeventSignalR.Hub.Subscription
import GeventSignalR.Hub.OpenConnection
import GeventSignalR.Hub.Deadlock
import GeventSignalR.Hub.Sockets
import GeventSignalR.Hub.Tokens
import GeventSignalR.Hub.Budget
import GeventSignalR.Hub.Raises
import GeventSignalR.Hub.Builder
import GeventSignalR.Hub.Servers
import GeventSignalR.Hub.Traffic
import GeventSignalR.Hub.Recovery
import GeventSignalR.Hub.HandshakeRequests
import GeventSignalR.Hub.Stale
