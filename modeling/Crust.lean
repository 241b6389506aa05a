import Crust.Lib.Runs
import Crust.Lib.Channel
import Crust.Lib.OrderedMap
import Crust.Lib.PriorityQueue
import Crust.Lib.Unordered
import Crust.Lib.Vec
import Crust.Lib.Observers
import Crust.Lib.Commands
import Crust.Lib.Buffered
import Crust.Common
import Crust.Timeout
import Crust.Config
import Crust.ConfigFile
import Crust.Refresher
import Crust.Messages
import Crust.Socket.Task
import Crust.Socket.Socket
import Crust.Socket.Writer
import Crust.Socket.Expiry
import Crust.Socket.Closing
import Crust.Socket.Framing
import Crust.Socket.OverLong
import Crust.Peer.Peer
import Crust.Peer.Heartbeat
import Crust.Peer.Inactivity
import Crust.Peer.KeepAlive
import Crust.Peer.Payload
import Crust.Listeners
import Crust.Sweep
import Crust.Discovery.Server
import Crust.Discovery.Advertise
import Crust.Discovery.Answers
import Crust.Discovery.Discover
import Crust.Discovery.Network
import Crust.Bootstrap.Acceptor
import Crust.Bootstrap.Handshake
import Crust.Bootstrap.Accept
import Crust.Bootstrap.Race
import Crust.Bootstrap.Bootstrap
import Crust.Mapping
import Crust.Compat.ConnectionMap
import Crust.Compat.Whitelist
import Crust.Compat.Service
import Crust.Compat.Listening
import Crust.Compat.Outrun
import Crust.Compat.Messaging
import Crust.Compat.Delivery
import Crust.Compat.Commands
import Crust.Compat.Requests
import Crust.Connect.Call
import Crust.Connect.Admission
import Crust.Connect.Rendezvous
import Crust.Connect.Session
import Crust.Connect.Undisturbed
import Crust.Connect.Meeting
import Crust.Connect.Boundary
import Crust.Connect.Demux
import Crust.Connect.Handler
import Crust.Connect.Stun
import Crust.Service
