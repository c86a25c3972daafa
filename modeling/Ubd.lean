import Ubd.Serial.RoundTrip
import Ubd.Serial.Switch
import Ubd.Tcp.Frames
import Ubd.Daemon.Groups
import Ubd.Daemon.Bridge
import Ubd.Packet.Statuses
import Ubd.Packet.Line
import Ubd.Packet.Received
import Ubd.Daemon.Objects
import Ubd.Daemon.Wiring
import Ubd.Daemon.Plugged
import Ubd.Daemon.Senders
import Ubd.Daemon.Sockets
import Ubd.Daemon.Pairing
import Ubd.Daemon.Lifecycle
import Ubd.Daemon.Identity
import Ubd.Daemon.Timeouts
import Ubd.Directory.Json
import Ubd.Directory.Server
import Ubd.Directory.Lifetime
import Ubd.Directory.Pairs
import Ubd.Directory.Client
import Ubd.Daemon.Endpoints
import Ubd.Daemon.Managed
import Ubd.Directory.Announced
import Ubd.Directory.Withdrawn
import Ubd.Directory.Exact
import Ubd.Packet.Streams
import Ubd.Tcp.Control
import Ubd.Daemon.GroupTable
import Ubd.Daemon.Membership
import Ubd.Config
import Ubd.Daemon.AllOrNothing
import Ubd.Packet.Listening
import Ubd.Packet.Clients
import Ubd.Packet.Orders
import Ubd.Packet.Endings
import Ubd.Directory.Validation
import Ubd.Daemon.Discovery
import Ubd.Debug
import Ubd.Ubnetd.Addresses
import Ubd.Ubnetd.Hosting
import Ubd.Ubnetd.Calls
import Ubd.Ubnetd.Hosted
import Ubd.Ubnetd.ComingUp
import Ubd.Daemon.Listing
import Ubd.Daemon.Commands
import Ubd.Directory.Document
import Ubd.Directory.Tick
import Ubd.Daemon.Versions
import Ubd.Daemon.Roster
import Ubd.Daemon.Requests
import Ubd.Daemon.Confirmations
