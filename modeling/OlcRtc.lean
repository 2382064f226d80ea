import OlcRtc.Client.BundleImport
import OlcRtc.Client.DiagnosticsLog
import OlcRtc.Client.Identity
import OlcRtc.Client.LinkQuery
import OlcRtc.Client.Multipart
import OlcRtc.Client.OlcrtcUri
import OlcRtc.Client.Profile
import OlcRtc.Client.Routing
import OlcRtc.Client.Shadowsocks
import OlcRtc.Client.StandardProfile
import OlcRtc.Client.Storage
import OlcRtc.Client.SubscriptionPayload
import OlcRtc.Client.Subscriptions
import OlcRtc.Control.Liveness
import OlcRtc.Crypto.ConcurrentSeal
import OlcRtc.Crypto.Record
import OlcRtc.Crypto.RecordLayer
import OlcRtc.Crypto.Replay
import OlcRtc.Crypto.ReplayRefinement
import OlcRtc.Crypto.ReplaySpec
import OlcRtc.Engine.IceServers
import OlcRtc.Engine.Reconnect
import OlcRtc.Engine.ReconnectLimit
import OlcRtc.Handshake.Agreement
import OlcRtc.Handshake.Messages
import OlcRtc.Jitsi.Ownership
import OlcRtc.Jitsi.Replies
import OlcRtc.Jitsi.Session
import OlcRtc.Jitsi.Staleness
import OlcRtc.LegacyVp8.Latch
import OlcRtc.LegacyVp8.Runtimes
import OlcRtc.LegacyVp8.Writer
import OlcRtc.Lib.Base64
import OlcRtc.Lib.Blocks
import OlcRtc.Lib.Bytes
import OlcRtc.Lib.Calls
import OlcRtc.Lib.Checks
import OlcRtc.Lib.FormUrl
import OlcRtc.Lib.GoUrl
import OlcRtc.Lib.Hex
import OlcRtc.Lib.Json
import OlcRtc.Lib.JsonObject
import OlcRtc.Lib.JsonRecord
import OlcRtc.Lib.Lists
import OlcRtc.Lib.Near
import OlcRtc.Lib.NetIP
import OlcRtc.Lib.Reads
import OlcRtc.Lib.Recency
import OlcRtc.Lib.Slice
import OlcRtc.Lib.StartCodes
import OlcRtc.Lib.Steps
import OlcRtc.Lib.Table
import OlcRtc.Lib.Text
import OlcRtc.Lib.Uri
import OlcRtc.Lib.Utf8
import OlcRtc.Mobile.Config
import OlcRtc.Mobile.Core
import OlcRtc.Mobile.Lifecycle
import OlcRtc.Mux.Conn
import OlcRtc.Mux.Planes
import OlcRtc.Mux.Stream
import OlcRtc.Sei.AccessUnit
import OlcRtc.Server.LockRegions
import OlcRtc.Server.Pairing
import OlcRtc.Server.PeerSession
import OlcRtc.Server.Peers
import OlcRtc.Server.Single
import OlcRtc.Server.Stacks
import OlcRtc.Server.Wakeup
import OlcRtc.Session.Budget
import OlcRtc.Session.Supervisor
import OlcRtc.Session.Validate
import OlcRtc.Socks.Connect
import OlcRtc.Transport.Assembly
import OlcRtc.Transport.Bounds
import OlcRtc.Transport.Channel
import OlcRtc.Transport.Frame
import OlcRtc.Transport.Pipeline
import OlcRtc.Transport.Reassembler
import OlcRtc.Transport.Sender
import OlcRtc.Transport.Window
import OlcRtc.Tunnel.ClientLink
import OlcRtc.Vp8.Attribution
import OlcRtc.Vp8.Downlink
import OlcRtc.Vp8.InOrder
import OlcRtc.Vp8.Isolation
import OlcRtc.Vp8.KcpPlane
import OlcRtc.Vp8.KcpStream
import OlcRtc.Vp8.PeerRuntimes
import OlcRtc.Vp8.Peers
import OlcRtc.Vp8.Reorder
import OlcRtc.Vp8.Restart
import OlcRtc.Vp8.RtpReader
import OlcRtc.Vp8.Transport
import OlcRtc.Vp8.Wire
import OlcRtc.Vp8.Writer
import OlcRtc.Vpn.Failover
import OlcRtc.Vpn.Invariant
import OlcRtc.Vpn.Moves
import OlcRtc.Vpn.Runs
import OlcRtc.Vpn.Service
