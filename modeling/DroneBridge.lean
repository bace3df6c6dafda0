import DroneBridge.Lib.Machine
import DroneBridge.Lib.Since
import DroneBridge.Lib.Clock
import DroneBridge.Lib.RingBuf
import DroneBridge.Lib.Wire
import DroneBridge.Lib.Optional
import DroneBridge.Lib.Delimited
import DroneBridge.Lib.Payload
import DroneBridge.Lib.TaskPool
import DroneBridge.Lib.Timed
import DroneBridge.Lib.ReplyChannel
import DroneBridge.Lib.SectionScan
import DroneBridge.Lib.Yaml
import DroneBridge.Lib.YamlLiteral
import DroneBridge.Lib.YamlText
import DroneBridge.Lib.SharedCell
import DroneBridge.Lib.Handover
import DroneBridge.Lib.Redial
import DroneBridge.Lib.Deadline
import DroneBridge.Lib.Crc
import DroneBridge.Lib.Lines
import DroneBridge.Lib.Binary64
import DroneBridge.Lib.Ipv4
import DroneBridge.Lib.RouteTable
import DroneBridge.Lib.Goroutines
import DroneBridge.Lib.Custody
import DroneBridge.Lib.Hull
import DroneBridge.Lib.OrderedDict
import DroneBridge.Link.Step
import DroneBridge.Link.Arbiter
import DroneBridge.Link.Recovery
import DroneBridge.Link.Return
import DroneBridge.Link.Dwell
import DroneBridge.Link.Availability
import DroneBridge.Link.Dedup
import DroneBridge.Link.Commands
import DroneBridge.Link.SeqHistory
import DroneBridge.Link.Latch
import DroneBridge.Link.Schedule
import DroneBridge.Link.Heartbeat
import DroneBridge.Link.Corruption
import DroneBridge.Vpn.Manager
import DroneBridge.Uplink.Sender
import DroneBridge.Uplink.KeepAlive
import DroneBridge.Uplink.Callbacks
import DroneBridge.Uplink.Tunnel
import DroneBridge.Uplink.Ownership
import DroneBridge.Uplink.Resubscribe
import DroneBridge.Uplink.Rebuild
import DroneBridge.Uplink.Monitor
import DroneBridge.Uplink.PacketStats
import DroneBridge.Uplink.Snapshots
import DroneBridge.Landing.Chain
import DroneBridge.Landing.Directions
import DroneBridge.Landing.Feed
import DroneBridge.Landing.Gate
import DroneBridge.Landing.Markers
import DroneBridge.Landing.Smoothing
import DroneBridge.Landing.Tracker
import DroneBridge.Landing.Worker
import DroneBridge.Auth.Protocol
import DroneBridge.Auth.Layout
import DroneBridge.Auth.Delivery
import DroneBridge.Auth.ApiKey
import DroneBridge.Auth.Client
import DroneBridge.Auth.Pairing
import DroneBridge.Auth.Request
import DroneBridge.Auth.Session
import DroneBridge.Auth.Handshake
import DroneBridge.Auth.Hmac
import DroneBridge.Auth.Goroutines
import DroneBridge.Auth.Coherence
import DroneBridge.Auth.Reconnect
import DroneBridge.Auth.Skip
import DroneBridge.Auth.Ticker
import DroneBridge.Auth.KeyCalls
import DroneBridge.Auth.Connection
import DroneBridge.Netmon.Policy
import DroneBridge.Netmon.Backoff
import DroneBridge.Netmon.Readers
import DroneBridge.Netmon.Rendered
import DroneBridge.Netmon.Routing
import DroneBridge.Netmon.SaveRace
import DroneBridge.Netmon.EthernetLan
import DroneBridge.Netmon.PbrRoute
import DroneBridge.Config.Load
import DroneBridge.Config.RoundTrip
import DroneBridge.Config.Stable
import DroneBridge.Config.Edits
import DroneBridge.Config.EditRuns
import DroneBridge.Config.Concurrent
import DroneBridge.Config.StreamSave
import DroneBridge.Web.Params
import DroneBridge.Web.Telemetry
import DroneBridge.Camera.Effective
import DroneBridge.Camera.Page
import DroneBridge.Camera.Watchdog
import DroneBridge.Camera.WatchdogLoops
import DroneBridge.Camera.StreamerCustody
import DroneBridge.Camera.Restarts
import DroneBridge.Camera.LogWriter
import DroneBridge.Camera.Publish
import DroneBridge.Camera.Limits
import DroneBridge.Camera.MemoryProfile
import DroneBridge.Lib.Blocks
import DroneBridge.Landing.WireFormat
import DroneBridge.Landing.Encoder
import DroneBridge.Lib.PolicyRouting
import DroneBridge.Netmon.Planes
import DroneBridge.Netmon.Status
import DroneBridge.Uplink.Startup
import DroneBridge.Auth.Registration
import DroneBridge.Lib.HandleTable
import DroneBridge.Landing.BurnHold
import DroneBridge.Uplink.SideSenders
import DroneBridge.Uplink.SideTunnel
import DroneBridge.Vpn.Provisioning
