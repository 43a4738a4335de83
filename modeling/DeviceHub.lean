import DeviceHub.Api.Groups
import DeviceHub.Db.Devices
import DeviceHub.Async.Rely
import DeviceHub.Quotas.Release
import DeviceHub.Quotas.Accounts
import DeviceHub.Quotas.Enforcement
import DeviceHub.Scheduler.Timely
import DeviceHub.Scheduler.Lossless
import DeviceHub.Scheduler.Recurring
import DeviceHub.Quotas.Conservation
import DeviceHub.Bookings.Exclusivity
import DeviceHub.Bookings.Authority
import DeviceHub.Api.Escalation
import DeviceHub.Devices.Placement
import DeviceHub.Util.TtlChain
import DeviceHub.Util.ZmqUtil
import DeviceHub.BaseDevice.Replies
import DeviceHub.Api.UseDevice
import DeviceHub.Watchers.OriginLists
import DeviceHub.Members.Teams
import DeviceHub.Members.Symmetry
import DeviceHub.Devices.Locking
import DeviceHub.Wire.TransManager
import DeviceHub.Plugins.Service
import DeviceHub.Websocket.OwnedChannels
import DeviceHub.Processor.Ownership
import DeviceHub.Provider.Ports
import DeviceHub.Provider.Workers
import DeviceHub.Provider.Listeners
import DeviceHub.Provider.Tracking
import DeviceHub.Provider.Pairing
import DeviceHub.Provider.Tunnels
import DeviceHub.Plugins.Connector
import DeviceHub.Quotas.Charges
import DeviceHub.Wire.SeqQueue
import DeviceHub.Wire.Stranded
import DeviceHub.Wire.MessageStream
import DeviceHub.Touch.Gestures
import DeviceHub.Touch.TouchService
import DeviceHub.Forward.Manager
import DeviceHub.Forward.Packets
import DeviceHub.Vnc.Security
import DeviceHub.Vnc.Chunking
import DeviceHub.Bookings.Windows
import DeviceHub.Bookings.Selection
import DeviceHub.Scheduler.Once
import DeviceHub.Devices.Names
import DeviceHub.Db.AccessTokens
import DeviceHub.Members.Removal
import DeviceHub.Members.Announcements
import DeviceHub.Api.SecurityHandlers
import DeviceHub.Api.AddUsers
import DeviceHub.Api.RemoveDevice
import DeviceHub.Util.Srv
import DeviceHub.Util.Attempt
import DeviceHub.Db.AdbPorts
import DeviceHub.Screen.FrameParser
import DeviceHub.Screen.FrameProducer
import DeviceHub.Provider.ADBReplies
import DeviceHub.Plugins.Install
import DeviceHub.Touch.TouchConsumer
import DeviceHub.Provider.Relays
import DeviceHub.Wire.Timeouts
import DeviceHub.Transactions.TransactionService
import DeviceHub.Touch.ScalingService
import DeviceHub.Scheduler.Pending
import DeviceHub.Vnc.PointerTranslator
import DeviceHub.Protobuf.Runtime
import DeviceHub.Protobuf.MessageType
import DeviceHub.Protobuf.Fields
import DeviceHub.Protobuf.Evolution
import DeviceHub.Protobuf.Standard
import DeviceHub.Wire.Envelope
import DeviceHub.Util.EventEmitter
import DeviceHub.Wire.Router
import DeviceHub.Wire.Versions
import DeviceHub.Transactions.Replies
import DeviceHub.Websocket.Channels
import DeviceHub.Ui.Throttle
import DeviceHub.Ui.DeviceList
import DeviceHub.Screen.Sessions
import DeviceHub.Touch.Esp32Touch
import DeviceHub.Util.Readable
import DeviceHub.Screen.Banner
import DeviceHub.Screen.FramePump
import DeviceHub.Reaper.Reaper
import DeviceHub.BaseDevice.Listeners
import DeviceHub.Bytes.Hex
import DeviceHub.Vnc.Admission
import DeviceHub.Plugins.Logcat
import DeviceHub.Forward.Plugin
