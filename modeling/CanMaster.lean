import CanMaster.Shared.Transition
import CanMaster.Shared.BoundedQueue
import CanMaster.Shared.Mailbox
import CanMaster.Shared.Json
import CanMaster.Shared.JsonReader
import CanMaster.Shared.JsonText
import CanMaster.Shared.ByteFields
import CanMaster.Shared.Buffer
import CanMaster.Shared.Eviction
import CanMaster.Shared.Monitor
import CanMaster.Shared.Simulation
import CanMaster.Firmware.Frame
import CanMaster.Firmware.ControlEvents
import CanMaster.Firmware.Requests
import CanMaster.Firmware.MqttEvents
import CanMaster.Firmware.MqttMsg
import CanMaster.Firmware.Tasks
import CanMaster.Firmware.Steps
import CanMaster.Firmware.AppMain
import CanMaster.Control.Handling
import CanMaster.Control.SelfSend
import CanMaster.Control.Settling
import CanMaster.Control.Serving
import CanMaster.Control.Atomic
import CanMaster.Control.Restart
import CanMaster.Control.TimerCycle
import CanMaster.Control.Armed
import CanMaster.Control.Forecast
import CanMaster.Control.Creation
import CanMaster.Control.Causality
import CanMaster.Uplink.Blocked
import CanMaster.Uplink.Wakeup
import CanMaster.Uplink.Filling
import CanMaster.Uplink.Draining
import CanMaster.Uplink.Outstanding
import CanMaster.Uplink.Ledger
import CanMaster.Uplink.Arrivals
import CanMaster.Uplink.Amount
import CanMaster.Uplink.Publishing
import CanMaster.Downlink.Cycle
import CanMaster.Downlink.Blocked
import CanMaster.Downlink.Reporting
import CanMaster.Downlink.Responses
import CanMaster.Downlink.Pending
import CanMaster.Downlink.Transmitted
import CanMaster.Downlink.Outgoing
import CanMaster.Payload.Commands
import CanMaster.Payload.RoundTrip
import CanMaster.Payload.StaleBuffer
import CanMaster.Payload.Fragments
import CanMaster.Payload.Format
import CanMaster.Payload.Fitting
import CanMaster.Payload.Malformed
import CanMaster.Payload.Determined
import CanMaster.Payload.Indices
import CanMaster.Payload.Timestamps
import CanMaster.EspMqtt.Message
import CanMaster.EspMqtt.Reader
import CanMaster.EspMqtt.Packet
import CanMaster.EspMqtt.Building
import CanMaster.EspMqtt.Connect
import CanMaster.EspMqtt.Sent
import CanMaster.EspMqtt.RoundTrip
import CanMaster.EspMqtt.Outbox
import CanMaster.EspMqtt.Client
import CanMaster.EspMqtt.Steps
import CanMaster.EspMqtt.Session
import CanMaster.EspMqtt.Calls
import CanMaster.EspMqtt.Keepalive
import CanMaster.EspMqtt.Confirmed
import CanMaster.EspMqtt.Bounded
import CanMaster.EspMqtt.Pieces
import CanMaster.EspMqtt.Framing
import CanMaster.EspMqtt.Recovery
import CanMaster.Device.Publish
import CanMaster.Device.Callbacks
import CanMaster.Device.System
import CanMaster.Device.Upkeep
import CanMaster.Device.Seen
import CanMaster.Device.Subscribed
import CanMaster.Device.OnWire
import CanMaster.Device.FromBus
import CanMaster.Device.ToBus
