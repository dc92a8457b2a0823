import CanMaster.Firmware.MqttMsg
import CanMaster.EspMqtt.Outbox
import CanMaster.EspMqtt.Reader
import CanMaster.Shared.Transition

set_option autoImplicit false

namespace EspMqtt

open CanMaster (cString mqttBufferSizeByte)
open Transition

structure EspMqttClientConfig where
  clientId : Option (List UInt8)
  username : Option (List UInt8)
  password : Option (List UInt8)
  lwtTopic : Option (List UInt8)
  lwtMsg : Option (List UInt8)
  lwtMsgLen : Nat
  lwtQos : Nat
  lwtRetain : Bool
  disableCleanSession : Bool
  keepalive : Nat
  disableAutoReconnect : Bool
  bufferSize : Int

def stringOf (string : Option (List UInt8)) : List UInt8 := cString (string.getD [])

def mqttKeepaliveTick : Nat := 120
def mqttReconnectTimeoutMs : Int := 10 * 1000
def outboxExpiredTimeoutMs : Int32 := 30 * 1000
def outboxMaxSize : Nat := 4 * 1024

structure Setup (capacity : Nat) where
  connectInfo : MqttConnectInfo
  autoReconnect : Bool
  protocol311 : Bool
  -- The memory of the two buffers is not cleared.
  outBuffer : Buffer capacity
  inBuffer : Buffer capacity
  keepaliveTick : Int
  reconnectTick : Int

-- `idString` is what `platform_create_id_string` makes of the hardware address.
def espMqttSetConfig (config : EspMqttClientConfig) (idString : List UInt8) : MqttConnectInfo where
  clientId := match config.clientId with
    | some clientId => cString clientId
    | none => idString
  username := stringOf config.username
  password := stringOf config.password
  willTopic := stringOf config.lwtTopic
  willMessage :=
    if config.lwtMsgLen ≠ 0 then (config.lwtMsg.getD []).take config.lwtMsgLen
    else stringOf config.lwtMsg
  keepalive := if config.keepalive = 0 then mqttKeepaliveTick else config.keepalive
  willQos := config.lwtQos
  willRetain := config.lwtRetain
  cleanSession := !config.disableCleanSession

def bufferSize (config : EspMqttClientConfig) : Nat :=
  if config.bufferSize ≤ 0 then mqttBufferSizeByte else config.bufferSize.toNat

structure Write where
  written : Int
  tick : Int

-- What a read returns: nothing for an error, and no bytes when the time is up.
abbrev Read : Type := Option (List UInt8)

/-- The fields of a data event, and the buffer that its pointers point into. -/
structure Fragment where
  data : Option Nat
  dataLen : UInt32
  totalDataLen : UInt32
  currentDataOffset : UInt32
  topic : Option Nat
  topicLen : UInt32
  memory : List UInt8

inductive Event where
  | connected
  | disconnected
  | subscribed
  | unsubscribed
  | published
  | data (fragment : Fragment)

inductive Occurrence where
  | connecting
  | wrote (bytes : List UInt8) (write : Write)
  | received (bytes : List UInt8)
  | requested (msgType : Nat) (msgId : UInt16)
  | event (event : Event) (msgId : UInt16)
  | checked (now : Int)
  | closed (tick : Int)
  | waited (now : Int)
  | ended

inductive ClientState where
  | init
  | connected
  | waitTimeout
  deriving DecidableEq

-- Where in the loop the task is. The last two parts are those of a connected client.
inductive Phase where
  | top
  | keepalive
  | outbox
  | ended
  deriving DecidableEq

-- The trace is not part of the client: no step reads it.
structure Client (capacity : Nat) where
  connection : MqttConnection capacity
  inBuffer : Buffer capacity
  pendingMsgId : UInt16
  pendingMsgType : Nat
  pendingMsgCount : Nat
  state : ClientState
  keepaliveTick : Int
  reconnectTick : Int
  waitTimeoutMs : Int
  waitForPingResp : Bool
  outbox : Outbox
  phase : Phase
  trace : List Occurrence

variable {capacity : Nat}

def MqttConnection.outbound (connection : MqttConnection capacity) : List UInt8 :=
  connection.buffer.bytes.drop connection.message.data

def Client.note (client : Client capacity) (occurrence : Occurrence) : Client capacity :=
  { client with trace := client.trace ++ [occurrence] }

def transportRead (client : Client capacity) (len : Nat) :
    Read → Option (Nat × Client capacity)
  | none => none
  | some bytes =>
      let bytes := bytes.take len
      some (bytes.length,
        { client with inBuffer := client.inBuffer.write 0 bytes }.note (.received bytes))

def mqttWriteData (client : Client capacity) (write : Write) : Bool × Client capacity :=
  let client := client.note (.wrote client.connection.sent write)
  if write.written ≤ 0 then (false, client)
  else (true, { client with keepaliveTick := write.tick })

def espMqttDispatchEvent (client : Client capacity) (event : Event) : Client capacity :=
  client.note (.event event (mqttGetId client.inBuffer.bytes capacity))

def connectionAccepted (memory : List UInt8) : Bool :=
  mqttGetType memory = MqttMessageType.connack.code ∧ mqttGetConnectReturnCode memory = 0

def sendConnect (setup : Setup capacity) (client : Client capacity) (write : Write) :
    Client capacity :=
  let connection := mqttMsgConnect setup.protocol311 (mqttMsgInit client.connection.buffer)
    setup.connectInfo
  let client := { client with
    waitForPingResp := false
    connection := connection
    pendingMsgType := mqttGetType connection.outbound
    pendingMsgId := mqttGetId connection.outbound connection.message.length }
  client.note (.wrote connection.sent write)

-- The write fails only below zero here, and it does not set the tick.
def espMqttConnect (setup : Setup capacity) (client : Client capacity) (write : Write)
    (read : Read) : Bool × Client capacity :=
  let client := sendConnect setup client write
  if write.written < 0 then (false, client)
  else
    match transportRead client client.connection.message.length read with
    | none => (false, client)
    | some (_, client) => (connectionAccepted client.inBuffer.bytes, client)

def espMqttAbortConnection (client : Client capacity) (tick : Int) : Client capacity :=
  let client := { client.note (.closed tick) with
    waitTimeoutMs := mqttReconnectTimeoutMs
    reconnectTick := tick
    state := .waitTimeout
    waitForPingResp := false
    phase := .top }
  espMqttDispatchEvent client .disconnected

-- The locals of `deliver_publish` that live from one piece to the next.
structure Delivering where
  totalMqttLen : UInt32
  mqttOffset : UInt32
  topic : Option Nat
  topicLength : UInt32
  messageLengthRead : UInt32

-- The first piece is told by a total that is still zero.
def Delivering.fragment (delivering : Delivering) (memory : List UInt8) (length : Nat)
    (messageLength : UInt32) (lenRead : Nat) : Fragment :=
  if delivering.totalMqttLen = 0 then
    let (topic, topicLength) := match mqttGetPublishTopic memory length with
      | none => (none, length)
      | some (place, topicLength) => (some place, topicLength)
    let (data, dataLength) := mqttGetPublishData memory length
    { data := data
      dataLen := UInt32.ofNat dataLength
      totalDataLen := messageLength - delivering.messageLengthRead + UInt32.ofNat dataLength
      currentDataOffset := delivering.mqttOffset
      topic := topic
      topicLen := UInt32.ofNat topicLength
      memory := memory }
  else
    { data := some 0
      dataLen := UInt32.ofNat lenRead
      totalDataLen := delivering.totalMqttLen
      currentDataOffset := delivering.mqttOffset
      topic := delivering.topic
      topicLen := delivering.topicLength
      memory := memory }

def deliverLoop (length : Nat) (messageLength : UInt32) :
    List Read → Client capacity → Delivering → Nat → Client capacity
  | more, client, delivering, lenRead =>
      let fragment := delivering.fragment client.inBuffer.bytes length messageLength lenRead
      let client := espMqttDispatchEvent client (.data fragment)
      if messageLength ≤ delivering.messageLengthRead then client
      else
        match more with
        | [] => client
        | read :: more =>
            let left := messageLength - delivering.messageLengthRead
            match transportRead client (min left.toNat capacity) read with
            | none => client
            | some (lenRead, client) =>
                if lenRead = 0 then client
                else
                  deliverLoop length messageLength more client
                    { totalMqttLen := fragment.totalDataLen
                      mqttOffset := delivering.mqttOffset + fragment.dataLen
                      topic := fragment.topic
                      topicLength := fragment.topicLen
                      messageLengthRead := delivering.messageLengthRead + UInt32.ofNat lenRead }
                    lenRead

def deliverPublish (client : Client capacity) (length : Nat) (messageLength : UInt32)
    (more : List Read) : Client capacity :=
  deliverLoop length messageLength more client ⟨0, 0, none, 0, UInt32.ofNat length⟩ length

def isValidMqttMsg (client : Client capacity) (msgType : MqttMessageType) (msgId : UInt16) :
    Option (Client capacity) :=
  if client.pendingMsgCount = 0 then none
  else
    match outboxDelete msgId.toNat msgType.code client.outbox with
    | some rest =>
        some { client with outbox := rest, pendingMsgCount := client.pendingMsgCount - 1 }
    | none =>
        if client.pendingMsgType = msgType.code ∧ client.pendingMsgId = msgId then
          some { client with pendingMsgCount := client.pendingMsgCount - 1 }
        else none

def mqttEnqueue (client : Client capacity) (tick : Int) : Client capacity :=
  if 0 < client.pendingMsgCount then
    { client with
      outbox := outboxEnqueue client.outbox client.connection.sent client.pendingMsgId.toNat
        client.pendingMsgType tick }
  else client

def MqttMessageType.all : List MqttMessageType :=
  [.connect, .connack, .publish, .puback, .pubrec, .pubrel, .pubcomp, .subscribe, .suback,
    .unsubscribe, .unsuback, .pingreq, .pingresp, .disconnect]

def MqttMessageType.ofCode (code : Nat) : Option MqttMessageType :=
  MqttMessageType.all.find? fun type => type.code = code

def confirm (client : Client capacity) (msgType : MqttMessageType) (msgId : UInt16)
    (event : Event) : Client capacity :=
  match isValidMqttMsg client msgType msgId with
  | some client => espMqttDispatchEvent client event
  | none => client

-- Nothing follows from a reply that is not written.
def reply (client : Client capacity) (connection : MqttConnection capacity) (write : Write) :
    Client capacity :=
  (mqttWriteData { client with connection := connection } write).2

structure Receipt where
  read : Read
  write : Write
  drawn : DrawnId
  more : List Read

def processPublish (client : Client capacity) (readLen : Nat) (msgId : UInt16)
    (receipt : Receipt) : Client capacity :=
  let msgQos := mqttGetQos client.inBuffer.bytes
  let replied :=
    if msgQos = 1 then
      reply client (mqttMsgPuback client.connection msgId receipt.drawn) receipt.write
    else if msgQos = 2 then
      reply client (mqttMsgPubrec client.connection msgId receipt.drawn) receipt.write
    else client
  deliverPublish replied readLen (mqttGetTotalLength client.inBuffer.bytes readLen) receipt.more

def processMessage (client : Client capacity) (readLen : Nat) (receipt : Receipt) :
    Client capacity :=
  let msgId := mqttGetId client.inBuffer.bytes capacity
  match MqttMessageType.ofCode (mqttGetType client.inBuffer.bytes) with
  | some .suback => confirm client .subscribe msgId .subscribed
  | some .unsuback => confirm client .unsubscribe msgId .unsubscribed
  | some .publish => processPublish client readLen msgId receipt
  | some .puback => confirm client .publish msgId .published
  | some .pubrec =>
      reply client (mqttMsgPubrel client.connection msgId receipt.drawn) receipt.write
  | some .pubrel =>
      reply client (mqttMsgPubcomp client.connection msgId receipt.drawn) receipt.write
  | some .pubcomp => confirm client .publish msgId .published
  | some .pingresp => { client with waitForPingResp := false }
  | _ => client

-- `none` stands for a failure.
def mqttProcessReceive (client : Client capacity) (receipt : Receipt) :
    Option (Client capacity) :=
  match transportRead client capacity receipt.read with
  | none => none
  | some (readLen, client) =>
      if readLen = 0 then some client else some (processMessage client readLen receipt)

def espMqttClientPing (client : Client capacity) (write : Write) : Bool × Client capacity :=
  mqttWriteData { client with connection := mqttMsgPingreq client.connection } write

def pend (client : Client capacity) (msgId : UInt16) : Client capacity :=
  let msgType := mqttGetType client.connection.outbound
  { client.note (.requested msgType msgId) with
    pendingMsgType := msgType
    pendingMsgId := msgId
    pendingMsgCount := client.pendingMsgCount + 1 }

def espMqttClientTopic (client : Client capacity)
    (build : MqttConnection capacity → UInt16 → MqttConnection capacity × UInt16) (tick : Int)
    (write : Write) : Int × Client capacity :=
  if client.state ≠ .connected then (-1, client)
  else
    let client := mqttEnqueue client tick
    let (connection, msgId) := build client.connection client.pendingMsgId
    let (written, client) := mqttWriteData (pend { client with connection := connection } msgId) write
    (if written then msgId.toNat else -1, client)

def espMqttClientSubscribe (client : Client capacity) (topic : List UInt8) (qos : Nat)
    (drawn : DrawnId) : Int → Write → Int × Client capacity :=
  espMqttClientTopic client fun connection msgId =>
    mqttMsgSubscribe connection topic qos msgId drawn

def espMqttClientUnsubscribe (client : Client capacity) (topic : List UInt8) (drawn : DrawnId) :
    Int → Write → Int × Client capacity :=
  espMqttClientTopic client fun connection msgId => mqttMsgUnsubscribe connection topic msgId drawn

structure Publish where
  topic : List UInt8
  data : List UInt8
  len : Int
  qos : Nat
  retain : Nat
  drawn : DrawnId

def Publish.payload (call : Publish) : List UInt8 :=
  if call.len ≤ 0 then cString call.data else call.data.take call.len.toNat

def espMqttClientPublish (client : Client capacity) (call : Publish) (tick : Int)
    (write : Write) : Int × Client capacity :=
  if client.state ≠ .connected then (-1, client)
  else
    let (connection, msgId) :=
      mqttMsgPublish client.connection call.topic call.payload call.qos call.retain 0 call.drawn
    let client := { client with connection := connection }
    let client := if 0 < call.qos then mqttEnqueue (pend client msgId) tick else client
    let (written, client) := mqttWriteData client write
    (if written then msgId.toNat else -1, client)

-- The transport, the clock and the random numbers answer as they like. A tick is a reading of the
-- time of day, which can be set, so nothing is assumed of two readings.
inductive Action where
  | connect (reachable : Bool) (write : Write) (read : Read) (tick : Int)
  | receive (receipt : Receipt) (tick : Int)
  | checkKeepalive (now : Int) (write : Write) (tick : Int)
  | cleanOutbox (now : Int)
  | waitTimeout (now tick : Int)
  | publish (call : Publish) (tick : Int) (write : Write)
  | subscribe (topic : List UInt8) (qos : Nat) (drawn : DrawnId) (tick : Int) (write : Write)
  | unsubscribe (topic : List UInt8) (drawn : DrawnId) (tick : Int) (write : Write)

def connectTask (setup : Setup capacity) (client : Client capacity) (reachable : Bool)
    (write : Write) (read : Read) (tick : Int) : Client capacity :=
  let client := client.note .connecting
  if reachable then
    let (accepted, client) := espMqttConnect setup client write read
    if accepted then espMqttDispatchEvent { client with state := .connected } .connected
    else espMqttAbortConnection client tick
  else espMqttAbortConnection client tick

def receiveTask (client : Client capacity) (receipt : Receipt) (tick : Int) : Client capacity :=
  match mqttProcessReceive client receipt with
  | none => espMqttAbortConnection client tick
  | some client => { client with phase := .keepalive }

def keepaliveMs (setup : Setup capacity) : Int := (setup.connectInfo.keepalive * 1000 / 2 : Nat)

def keepaliveTask (setup : Setup capacity) (client : Client capacity) (now : Int) (write : Write)
    (tick : Int) : Client capacity :=
  let client := client.note (.checked now)
  if keepaliveMs setup < now - client.keepaliveTick then
    if client.waitForPingResp then espMqttAbortConnection client tick
    else
      let (written, client) := espMqttClientPing client write
      if written then { client with waitForPingResp := true, phase := .outbox }
      else espMqttAbortConnection client tick
  else { client with phase := .outbox }

def outboxTask (client : Client capacity) (now : Int) : Client capacity :=
  let recent := outboxDeleteExpired client.outbox now outboxExpiredTimeoutMs
  { client with outbox := (outboxCleanup outboxMaxSize recent).2, phase := .top }

-- The loop ends with the transport being closed once more.
def waitTask (setup : Setup capacity) (client : Client capacity) (now tick : Int) :
    Client capacity :=
  if setup.autoReconnect = false then { client.note .ended with phase := .ended }
  else if client.waitTimeoutMs < now - client.reconnectTick then
    { client.note (.waited now) with state := .init, reconnectTick := tick }
  else client

def step (setup : Setup capacity) (client : Client capacity) : Action → Option (Client capacity)
  | .connect reachable write read tick =>
      if client.phase = .top ∧ client.state = .init then
        some (connectTask setup client reachable write read tick)
      else none
  | .receive receipt tick =>
      if client.phase = .top ∧ client.state = .connected then
        some (receiveTask client receipt tick)
      else none
  | .checkKeepalive now write tick =>
      if client.phase = .keepalive then some (keepaliveTask setup client now write tick) else none
  | .cleanOutbox now => if client.phase = .outbox then some (outboxTask client now) else none
  | .waitTimeout now tick =>
      if client.phase = .top ∧ client.state = .waitTimeout then
        some (waitTask setup client now tick)
      else none
  | .publish call tick write => some (espMqttClientPublish client call tick write).2
  | .subscribe topic qos drawn tick write =>
      some (espMqttClientSubscribe client topic qos drawn tick write).2
  | .unsubscribe topic drawn tick write =>
      some (espMqttClientUnsubscribe client topic drawn tick write).2

def espMqttClientInit (setup : Setup capacity) : Client capacity where
  connection := mqttMsgInit setup.outBuffer
  inBuffer := setup.inBuffer
  pendingMsgId := 0
  pendingMsgType := 0
  pendingMsgCount := 0
  state := .init
  keepaliveTick := setup.keepaliveTick
  reconnectTick := setup.reconnectTick
  waitTimeoutMs := 0
  waitForPingResp := false
  outbox := []
  phase := .top
  trace := []

def mqttClient (setup : Setup capacity) : System (Client capacity) Action :=
  ⟨espMqttClientInit setup, step setup⟩

def hexDigit (upper : Bool) (digit : Nat) : UInt8 :=
  UInt8.ofNat (if digit < 10 then 48 + digit else if upper then 55 + digit else 87 + digit)

def hexByte (upper : Bool) (byte : UInt8) : List UInt8 :=
  [hexDigit upper (byte.toNat / 16), hexDigit upper (byte.toNat % 16)]

-- Of the address of the station, the last three bytes.
def platformCreateIdString (first second third : UInt8) : List UInt8 :=
  [69, 83, 80, 51, 50, 95] ++ hexByte false first ++ hexByte true second ++ hexByte true third

-- What `MqttInitM` does not name is zero. Its address names no user.
def mqttCfg : EspMqttClientConfig where
  clientId := none
  username := none
  password := none
  lwtTopic := none
  lwtMsg := none
  lwtMsgLen := 0
  lwtQos := 0
  lwtRetain := false
  disableCleanSession := false
  keepalive := 0
  disableAutoReconnect := false
  bufferSize := 0

def espMqttSetup (config : EspMqttClientConfig) (protocol311 : Bool) (idString : List UInt8)
    (outBuffer inBuffer : Buffer (bufferSize config)) (keepaliveTick reconnectTick : Int) :
    Setup (bufferSize config) where
  connectInfo := espMqttSetConfig config idString
  autoReconnect := !config.disableAutoReconnect
  protocol311 := protocol311
  outBuffer := outBuffer
  inBuffer := inBuffer
  keepaliveTick := keepaliveTick
  reconnectTick := reconnectTick

def firmwareSetup : Setup (bufferSize mqttCfg) :=
  espMqttSetup mqttCfg true (platformCreateIdString 0xa1 0xb2 0xc3) .blank .blank 0 0

end EspMqtt
