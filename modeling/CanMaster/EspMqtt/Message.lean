import CanMaster.Firmware.MqttMsg
import CanMaster.Shared.Buffer
import CanMaster.Shared.ByteFields

set_option autoImplicit false

namespace EspMqtt

open ByteFields
open CanMaster (mqttMaxFixedHeaderSize)

inductive MqttMessageType where
  | connect
  | connack
  | publish
  | puback
  | pubrec
  | pubrel
  | pubcomp
  | subscribe
  | suback
  | unsubscribe
  | unsuback
  | pingreq
  | pingresp
  | disconnect
  deriving DecidableEq

def MqttMessageType.code : MqttMessageType → Nat
  | .connect => 1
  | .connack => 2
  | .publish => 3
  | .puback => 4
  | .pubrec => 5
  | .pubrel => 6
  | .pubcomp => 7
  | .subscribe => 8
  | .suback => 9
  | .unsubscribe => 10
  | .unsuback => 11
  | .pingreq => 12
  | .pingresp => 13
  | .disconnect => 14

structure MqttMessage where
  data : Nat
  length : Nat

-- A message is put together behind three bytes for its fixed header. The length of the buffer is kept
-- in a `uint16_t`. The functions treat a null pointer for a string as an empty string.
structure MqttConnection (capacity : Nat) where
  buffer : Buffer capacity
  message : MqttMessage

/-- An identifier that `append_message_id` ends up with when it is given none: it draws numbers
below 65535 until one is not zero. -/
abbrev DrawnId : Type := { id : UInt16 // id ≠ 0 ∧ id ≠ 65535 }

def drawnId : DrawnId := ⟨9, by decide⟩

variable {capacity : Nat}

def mqttMsgInit (buffer : Buffer capacity) : MqttConnection capacity := ⟨buffer, ⟨0, 0⟩⟩

namespace MqttConnection

def put (connection : MqttConnection capacity) (bytes : List UInt8) : MqttConnection capacity where
  buffer := connection.buffer.write connection.message.length bytes
  message := { connection.message with length := connection.message.length + bytes.length }

def sent (connection : MqttConnection capacity) : List UInt8 :=
  connection.buffer.slice connection.message.data
    (connection.message.data + connection.message.length)

end MqttConnection

-- An attempt that fails leaves the connection as it is there.
abbrev Attempt (capacity : Nat) : Type :=
  Except (MqttConnection capacity) (MqttConnection capacity)

def appendString (connection : MqttConnection capacity) (string : List UInt8) :
    Attempt capacity :=
  if capacity < connection.message.length + string.length + 2 then .error connection
  else .ok (connection.put (field string))

def appendMessageId (connection : MqttConnection capacity) (messageId : UInt16)
    (drawn : DrawnId) : Except (MqttConnection capacity) (MqttConnection capacity × UInt16) :=
  let messageId := if messageId = 0 then drawn.val else messageId
  if capacity < connection.message.length + 2 then .error connection
  else .ok (connection.put (bigEndian messageId.toNat), messageId)

def initMessage (connection : MqttConnection capacity) : MqttConnection capacity :=
  { connection with message := { connection.message with length := mqttMaxFixedHeaderSize } }

def failMessage (connection : MqttConnection capacity) : MqttConnection capacity :=
  { connection with message := ⟨0, 0⟩ }

def fixedHeader (type dup qos retain : Nat) : UInt8 :=
  UInt8.ofNat (((type &&& 0x0f) <<< 4) ||| ((dup &&& 1) <<< 3) ||| ((qos &&& 3) <<< 1) |||
    (retain &&& 1))

def finiMessage (connection : MqttConnection capacity) (type : MqttMessageType)
    (dup qos retain : Nat) : MqttConnection capacity :=
  let remainingLength := connection.message.length - mqttMaxFixedHeaderSize
  let header := fixedHeader type.code dup qos retain
  if 127 < remainingLength then
    { buffer := connection.buffer.write 0 [header, UInt8.ofNat (0x80 ||| remainingLength % 128),
        UInt8.ofNat (remainingLength / 128)]
      message := ⟨0, remainingLength + 3⟩ }
  else
    { buffer := connection.buffer.write 1 [header, UInt8.ofNat remainingLength]
      message := ⟨1, remainingLength + 2⟩ }

def Attempt.orFail : Attempt capacity → MqttConnection capacity
  | .ok connection => connection
  | .error connection => failMessage connection

structure MqttConnectInfo where
  clientId : List UInt8
  username : List UInt8
  password : List UInt8
  willTopic : List UInt8
  willMessage : List UInt8
  keepalive : Nat
  willQos : Nat
  willRetain : Bool
  cleanSession : Bool

def connectFlagUsername : Nat := 1 <<< 7
def connectFlagPassword : Nat := 1 <<< 6
def connectFlagWillRetain : Nat := 1 <<< 5
def connectFlagWill : Nat := 1 <<< 2
def connectFlagCleanSession : Nat := 1 <<< 1

def connectVariableHeaderSize : Nat := 10

-- The flags are the eighth byte of the variable header, behind the room for the fixed one.
def MqttConnection.orFlags (connection : MqttConnection capacity) (flags : Nat) :
    MqttConnection capacity :=
  { connection with
    buffer := connection.buffer.write 10 [connection.buffer.get 10 ||| UInt8.ofNat flags] }

-- The struct has four bytes for the name in either configuration. Without 3.1.1 six are copied
-- there, and two of them are overwritten by the version and the flags.
def connectVariableHeader (protocol311 : Bool) (keepalive : Nat) : List UInt8 :=
  (if protocol311 then [0, 4, 77, 81, 84, 84, 4] else [0, 6, 77, 81, 73, 115, 3]) ++
    0 :: bigEndian keepalive

def appendWill (connection : MqttConnection capacity) (info : MqttConnectInfo) :
    Attempt capacity :=
  if info.willTopic.isEmpty then .ok connection
  else do
    let named ← appendString connection info.willTopic
    let told ← appendString named info.willMessage
    let willed := told.orFlags connectFlagWill
    let retained := if info.willRetain then willed.orFlags connectFlagWillRetain else willed
    return retained.orFlags ((info.willQos &&& 3) <<< 3)

def appendOption (connection : MqttConnection capacity) (string : List UInt8) (flag : Nat) :
    Attempt capacity :=
  if string.isEmpty then .ok connection
  else do
    let appended ← appendString connection string
    return appended.orFlags flag

def appendClientId (connection : MqttConnection capacity) (clientId : List UInt8) :
    Attempt capacity :=
  if clientId.isEmpty then .error connection else appendString connection clientId

def appendConnectPayload (connection : MqttConnection capacity) (info : MqttConnectInfo) :
    Attempt capacity := do
  let named ← appendClientId connection info.clientId
  let willed ← appendWill named info
  let known ← appendOption willed info.username connectFlagUsername
  appendOption known info.password connectFlagPassword

def mqttMsgConnect (protocol311 : Bool) (connection : MqttConnection capacity)
    (info : MqttConnectInfo) : MqttConnection capacity :=
  let begun := initMessage connection
  if capacity < begun.message.length + connectVariableHeaderSize then failMessage begun
  else
    let headed := begun.put (connectVariableHeader protocol311 info.keepalive)
    let cleaned := if info.cleanSession then headed.orFlags connectFlagCleanSession else headed
    Attempt.orFail do
      let whole ← appendConnectPayload cleaned info
      return finiMessage whole .connect 0 0 0

-- The payload is the last part, and the message is failed if it does not fit.
def putPayload (connection : MqttConnection capacity) (data : List UInt8) (qos retain : Nat) :
    MqttConnection capacity :=
  if capacity < connection.message.length + data.length then failMessage connection
  else finiMessage (connection.put data) .publish 0 qos retain

-- With the message comes what lies behind the pointer to the identifier afterwards.
def mqttMsgPublish (connection : MqttConnection capacity) (topic data : List UInt8)
    (qos retain : Nat) (messageId : UInt16) (drawn : DrawnId) :
    MqttConnection capacity × UInt16 :=
  let begun := initMessage connection
  if topic.isEmpty then (failMessage begun, messageId)
  else
    match appendString begun topic with
    | .error unnamed => (failMessage unnamed, messageId)
    | .ok named =>
        if 0 < qos then
          match appendMessageId named 0 drawn with
          | .error unnumbered => (failMessage unnumbered, 0)
          | .ok (numbered, id) => (putPayload numbered data qos retain, id)
        else (putPayload named data qos retain, 0)

def mqttMsgAcknowledge (type : MqttMessageType) (qos : Nat)
    (connection : MqttConnection capacity) (messageId : UInt16) (drawn : DrawnId) :
    MqttConnection capacity :=
  Attempt.orFail do
    let (numbered, _) ← appendMessageId (initMessage connection) messageId drawn
    return finiMessage numbered type 0 qos 0

def mqttMsgPuback : MqttConnection capacity → UInt16 → DrawnId → MqttConnection capacity :=
  mqttMsgAcknowledge .puback 0

def mqttMsgPubrec : MqttConnection capacity → UInt16 → DrawnId → MqttConnection capacity :=
  mqttMsgAcknowledge .pubrec 0

def mqttMsgPubrel : MqttConnection capacity → UInt16 → DrawnId → MqttConnection capacity :=
  mqttMsgAcknowledge .pubrel 1

def mqttMsgPubcomp : MqttConnection capacity → UInt16 → DrawnId → MqttConnection capacity :=
  mqttMsgAcknowledge .pubcomp 0

def appendQos (connection : MqttConnection capacity) (qos : Nat) : Attempt capacity :=
  if capacity < connection.message.length + 1 then .error connection
  else .ok (connection.put [UInt8.ofNat qos])

def mqttMsgTopic (type : MqttMessageType) (last : MqttConnection capacity → Attempt capacity)
    (connection : MqttConnection capacity) (topic : List UInt8) (messageId : UInt16)
    (drawn : DrawnId) : MqttConnection capacity × UInt16 :=
  let begun := initMessage connection
  if topic.isEmpty then (failMessage begun, messageId)
  else
    match appendMessageId begun 0 drawn with
    | .error unnumbered => (failMessage unnumbered, 0)
    | .ok (numbered, id) =>
        (Attempt.orFail do
          let named ← appendString numbered topic
          let whole ← last named
          return finiMessage whole type 0 1 0, id)

def mqttMsgSubscribe (connection : MqttConnection capacity) (topic : List UInt8) (qos : Nat) :
    UInt16 → DrawnId → MqttConnection capacity × UInt16 :=
  mqttMsgTopic .subscribe (appendQos · qos) connection topic

def mqttMsgUnsubscribe (connection : MqttConnection capacity) (topic : List UInt8) :
    UInt16 → DrawnId → MqttConnection capacity × UInt16 :=
  mqttMsgTopic .unsubscribe .ok connection topic

def mqttMsgPingreq (connection : MqttConnection capacity) : MqttConnection capacity :=
  finiMessage (initMessage connection) .pingreq 0 0 0

def mqttMsgPingresp (connection : MqttConnection capacity) : MqttConnection capacity :=
  finiMessage (initMessage connection) .pingresp 0 0 0

def mqttMsgDisconnect (connection : MqttConnection capacity) : MqttConnection capacity :=
  finiMessage (initMessage connection) .disconnect 0 0 0

end EspMqtt
