import CanMaster.EspMqtt.Message

set_option autoImplicit false

namespace EspMqtt

open ByteFields

-- The readers get the memory from the start of a message on and a length, which need not be that of
-- the message. A pointer into the memory is the number of bytes before it.
def byteAt (memory : List UInt8) (i : Nat) : UInt8 := memory.getD i 0

def mqttGetType (memory : List UInt8) : Nat := ((byteAt memory 0).toNat &&& 0xf0) >>> 4

def mqttGetConnectReturnCode (memory : List UInt8) : Nat := (byteAt memory 3).toNat

def mqttGetDup (memory : List UInt8) : Nat := ((byteAt memory 0).toNat &&& 0x08) >>> 3

def mqttGetQos (memory : List UInt8) : Nat := ((byteAt memory 0).toNat &&& 0x06) >>> 1

def mqttGetRetain (memory : List UInt8) : Nat := (byteAt memory 0).toNat &&& 0x01

/-- The loop over the remaining length, from the byte at `i` on: what it adds up and where it
leaves off. It ends behind the first byte without a mark, or where there are no more bytes. -/
def lengthLoop : List UInt8 → Nat → Nat × Nat
  | [], i => (0, i)
  | byte :: rest, i =>
      if marked byte then
        let (total, next) := lengthLoop rest (i + 1)
        ((group byte <<< (7 * (i - 1))) + total, next)
      else (group byte <<< (7 * (i - 1)), i + 1)

def remainingLength (memory : List UInt8) (length : Nat) : Nat × Nat :=
  lengthLoop ((memory.take length).drop 1) 1

-- Here and in `mqtt_get_id` the length is a `uint16_t`.
def mqttGetTotalLength (memory : List UInt8) (length : Nat) : UInt32 :=
  let (total, i) := remainingLength memory (length % 65536)
  UInt32.ofNat (total + i)

def topicLength (memory : List UInt8) (i : Nat) : Nat :=
  readBigEndian (byteAt memory i) (byteAt memory (i + 1))

def mqttGetPublishTopic (memory : List UInt8) (length : Nat) : Option (Nat × Nat) :=
  let (_, i) := remainingLength memory length
  if length ≤ i + 2 then none
  else
    let topiclen := topicLength memory i
    if length < i + 2 + topiclen then none else some (i + 2, topiclen)

def afterVariableHeader (memory : List UInt8) (length i : Nat) : Option Nat :=
  if length ≤ i + 2 then none
  else
    let topiclen := topicLength memory i
    if length ≤ i + 2 + topiclen then none
    else if 0 < mqttGetQos memory then
      if length ≤ i + 2 + topiclen + 2 then none else some (i + 2 + topiclen + 2)
    else some (i + 2 + topiclen)

-- The pointer, and the length that is written back.
def mqttGetPublishData (memory : List UInt8) (length : Nat) : Option Nat × Nat :=
  let (total, next) := remainingLength memory length
  match afterVariableHeader memory length next with
  | none => (none, 0)
  | some i =>
      if total + next < i then (none, 0)
      else (some i, if total + next ≤ length then total + next - i else length - i)

def messageIdAt (memory : List UInt8) (i : Nat) : UInt16 :=
  UInt16.ofNat (readBigEndian (byteAt memory i) (byteAt memory (i + 1)))

def publishId (memory : List UInt8) (length : Nat) : UInt16 :=
  let (_, i) := remainingLength memory length
  if length ≤ i + 2 then 0
  else
    let topiclen := topicLength memory i
    if length ≤ i + 2 + topiclen then 0
    else if 0 < mqttGetQos memory then
      if length ≤ i + 2 + topiclen + 2 then 0 else messageIdAt memory (i + 2 + topiclen)
    else 0

-- The length is taken to be one byte.
def acknowledgedId (memory : List UInt8) (length : Nat) : UInt16 :=
  if 4 ≤ length ∧ marked (byteAt memory 1) = false then messageIdAt memory 2 else 0

def hasAcknowledgedId (type : Nat) : Bool :=
  [MqttMessageType.puback, .pubrec, .pubrel, .pubcomp, .suback, .unsuback, .subscribe].any
    fun known => known.code = type

def mqttGetId (memory : List UInt8) (length : Nat) : UInt16 :=
  let length := length % 65536
  if length < 1 then 0
  else if mqttGetType memory = MqttMessageType.publish.code then publishId memory length
  else if hasAcknowledgedId (mqttGetType memory) then acknowledgedId memory length
  else 0

end EspMqtt
