import CanMaster.Firmware.Requests

set_option autoImplicit false

namespace CanMaster

/-- One effect of the MQTT callback. A fault resets the device, so nothing follows it. -/
inductive MqttOp where
  | sendFrame (frame : CanMsgTimestamped)
  | sendNetReceived
  | fault
  deriving DecidableEq

-- The callback once `cJSON_Parse` has returned.
def mqttApply (canM : CanMsgTimestamped) : Option Json → List MqttOp
  | none => []
  | some jdata =>
      let sent := requestCanSend canM jdata
      sent.frames.map .sendFrame ++ [if sent.finished then .sendNetReceived else .fault]

-- The payload starts at `data` in the client's buffer and is not terminated. Behind it lie bytes of
-- other messages. The pointer is null where the payload is empty and ends what has been read.
structure MqttEvent where
  data : Option (List UInt8)
  behind : List UInt8
  currentDataOffset : Nat
  totalDataLen : Nat

def MqttEvent.bytes (event : MqttEvent) : List UInt8 := event.data.getD []

def cString (memory : List UInt8) : List UInt8 := memory.takeWhile (· != 0)

def MqttEvent.text (event : MqttEvent) : Option (List UInt8) :=
  event.data.map fun data => cString (data ++ event.behind)

def mqttReceive (cJSONParse : List UInt8 → Option Json) (canM : CanMsgTimestamped)
    (event : MqttEvent) : List MqttOp :=
  match event.text with
  | none => []
  | some text => mqttApply canM (cJSONParse text)

def MqttEvent.parsed (cJSONParse : List UInt8 → Option Json) (event : MqttEvent) : Option Json :=
  event.text.bind cJSONParse

theorem mqttReceive_eq (cJSONParse : List UInt8 → Option Json) (canM : CanMsgTimestamped)
    (event : MqttEvent) :
    mqttReceive cJSONParse canM event = mqttApply canM (event.parsed cJSONParse) := by
  rw [mqttReceive, MqttEvent.parsed]
  cases event.text <;> rfl

/-- What decides the result of a publish: the connection, whether the message fits the
client's buffer, what the transport wrote, and the message id. -/
structure PublishAttempt where
  connected : Bool
  fits : Bool
  written : Int
  pendingMsgId : UInt16

-- A message that does not fit has length zero, and writing it fails.
def espMqttClientPublish (attempt : PublishAttempt) : Int :=
  if attempt.connected = false then -1
  else if attempt.fits = false ∨ attempt.written ≤ 0 then -1
  else attempt.pendingMsgId.toNat

end CanMaster
