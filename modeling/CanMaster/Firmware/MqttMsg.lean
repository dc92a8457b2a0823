import Mathlib.Data.Option.Basic
import CanMaster.Shared.JsonText
import CanMaster.Firmware.MqttEvents

set_option autoImplicit false

namespace CanMaster

def mqttMaxFixedHeaderSize : Nat := 3

-- The default of the client's configuration, which `MqttInitM` leaves as it is.
def mqttBufferSizeByte : Nat := 1024

def mqttRequestTopic : String := "request"

-- Only the length of a message is kept here, and none for one that fails.
def appendString (bufferLength length len : Nat) : Option Nat :=
  if bufferLength < length + len + 2 then none else some (length + len + 2)

def appendMessageId (bufferLength length : Nat) : Option Nat :=
  if bufferLength < length + 2 then none else some (length + 2)

-- A short message begins one byte later in the buffer.
def finiMessage (length : Nat) : Nat :=
  let remainingLength := length - mqttMaxFixedHeaderSize
  if 127 < remainingLength then remainingLength + 3 else remainingLength + 2

def mqttMsgPublish (bufferLength : Nat) (topic : String) (dataLength qos : Nat) : Option Nat :=
  if topic.isEmpty then none
  else
    (appendString bufferLength mqttMaxFixedHeaderSize topic.length).bind fun afterTopic =>
      (if 0 < qos then appendMessageId bufferLength afterTopic else some afterTopic).bind
        fun afterId =>
          if bufferLength < afterId + dataLength then none
          else some (finiMessage (afterId + dataLength))

def requestMessage (cJSONPrint : Json → String) (request : Option MasterRequest) : Option Nat :=
  mqttMsgPublish mqttBufferSizeByte mqttRequestTopic
    (cJSONPrint (masterRequestJson request)).length 2

theorem requestMessage_isSome (cJSONPrint : Json → String) (request : Option MasterRequest) :
    (requestMessage cJSONPrint request).isSome = true ↔
      (cJSONPrint (masterRequestJson request)).length ≤ 1010 := by
  have topic : mqttRequestTopic.length = 7 := rfl
  have named : mqttRequestTopic.isEmpty = false := rfl
  simp only [requestMessage, mqttMsgPublish, named, Bool.false_eq_true, if_false, appendString,
    appendMessageId, topic, mqttMaxFixedHeaderSize, mqttBufferSizeByte]
  by_cases fits : (cJSONPrint (masterRequestJson request)).length ≤ 1010
  next =>
    have inside : ¬ 1024 < 14 + (cJSONPrint (masterRequestJson request)).length := by omega
    simp [inside, fits]
  next =>
    have outside : 1024 < 14 + (cJSONPrint (masterRequestJson request)).length := by omega
    simp [outside, fits]

end CanMaster
