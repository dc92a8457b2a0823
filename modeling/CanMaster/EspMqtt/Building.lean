import CanMaster.EspMqtt.Packet

set_option autoImplicit false

namespace EspMqtt

open ByteFields
open CanMaster (mqttMaxFixedHeaderSize)

variable {capacity : Nat}

structure Holds (connection : MqttConnection capacity) (body : List UInt8) : Prop where
  length : connection.message.length = 3 + body.length
  inside : connection.message.length ≤ capacity
  content : connection.buffer.slice 3 connection.message.length = body

theorem holds_init (connection : MqttConnection capacity) (room : 3 ≤ capacity) :
    Holds (initMessage connection) [] :=
  ⟨rfl, room, by simp [initMessage, mqttMaxFixedHeaderSize, Buffer.slice]⟩

theorem Holds.put {connection : MqttConnection capacity} {body bytes : List UInt8}
    (holds : Holds connection body) (room : 3 + (body ++ bytes).length ≤ capacity) :
    Holds (connection.put bytes) (body ++ bytes) := by
  obtain ⟨length, inside, content⟩ := holds
  rw [List.length_append] at room
  have fits : connection.message.length + bytes.length ≤ capacity := by omega
  constructor
  next =>
    simp only [MqttConnection.put, List.length_append]
    omega
  next => exact fits
  next =>
    simp only [MqttConnection.put]
    rw [Buffer.slice_write_back fits (by omega), content]

theorem failMessage_sent (connection : MqttConnection capacity) :
    (failMessage connection).sent = [] := by
  simp [failMessage, MqttConnection.sent, Buffer.slice]

theorem lengthBytes_two {n : Nat} (large : 127 < n) (small : n < 16384) :
    lengthBytes n = [UInt8.ofNat (0x80 ||| n % 128), UInt8.ofNat (n / 128)] := by
  have low : n % 128 < 2 ^ 7 := Nat.mod_lt _ (by decide)
  have mark : 0x80 ||| n % 128 = n % 128 + 128 := by
    rw [Nat.add_comm]
    exact (Nat.two_pow_add_eq_or_of_lt low 1).symm
  rw [lengthBytes, if_neg (by omega), lengthBytes, if_pos (by omega), mark]

theorem finiMessage_sent {connection : MqttConnection capacity} {body : List UInt8}
    (holds : Holds connection body) (short : body.length < 16384) (type : MqttMessageType)
    (dup qos retain : Nat) : (finiMessage connection type dup qos retain).sent =
      controlPacket (fixedHeader type.code dup qos retain) body := by
  obtain ⟨length, inside, content⟩ := holds
  have remaining : connection.message.length - 3 = body.length := by omega
  rw [length] at content
  simp only [finiMessage, mqttMaxFixedHeaderSize, remaining]
  by_cases large : 127 < body.length
  next =>
    have fits : 0 + [fixedHeader type.code dup qos retain,
        UInt8.ofNat (0x80 ||| body.length % 128), UInt8.ofNat (body.length / 128)].length ≤
        capacity := by
      simp only [List.length_cons, List.length_nil]
      omega
    have front := Buffer.slice_write_front (b := connection.buffer) fits
      (Nat.le_add_right 3 body.length)
    have stop : 0 + (body.length + 3) = 3 + body.length := by omega
    simp only [large, if_true, MqttConnection.sent]
    rw [stop, front, controlPacket, lengthBytes_two large short]
    exact congrArg _ content
  next =>
    have single : lengthBytes body.length = [UInt8.ofNat body.length] := by
      rw [lengthBytes, if_pos (by omega)]
    have fits : 1 + [fixedHeader type.code dup qos retain, UInt8.ofNat body.length].length ≤
        capacity := by
      simp only [List.length_cons, List.length_nil]
      omega
    have front := Buffer.slice_write_front (b := connection.buffer) fits
      (Nat.le_add_right 3 body.length)
    have stop : 1 + (body.length + 2) = 3 + body.length := by omega
    simp only [large, if_false, MqttConnection.sent]
    rw [stop, front, controlPacket, single]
    exact congrArg _ content

theorem finiMessage_length {connection : MqttConnection capacity} {body : List UInt8}
    (holds : Holds connection body) (type : MqttMessageType) (dup qos retain : Nat) :
    (finiMessage connection type dup qos retain).message.length ≤ capacity := by
  have length := holds.length
  have inside := holds.inside
  by_cases large : 127 < connection.message.length - 3
  next =>
    simp only [finiMessage, mqttMaxFixedHeaderSize, large, if_true]
    omega
  next =>
    simp only [finiMessage, mqttMaxFixedHeaderSize, large, if_false]
    omega

theorem appendString_ok {connection : MqttConnection capacity} {body string : List UInt8}
    (holds : Holds connection body) (room : 3 + (body ++ field string).length ≤ capacity) :
    appendString connection string = .ok (connection.put (field string)) := by
  have length := holds.length
  rw [List.length_append, field_length] at room
  rw [appendString, if_neg (by omega)]

theorem appendString_error {connection : MqttConnection capacity} {body string : List UInt8}
    (holds : Holds connection body) (full : ¬ 3 + (body ++ field string).length ≤ capacity) :
    appendString connection string = .error connection := by
  have length := holds.length
  rw [List.length_append, field_length] at full
  rw [appendString, if_pos (by omega)]

def givenId (messageId : UInt16) (drawn : DrawnId) : UInt16 :=
  if messageId = 0 then drawn.val else messageId

theorem appendMessageId_ok {connection : MqttConnection capacity} {body : List UInt8}
    (holds : Holds connection body) {messageId : UInt16} {drawn : DrawnId}
    (room : 3 + (body ++ bigEndian (givenId messageId drawn).toNat).length ≤ capacity) :
    appendMessageId connection messageId drawn =
      .ok (connection.put (bigEndian (givenId messageId drawn).toNat),
        givenId messageId drawn) := by
  have length := holds.length
  rw [List.length_append, bigEndian_length] at room
  rw [appendMessageId, if_neg (by omega)]
  rfl

theorem appendMessageId_error {connection : MqttConnection capacity} {body : List UInt8}
    (holds : Holds connection body) {messageId : UInt16} {drawn : DrawnId}
    (full : ¬ 3 + (body ++ bigEndian (givenId messageId drawn).toNat).length ≤ capacity) :
    appendMessageId connection messageId drawn = .error connection := by
  have length := holds.length
  rw [List.length_append, bigEndian_length] at full
  rw [appendMessageId, if_pos (by omega)]

end EspMqtt
