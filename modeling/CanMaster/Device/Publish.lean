import CanMaster.EspMqtt.Calls
import CanMaster.EspMqtt.RoundTrip
import CanMaster.Firmware.MqttMsg

set_option autoImplicit false

namespace Device

open EspMqtt ByteFields

variable {capacity : Nat}

-- The texts of the firmware are ASCII.
def textBytes (text : String) : List UInt8 := text.toList.map fun c => UInt8.ofNat c.toNat

@[simp] theorem textBytes_length (text : String) : (textBytes text).length = text.length := by
  rw [textBytes, List.length_map, String.length_toList]

theorem textBytes_isEmpty (text : String) : (textBytes text).isEmpty = text.isEmpty := by
  rw [Bool.eq_iff_iff, List.isEmpty_iff, ← List.length_eq_zero_iff, textBytes_length,
    String.isEmpty_iff, ← String.length_toList, List.length_eq_zero_iff]
  exact String.toList_eq_nil_iff

def textCall (topic text : String) (qos : Nat) (drawn : DrawnId) : Publish where
  topic := textBytes topic
  data := textBytes text
  len := text.length
  qos := qos
  retain := 0
  drawn := drawn

theorem textCall_payload (topic text : String) (qos : Nat) (drawn : DrawnId) :
    (textCall topic text qos drawn).payload = textBytes text := by
  rw [Publish.payload]
  split
  next none =>
    have empty : textBytes text = [] := by
      rw [← List.length_eq_zero_iff, textBytes_length]
      simp only [textCall] at none
      omega
    simp [textCall, empty, CanMaster.cString]
  next => simp [textCall, ← textBytes_length]

def attempt (client : Client capacity) (topic text : String) (qos : Nat) (drawn : DrawnId)
    (write : Write) : CanMaster.PublishAttempt where
  connected := client.state = .connected
  fits := (CanMaster.mqttMsgPublish capacity topic text.length qos).isSome
  written := write.written
  pendingMsgId := if 0 < qos then drawn.val else 0

theorem publishBody_length (topic data : List UInt8) (qos : Nat) (drawn : DrawnId) :
    (publishBody topic data qos drawn).length =
      topic.length + 2 + (if 0 < qos then 2 else 0) + data.length := by
  have id : (if 0 < qos then bigEndian drawn.val.toNat else []).length = if 0 < qos then 2 else 0 := by
    split <;> rfl
  simp only [publishBody, List.length_append, field_length, id]

-- A part that does not fit ends the message, and what follows is longer still.
theorem part_bind {capacity whole : Nat} (part : Nat) (more : part ≤ whole) {α : Type}
    {rest : Nat → Option α} {message : α}
    (continued : part ≤ capacity → rest part = if whole ≤ capacity then some message else none) :
    (if capacity < part then none else some part).bind rest =
      if whole ≤ capacity then some message else none := by
  by_cases full : capacity < part
  next =>
    have beyond : ¬ whole ≤ capacity := by omega
    rw [if_pos full, if_neg beyond]
    rfl
  next =>
    rw [if_neg full]
    exact continued (Nat.not_lt.mp full)

theorem finiMessage_eq (remaining : Nat) :
    CanMaster.finiMessage (3 + remaining) =
      if 127 < remaining then remaining + 3 else remaining + 2 := by
  have same : 3 + remaining - CanMaster.mqttMaxFixedHeaderSize = remaining :=
    Nat.add_sub_cancel_left 3 remaining
  simp only [CanMaster.finiMessage, same]

theorem messageLength_eq (capacity : Nat) (topic : String) (length qos : Nat) :
    CanMaster.mqttMsgPublish capacity topic length qos =
      let body := topic.length + 2 + (if 0 < qos then 2 else 0) + length
      if topic.isEmpty then none
      else if 3 + body ≤ capacity then some (CanMaster.finiMessage (3 + body))
      else none := by
  rw [CanMaster.mqttMsgPublish]
  split
  next => rfl
  next =>
    refine part_bind (3 + topic.length + 2) (by omega) fun _ => ?_
    by_cases numbered : 0 < qos
    next =>
      rw [if_pos numbered, if_pos numbered]
      have whole : 3 + topic.length + 2 + 2 + length = 3 + (topic.length + 2 + 2 + length) := by
        omega
      refine part_bind (3 + topic.length + 2 + 2) (by omega) fun _ => ?_
      rw [whole]
      split <;> split <;> first | rfl | omega
    next =>
      rw [if_neg numbered, if_neg numbered, Option.bind_some]
      have whole : 3 + topic.length + 2 + length = 3 + (topic.length + 2 + 0 + length) := by
        omega
      rw [whole]
      split <;> split <;> first | rfl | omega

theorem headerLength_eq {body : List UInt8} (small : body.length < 16384) :
    headerLength body = if 127 < body.length then 3 else 2 := by
  rw [headerLength]
  split
  next large =>
    rw [lengthBytes_two large small]
    rfl
  next short =>
    rw [lengthBytes, if_pos (by omega)]
    rfl

theorem finiMessage_pos (length : Nat) : 0 < CanMaster.finiMessage length := by
  rw [CanMaster.finiMessage]
  split <;> omega

theorem messageLength_pos {capacity length qos n : Nat} {topic : String}
    (built : CanMaster.mqttMsgPublish capacity topic length qos = some n) : 0 < n := by
  rw [messageLength_eq] at built
  simp only [Option.ite_none_left_eq_some, Option.ite_none_right_eq_some,
    Option.some.injEq] at built
  obtain ⟨-, -, rfl⟩ := built
  exact finiMessage_pos _

theorem textCall_called {client : Client capacity} (connected : client.state = .connected)
    (topic text : String) (qos : Nat) (drawn : DrawnId) (tick : Int) (write : Write) :
    let message := mqttMsgPublish client.connection (textBytes topic) (textBytes text) qos 0 0 drawn
    Called client (espMqttClientPublish client (textCall topic text qos drawn) tick write) message
      (if 0 < qos then [requestOf message] else []) write := by
  intro message
  have called := publish_called connected (textCall topic text qos drawn) tick write
  rw [textCall_payload] at called
  exact called

section Sizes

variable (room : 3 ≤ capacity) (small : capacity ≤ 16386)

include room small

theorem publish_length (connection : MqttConnection capacity) (topic text : String)
    (qos retain : Nat) (messageId : UInt16) (drawn : DrawnId) :
    (mqttMsgPublish connection (textBytes topic) (textBytes text) qos retain messageId
      drawn).1.sent.length = (CanMaster.mqttMsgPublish capacity topic text.length qos).getD 0 := by
  rw [messageLength_eq]
  have size := publishBody_length (textBytes topic) (textBytes text) qos drawn
  simp only [textBytes_length] at size
  by_cases unnamed : topic.isEmpty = true
  next =>
    have empty : (textBytes topic).isEmpty = true := by rw [textBytes_isEmpty, unnamed]
    simp only [mqttMsgPublish, empty, unnamed, if_true, failMessage_sent]
    rfl
  next =>
    have present : topic.isEmpty = false := Bool.eq_false_iff.mpr unnamed
    have named : textBytes topic ≠ [] := by
      rw [← List.isEmpty_eq_false_iff, textBytes_isEmpty, present]
    rw [mqttMsgPublish_sent room small connection named]
    simp only [present, Bool.false_eq_true, if_false]
    rw [← size]
    split
    next fits =>
      rw [controlPacket_length, Option.getD_some, finiMessage_eq,
        Nat.add_comm (headerLength _), headerLength_eq (by omega)]
      split <;> rfl
    next => rfl

theorem textCall_result (client : Client capacity) (topic text : String) (qos : Nat)
    (drawn : DrawnId) (tick : Int) (write : Write) (honest : write.written ≤
      (espMqttClientPublish client (textCall topic text qos drawn) tick
        write).2.connection.sent.length) :
    (espMqttClientPublish client (textCall topic text qos drawn) tick write).1 =
      CanMaster.espMqttClientPublish (attempt client topic text qos drawn write) := by
  by_cases connected : client.state = .connected
  next =>
    have called := textCall_called connected topic text qos drawn tick write
    have length := publish_length room small client.connection topic text qos 0 0 drawn
    have fits : (attempt client topic text qos drawn write).fits =
        (CanMaster.mqttMsgPublish capacity topic text.length qos).isSome := rfl
    have apart : (attempt client topic text qos drawn write).connected = true :=
      decide_eq_true connected
    rw [called.result, CanMaster.espMqttClientPublish, apart, fits]
    cases size : CanMaster.mqttMsgPublish capacity topic text.length qos with
    | none =>
      rw [size, Option.getD_none] at length
      have unwritten : write.written ≤ 0 := by
        rw [called.connection, length] at honest
        exact honest
      rw [if_pos unwritten]
      rfl
    | some n =>
      rw [size, Option.getD_some] at length
      have sent : (mqttMsgPublish client.connection (textBytes topic) (textBytes text) qos 0 0
          drawn).1.sent ≠ [] := by
        rw [← List.length_pos_iff, length]
        exact messageLength_pos size
      have id := mqttMsgPublish_id sent
      simp [id, attempt]
  next =>
    have apart : (attempt client topic text qos drawn write).connected = false :=
      decide_eq_false connected
    rw [publish_apart connected, CanMaster.espMqttClientPublish, if_pos apart]

theorem publish_refines (client : Client capacity) (topic text : String) (qos : Nat)
    (drawn : DrawnId) (tick : Int) (write : Write) :
    let outcome := espMqttClientPublish client (textCall topic text qos drawn) tick write
    write.written ≤ outcome.2.connection.sent.length →
      outcome.1 = CanMaster.espMqttClientPublish (attempt client topic text qos drawn write) ∧
      (client.state = .connected → outcome.2.connection.sent.length =
        (CanMaster.mqttMsgPublish capacity topic text.length qos).getD 0) := by
  intro outcome honest
  refine ⟨textCall_result room small client topic text qos drawn tick write honest, ?_⟩
  intro connected
  have built := (textCall_called connected topic text qos drawn tick write).connection
  exact (congrArg (fun connection => connection.sent.length) built).trans
    (publish_length room small client.connection topic text qos 0 0 drawn)

end Sizes

theorem publish_refines_written :
    let client := { espMqttClientInit firmwareSetup with state := .connected }
    let outcome := espMqttClientPublish client (textCall "request" "\x7b\x7d" 2 drawnId) 5
      ⟨15, 6⟩
    outcome.1 = CanMaster.espMqttClientPublish ⟨true, true, 15, 9⟩ ∧
      (client.state = .connected → outcome.2.connection.sent.length =
        (CanMaster.mqttMsgPublish 1024 "request" 2 2).getD 0) :=
  publish_refines (by decide) (by decide) _ "request" "\x7b\x7d" 2 drawnId 5 ⟨15, 6⟩
    (by decide +kernel)

end Device
