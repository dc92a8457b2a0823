import CanMaster.EspMqtt.Connect

set_option autoImplicit false

namespace EspMqtt

open ByteFields

variable {capacity : Nat}

def publishBody (topic data : List UInt8) (qos : Nat) (drawn : DrawnId) : List UInt8 :=
  field topic ++ (if 0 < qos then bigEndian drawn.val.toNat else []) ++ data

inductive MqttCall where
  | connect (info : MqttConnectInfo)
  | publish (topic data : List UInt8) (qos retain : Nat)
  | puback (messageId : UInt16)
  | pubrec (messageId : UInt16)
  | pubrel (messageId : UInt16)
  | pubcomp (messageId : UInt16)
  | subscribe (topic : List UInt8) (qos : Nat)
  | unsubscribe (topic : List UInt8)
  | pingreq
  | pingresp
  | disconnect

namespace MqttCall

def build (protocol311 : Bool) (connection : MqttConnection capacity) (drawn : DrawnId) :
    MqttCall → MqttConnection capacity
  | connect info => mqttMsgConnect protocol311 connection info
  | publish topic data qos retain => (mqttMsgPublish connection topic data qos retain 0 drawn).1
  | puback messageId => mqttMsgPuback connection messageId drawn
  | pubrec messageId => mqttMsgPubrec connection messageId drawn
  | pubrel messageId => mqttMsgPubrel connection messageId drawn
  | pubcomp messageId => mqttMsgPubcomp connection messageId drawn
  | subscribe topic qos => (mqttMsgSubscribe connection topic qos 0 drawn).1
  | unsubscribe topic => (mqttMsgUnsubscribe connection topic 0 drawn).1
  | pingreq => mqttMsgPingreq connection
  | pingresp => mqttMsgPingresp connection
  | disconnect => mqttMsgDisconnect connection

def header : MqttCall → UInt8
  | connect _ => fixedHeader MqttMessageType.connect.code 0 0 0
  | publish _ _ qos retain => fixedHeader MqttMessageType.publish.code 0 qos retain
  | puback _ => fixedHeader MqttMessageType.puback.code 0 0 0
  | pubrec _ => fixedHeader MqttMessageType.pubrec.code 0 0 0
  | pubrel _ => fixedHeader MqttMessageType.pubrel.code 0 1 0
  | pubcomp _ => fixedHeader MqttMessageType.pubcomp.code 0 0 0
  | subscribe _ _ => fixedHeader MqttMessageType.subscribe.code 0 1 0
  | unsubscribe _ => fixedHeader MqttMessageType.unsubscribe.code 0 1 0
  | pingreq => fixedHeader MqttMessageType.pingreq.code 0 0 0
  | pingresp => fixedHeader MqttMessageType.pingresp.code 0 0 0
  | disconnect => fixedHeader MqttMessageType.disconnect.code 0 0 0

def body (protocol311 : Bool) (drawn : DrawnId) : MqttCall → List UInt8
  | connect info => connectBody protocol311 info
  | publish topic data qos _ => publishBody topic data qos drawn
  | puback messageId | pubrec messageId | pubrel messageId | pubcomp messageId =>
      bigEndian (givenId messageId drawn).toNat
  | subscribe topic qos => bigEndian drawn.val.toNat ++ field topic ++ [UInt8.ofNat qos]
  | unsubscribe topic => bigEndian drawn.val.toNat ++ field topic
  | pingreq | pingresp | disconnect => []

def type : MqttCall → MqttMessageType
  | connect _ => .connect
  | publish _ _ _ _ => .publish
  | puback _ => .puback
  | pubrec _ => .pubrec
  | pubrel _ => .pubrel
  | pubcomp _ => .pubcomp
  | subscribe _ _ => .subscribe
  | unsubscribe _ => .unsubscribe
  | pingreq => .pingreq
  | pingresp => .pingresp
  | disconnect => .disconnect

def named : MqttCall → Bool
  | connect info => !info.clientId.isEmpty
  | publish topic _ _ _ | subscribe topic _ | unsubscribe topic => !topic.isEmpty
  | _ => true

end MqttCall

def Appends (last : MqttConnection capacity → Attempt capacity) (extra : List UInt8) : Prop :=
  ∀ connection body, Holds connection body →
    if 3 + (body ++ extra).length ≤ capacity then
      ∃ next, last connection = .ok next ∧ Holds next (body ++ extra)
    else ∃ next, last connection = .error next

theorem appendQos_appends (qos : Nat) :
    Appends (fun connection : MqttConnection capacity => appendQos connection qos)
      [UInt8.ofNat qos] := by
  intro connection body holds
  have length := holds.length
  split
  next room =>
    have fits : ¬ capacity < connection.message.length + 1 := by
      rw [List.length_append, List.length_singleton] at room
      omega
    exact ⟨_, if_neg fits, holds.put room⟩
  next full =>
    have more : capacity < connection.message.length + 1 := by
      rw [List.length_append, List.length_singleton] at full
      omega
    exact ⟨_, if_pos more⟩

theorem ok_appends : Appends (fun connection : MqttConnection capacity => .ok connection) [] := by
  intro connection body holds
  have length := holds.length
  have inside := holds.inside
  rw [List.append_nil, if_pos (length ▸ inside)]
  exact ⟨connection, rfl, holds⟩

theorem putPayload_sent {connection : MqttConnection capacity} {body data : List UInt8}
    (small : capacity ≤ 16386) (holds : Holds connection body) (qos retain : Nat) :
    (putPayload connection data qos retain).sent =
      if 3 + (body ++ data).length ≤ capacity then
        controlPacket (fixedHeader MqttMessageType.publish.code 0 qos retain) (body ++ data)
      else [] := by
  have length := holds.length
  rw [putPayload]
  split
  next full => rw [if_neg (by rw [List.length_append]; omega), failMessage_sent]
  next fits =>
    have enough : 3 + (body ++ data).length ≤ capacity := by
      rw [List.length_append]
      omega
    rw [if_pos enough]
    exact finiMessage_sent (holds.put enough) (by omega) .publish 0 qos retain

section Sent

variable (room : 3 ≤ capacity)

include room

theorem finiMessage_empty_sent (connection : MqttConnection capacity) (type : MqttMessageType) :
    (finiMessage (initMessage connection) type 0 0 0).sent =
      controlPacket (fixedHeader type.code 0 0 0) [] :=
  finiMessage_sent (holds_init connection room) (by decide) type 0 0 0

theorem mqttMsgAcknowledge_sent (type : MqttMessageType) (qos : Nat)
    (connection : MqttConnection capacity) (messageId : UInt16) (drawn : DrawnId) :
    (mqttMsgAcknowledge type qos connection messageId drawn).sent =
      if 3 + (bigEndian (givenId messageId drawn).toNat).length ≤ capacity then
        controlPacket (fixedHeader type.code 0 qos 0) (bigEndian (givenId messageId drawn).toNat)
      else [] := by
  have begun := holds_init connection room
  rw [mqttMsgAcknowledge]
  split
  next fits =>
    rw [appendMessageId_ok begun fits]
    exact finiMessage_sent (begun.put fits) (by simp) type 0 qos 0
  next full =>
    rw [appendMessageId_error begun full]
    exact failMessage_sent _

variable (small : capacity ≤ 16386)

include small

theorem mqttMsgPublish_sent (connection : MqttConnection capacity) {topic : List UInt8}
    (named : topic ≠ []) (data : List UInt8) (qos retain : Nat) (messageId : UInt16)
    (drawn : DrawnId) : (mqttMsgPublish connection topic data qos retain messageId drawn).1.sent =
      if 3 + (publishBody topic data qos drawn).length ≤ capacity then
        controlPacket (fixedHeader MqttMessageType.publish.code 0 qos retain)
          (publishBody topic data qos drawn)
      else [] := by
  have present : topic.isEmpty = false := by simpa using named
  have begun := holds_init connection room
  simp only [mqttMsgPublish, publishBody, present, Bool.false_eq_true, if_false]
  by_cases fits : 3 + ([] ++ field topic).length ≤ capacity
  next =>
    have headed := begun.put fits
    rw [appendString_ok begun fits]
    by_cases numbered : 0 < qos
    next =>
      simp only [numbered, if_true]
      by_cases more : 3 + ([] ++ field topic ++ bigEndian (givenId 0 drawn).toNat).length ≤ capacity
      next =>
        rw [appendMessageId_ok headed more]
        exact putPayload_sent small (headed.put more) qos retain
      next =>
        have full : ¬ 3 + (field topic ++ bigEndian drawn.val.toNat ++ data).length ≤ capacity := by
          simp only [List.nil_append, List.length_append, bigEndian_length] at more ⊢
          omega
        rw [appendMessageId_error headed more]
        exact (failMessage_sent _).trans (if_neg full).symm
    next =>
      simp only [numbered, if_false, List.append_nil]
      exact putPayload_sent small headed qos retain
  next =>
    have full : ¬ 3 + (field topic ++ (if 0 < qos then bigEndian drawn.val.toNat else []) ++
        data).length ≤ capacity := by
      simp only [List.nil_append, List.length_append] at fits ⊢
      omega
    rw [appendString_error begun fits]
    exact (failMessage_sent _).trans (if_neg full).symm

theorem mqttMsgTopic_sent (type : MqttMessageType)
    {last : MqttConnection capacity → Attempt capacity} {extra : List UInt8}
    (appends : Appends last extra) (connection : MqttConnection capacity) {topic : List UInt8}
    (named : topic ≠ [])
    (messageId : UInt16) (drawn : DrawnId) :
    (mqttMsgTopic type last connection topic messageId drawn).1.sent =
      let body := bigEndian drawn.val.toNat ++ field topic ++ extra
      if 3 + body.length ≤ capacity then controlPacket (fixedHeader type.code 0 1 0) body
      else [] := by
  have present : topic.isEmpty = false := by simpa using named
  have begun := holds_init connection room
  simp only [mqttMsgTopic, present, Bool.false_eq_true, if_false]
  by_cases fits : 3 + ([] ++ bigEndian (givenId 0 drawn).toNat).length ≤ capacity
  next =>
    have numbered := begun.put fits
    rw [appendMessageId_ok begun fits]
    by_cases more : 3 + ([] ++ bigEndian (givenId 0 drawn).toNat ++ field topic).length ≤ capacity
    next =>
      have whole := appends _ _ (numbered.put more)
      simp only [appendString_ok numbered more, bind, Except.bind]
      split at whole
      next enough =>
        obtain ⟨next, done, holds⟩ := whole
        have inside := holds.inside
        have length := holds.length
        simp only [done]
        exact (finiMessage_sent holds (by omega) type 0 1 0).trans (if_pos enough).symm
      next full =>
        obtain ⟨next, failed⟩ := whole
        simp only [failed]
        exact (failMessage_sent next).trans (if_neg full).symm
    next =>
      have full : ¬ 3 + (bigEndian drawn.val.toNat ++ field topic ++ extra).length ≤ capacity := by
        simp only [List.nil_append, List.length_append, bigEndian_length] at more ⊢
        omega
      simp only [appendString_error numbered more, bind, Except.bind]
      rw [if_neg full]
      exact failMessage_sent _
  next =>
    have full : ¬ 3 + (bigEndian drawn.val.toNat ++ field topic ++ extra).length ≤ capacity := by
      simp only [List.nil_append, List.length_append, bigEndian_length] at fits ⊢
      omega
    rw [appendMessageId_error begun fits, if_neg full]
    exact failMessage_sent _

theorem build_sent (protocol311 : Bool) (connection : MqttConnection capacity) (drawn : DrawnId)
    (call : MqttCall) : (call.build protocol311 connection drawn).sent =
      if call.named ∧ 3 + (call.body protocol311 drawn).length ≤ capacity then
        controlPacket call.header (call.body protocol311 drawn)
      else [] := by
  cases call with
  | connect info =>
    by_cases named : info.clientId = []
    next =>
      have unnamed : (MqttCall.connect info).named = false := by simp [MqttCall.named, named]
      obtain ⟨failed, done⟩ := mqttMsgConnect_unnamed protocol311 connection named
      simp only [unnamed, Bool.false_eq_true, false_and, if_false, MqttCall.build, done,
        failMessage_sent]
    next =>
      have present : (MqttCall.connect info).named = true := by simp [MqttCall.named, named]
      simp only [present, true_and]
      exact mqttMsgConnect_sent connection named small
  | publish topic data qos retain =>
    by_cases named : topic = []
    next =>
      simp [named, MqttCall.named, MqttCall.build, mqttMsgPublish, failMessage_sent]
    next =>
      have present : (MqttCall.publish topic data qos retain).named = true := by
        simp [MqttCall.named, named]
      simp only [present, true_and]
      exact mqttMsgPublish_sent room small connection named data qos retain 0 drawn
  | subscribe topic qos =>
    by_cases named : topic = []
    next =>
      simp [named, MqttCall.named, MqttCall.build, mqttMsgSubscribe, mqttMsgTopic, failMessage_sent]
    next =>
      have present : (MqttCall.subscribe topic qos).named = true := by simp [MqttCall.named, named]
      simp only [present, true_and]
      exact mqttMsgTopic_sent room small .subscribe (appendQos_appends qos) connection named 0 drawn
  | unsubscribe topic =>
    by_cases named : topic = []
    next =>
      simp [named, MqttCall.named, MqttCall.build, mqttMsgUnsubscribe, mqttMsgTopic,
        failMessage_sent]
    next =>
      have present : (MqttCall.unsubscribe topic).named = true := by simp [MqttCall.named, named]
      have sent := mqttMsgTopic_sent room small .unsubscribe ok_appends connection named 0 drawn
      rw [List.append_nil] at sent
      simp only [present, true_and]
      exact sent
  | puback messageId =>
    simp only [MqttCall.named, true_and]
    exact mqttMsgAcknowledge_sent room .puback 0 connection messageId drawn
  | pubrec messageId =>
    simp only [MqttCall.named, true_and]
    exact mqttMsgAcknowledge_sent room .pubrec 0 connection messageId drawn
  | pubrel messageId =>
    simp only [MqttCall.named, true_and]
    exact mqttMsgAcknowledge_sent room .pubrel 1 connection messageId drawn
  | pubcomp messageId =>
    simp only [MqttCall.named, true_and]
    exact mqttMsgAcknowledge_sent room .pubcomp 0 connection messageId drawn
  | pingreq =>
    have enough : 3 + ([] : List UInt8).length ≤ capacity := room
    simp only [MqttCall.named, MqttCall.body, true_and, enough, if_true]
    exact finiMessage_empty_sent room connection .pingreq
  | pingresp =>
    have enough : 3 + ([] : List UInt8).length ≤ capacity := room
    simp only [MqttCall.named, MqttCall.body, true_and, enough, if_true]
    exact finiMessage_empty_sent room connection .pingresp
  | disconnect =>
    have enough : 3 + ([] : List UInt8).length ≤ capacity := room
    simp only [MqttCall.named, MqttCall.body, true_and, enough, if_true]
    exact finiMessage_empty_sent room connection .disconnect

-- The type is told by the first byte, and there is none in a message that failed.
theorem build_type (connection : MqttConnection capacity) (drawn : DrawnId) (call : MqttCall) :
    (call.build true connection drawn).sent = [] ∨
      mqttGetType (call.build true connection drawn).sent = call.type.code := by
  rw [build_sent room small]
  split
  next =>
    right
    cases call <;> exact (fixedHeader_fields _ _ _ _ _).1
  next => exact .inl rfl

end Sent

end EspMqtt
