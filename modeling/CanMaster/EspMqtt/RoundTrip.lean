import CanMaster.EspMqtt.Sent

set_option autoImplicit false

namespace EspMqtt

open ByteFields

variable {capacity : Nat}

theorem fixedHeader_retain (type dup qos retain : Nat) :
    fixedHeader type dup qos (retain % 2) = fixedHeader type dup qos retain := by
  have last (n : Nat) : n &&& 1 = n % 2 := Nat.and_two_pow_sub_one_eq_mod n 1
  simp only [fixedHeader, last, Nat.mod_mod]

def publication (topic data : List UInt8) (qos : Fin 4) (retain : Nat) (drawn : DrawnId)
    (topicSmall : topic.length < 65536) : Publication where
  dup := 0
  qos := qos
  retain := ⟨retain % 2, Nat.mod_lt _ (by decide)⟩
  topic := topic
  id := drawn.val
  payload := data
  topicSmall := topicSmall

theorem publication_bytes (topic data : List UInt8) (qos : Fin 4) (retain : Nat)
    (drawn : DrawnId) (topicSmall : topic.length < 65536) :
    (publication topic data qos retain drawn topicSmall).bytes =
      controlPacket (fixedHeader MqttMessageType.publish.code 0 qos retain)
        (publishBody topic data qos drawn) := by
  have level : (0 < qos) = (0 < (qos : Nat)) := rfl
  simp only [Publication.bytes, Publication.header, Publication.body, Publication.idBytes,
    publication, level, fixedHeader_retain]
  rfl

theorem appendMessageId_id {connection next : MqttConnection capacity} {messageId id : UInt16}
    {drawn : DrawnId} (appended : appendMessageId connection messageId drawn = .ok (next, id)) :
    id = givenId messageId drawn := by
  simp only [appendMessageId] at appended
  split at appended
  next => cases appended
  next =>
    cases appended
    rfl

theorem mqttMsgPublish_id {connection : MqttConnection capacity} {topic data : List UInt8}
    {qos retain : Nat} {messageId : UInt16} {drawn : DrawnId}
    (sent : (mqttMsgPublish connection topic data qos retain messageId drawn).1.sent ≠ []) :
    (mqttMsgPublish connection topic data qos retain messageId drawn).2 =
      if 0 < qos then drawn.val else 0 := by
  simp only [mqttMsgPublish] at sent ⊢
  split
  next unnamed =>
    rw [if_pos unnamed] at sent
    exact absurd (failMessage_sent _) sent
  next present =>
    rw [if_neg present] at sent
    cases headed : appendString (initMessage connection) topic with
    | error unheaded =>
      rw [headed] at sent
      exact absurd (failMessage_sent _) sent
    | ok named =>
      rw [headed] at sent
      by_cases level : 0 < qos
      next =>
        simp only [level, if_true] at sent ⊢
        cases appended : appendMessageId named 0 drawn with
        | error unnumbered =>
          rw [appended] at sent
          exact absurd (failMessage_sent _) sent
        | ok numbered => exact appendMessageId_id appended
      next => simp only [level, if_false]

structure ReadsPublish (memory topic data : List UInt8) (qos retain : Nat) (id : UInt16) :
    Prop where
  type : mqttGetType memory = MqttMessageType.publish.code
  dup : mqttGetDup memory = 0
  qos : mqttGetQos memory = qos
  retain : mqttGetRetain memory = retain % 2
  topic : ∃ place, mqttGetPublishTopic memory memory.length = some (place, topic.length) ∧
    (memory.drop place).take topic.length = topic
  data : ∃ place, mqttGetPublishData memory memory.length = (some place, data.length) ∧
    (memory.drop place).take data.length = data
  id : mqttGetId memory memory.length = id

theorem Publication.reads (p : Publication) (behind : List UInt8)
    (more : p.payload ≠ [] ∨ behind ≠ []) (short : (p.bytes ++ behind).length < 65536)
    (fresh : p.dup = 0) :
    ReadsPublish (p.bytes ++ behind) p.topic p.payload p.qos p.retain
      (if 0 < p.qos then p.id else 0) := by
  have memory : p.bytes ++ behind = p.head ++ (p.payload ++ behind) := by
    rw [p.bytes_eq, List.append_assoc]
  have long : p.head.length < (p.bytes ++ behind).length := by
    have positive : 0 < (p.payload ++ behind).length := by
      rw [List.length_pos_iff, ne_eq, List.append_eq_nil_iff]
      tauto
    rw [memory, List.length_append]
    omega
  have whole : min p.bytes.length (p.bytes ++ behind).length - p.head.length =
      p.payload.length := by
    rw [List.length_append, p.bytes_length]
    omega
  obtain ⟨type, dup, qos, retain⟩ := fixedHeader_fields MqttMessageType.publish.code p.dup p.qos
    p.retain (lengthBytes p.body.length ++ p.body ++ behind)
  rw [Nat.mod_eq_of_lt p.qos.isLt] at qos
  constructor
  next => exact type
  next =>
    rw [Nat.mod_eq_of_lt p.dup.isLt] at dup
    exact dup.trans (congrArg Fin.val fresh)
  next => exact qos
  next => exact retain
  next =>
    refine ⟨p.topicStart, ?_, ?_⟩
    · have named : ¬ (p.bytes ++ behind).length ≤ p.topicStart := by
        have := p.topicStart_le
        omega
      rw [memory] at long named ⊢
      rw [p.getPublishTopic _ (Nat.le_of_lt long), if_neg named]
    · rw [memory]
      exact p.head_topic _
  next =>
    refine ⟨p.head.length, ?_, ?_⟩
    · rw [← whole]
      rw [memory] at long ⊢
      rw [p.getPublishData _ (Nat.le_of_lt long), if_pos long]
    · rw [memory, List.drop_left' rfl, List.take_left' rfl]
  next =>
    rw [memory] at long short ⊢
    exact p.getId _ long short

/-- A PUBLISH that is handed to the transport is read back as it was asked for. Where it has no
payload and nothing lies behind it, the readers take it for one that is cut off. -/
theorem mqttMsgPublish_roundTrip (room : 3 ≤ capacity) (small : capacity ≤ 16386)
    (connection : MqttConnection capacity) (topic data : List UInt8) {qos : Nat} (level : qos < 4)
    (retain : Nat) (messageId : UInt16) (drawn : DrawnId) (behind : List UInt8)
    (more : data ≠ [] ∨ behind ≠ []) :
    let built := mqttMsgPublish connection topic data qos retain messageId drawn
    built.1.sent ≠ [] → (built.1.sent ++ behind).length < 65536 →
      ReadsPublish (built.1.sent ++ behind) topic data qos retain built.2 := by
  intro built sent short
  have named : topic ≠ [] := by
    rintro rfl
    exact sent (failMessage_sent _)
  have whole : built.1.sent = _ :=
    mqttMsgPublish_sent room small connection named data qos retain messageId drawn
  split at whole
  next fits =>
    have topicSmall : topic.length < 65536 := by
      simp only [publishBody, List.length_append, field_length] at fits
      omega
    have bytes := publication_bytes topic data ⟨qos, level⟩ retain drawn topicSmall
    have reads := (publication topic data ⟨qos, level⟩ retain drawn topicSmall).reads behind more
    rw [bytes, ← whole] at reads
    replace reads := reads short rfl
    have id := mqttMsgPublish_id sent
    constructor
    next => exact reads.type
    next => exact reads.dup
    next => exact reads.qos
    next => exact reads.retain.trans (Nat.mod_mod retain 2)
    next => exact reads.topic
    next => exact reads.data
    next => exact reads.id.trans id.symm
  next => exact absurd whole sent

theorem publish_readBack : ReadsPublish
    ((mqttMsgPublish (mqttMsgInit (.blank : Buffer 1024)) [114] [123, 125] 2 1 0
      drawnId).1.sent ++ [0xc0, 0]) [114] [123, 125] 2 1 9 :=
  mqttMsgPublish_roundTrip (by decide) (by decide) _ _ _ (by decide) _ _ _ _ (.inl (by decide))
    (by decide +kernel) (by decide +kernel)

theorem mqttMsgAcknowledge_roundTrip (room : 5 ≤ capacity) (connection : MqttConnection capacity)
    {type : MqttMessageType} (known : hasAcknowledgedId type.code = true) (qos : Nat)
    {messageId : UInt16} (given : messageId ≠ 0) (drawn : DrawnId) (behind : List UInt8) :
    let memory := (mqttMsgAcknowledge type qos connection messageId drawn).sent ++ behind
    memory.length < 65536 → mqttGetType memory = type.code ∧ mqttGetQos memory = qos % 4 ∧
      mqttGetId memory memory.length = messageId := by
  have same : givenId messageId drawn = messageId := if_neg given
  have fits : 3 + (bigEndian (givenId messageId drawn).toNat).length ≤ capacity := room
  have sent := mqttMsgAcknowledge_sent (by omega) type qos connection messageId drawn
  rw [if_pos fits, same] at sent
  have small : lengthBytes (bigEndian messageId.toNat).length = [2] := by
    rw [bigEndian_length, lengthBytes, if_pos (by decide)]
    rfl
  intro memory short
  have content : memory =
      [fixedHeader type.code 0 qos 0, 2] ++ (bigEndian messageId.toNat ++ behind) := by
    simp only [memory, sent, controlPacket, small, List.cons_append, List.nil_append]
  obtain ⟨kind, -, level, -⟩ :=
    fixedHeader_fields type.code 0 qos 0 (2 :: (bigEndian messageId.toNat ++ behind))
  have sixteen : type.code % 16 = type.code := by cases type <;> rfl
  have isType : mqttGetType memory = type.code := by
    rw [content]
    exact kind.trans sixteen
  have foreign : type.code ≠ MqttMessageType.publish.code := by
    rintro publish
    rw [publish] at known
    cases known
  have value := bigEndian_at [fixedHeader type.code 0 qos 0, 2] behind messageId.toNat_lt
  have long : 4 ≤ memory.length := by
    rw [content]
    simp
  have unmarked : marked 2 = false := by decide
  refine ⟨isType, by rw [content]; exact level, ?_⟩
  simp only [mqttGetId, Nat.mod_eq_of_lt short]
  rw [if_neg (by omega), isType, if_neg foreign, if_pos known, acknowledgedId,
    if_pos ⟨long, by rw [content]; exact unmarked⟩, messageIdAt, content]
  exact (congrArg UInt16.ofNat value).trans UInt16.ofNat_toNat

theorem pubrel_readBack :
    let memory := (mqttMsgPubrel (mqttMsgInit (.blank : Buffer 1024)) 515 drawnId).sent ++
      [0xc0, 0]
    mqttGetType memory = MqttMessageType.pubrel.code ∧ mqttGetQos memory = 1 ∧
      mqttGetId memory memory.length = 515 :=
  mqttMsgAcknowledge_roundTrip (by decide) _ (by decide) _ (by decide) _ _ (by decide +kernel)

structure ConnectRequest where
  name : List UInt8
  level : UInt8
  cleanSession : Bool
  keepalive : Nat
  clientId : List UInt8
  will : Option (List UInt8 × List UInt8)
  willQos : Nat
  willRetain : Bool
  username : Option (List UInt8)
  password : Option (List UInt8)

def flagSet (flags : UInt8) (flag : Nat) : Bool := flags.toNat &&& flag ≠ 0

def takeOption (present : Bool) (rest : List UInt8) : Option (Option (List UInt8) × List UInt8) :=
  if present then (takeField rest).map fun (string, behind) => (some string, behind)
  else some (none, rest)

def takeWill (present : Bool) (rest : List UInt8) :
    Option (Option (List UInt8 × List UInt8) × List UInt8) :=
  if present then do
    let (topic, rest) ← takeField rest
    let (message, rest) ← takeField rest
    return (some (topic, message), rest)
  else some (none, rest)

-- What is behind the last field is not allowed.
def readConnect (body : List UInt8) : Option ConnectRequest := do
  let (name, rest) ← takeField body
  match rest with
  | level :: flags :: high :: low :: payload =>
      let (clientId, rest) ← takeField payload
      let (will, rest) ← takeWill (flagSet flags connectFlagWill) rest
      let (username, rest) ← takeOption (flagSet flags connectFlagUsername) rest
      let (password, rest) ← takeOption (flagSet flags connectFlagPassword) rest
      if rest = [] then
        return ⟨name, level, flagSet flags connectFlagCleanSession, readBigEndian high low,
          clientId, will, (flags.toNat >>> 3) &&& 3, flagSet flags connectFlagWillRetain, username,
          password⟩
      else none
  | _ => none

def readPacket : List UInt8 → Option (UInt8 × List UInt8)
  | [] => none
  | header :: rest =>
      (readLength rest).bind fun (length, k) =>
        if (rest.drop k).length = length then some (header, rest.drop k) else none

theorem readPacket_controlPacket (header : UInt8) (body : List UInt8) :
    readPacket (controlPacket header body) = some (header, body) := by
  simp [readPacket, controlPacket, readLength_lengthBytes]

def given (string : List UInt8) : Option (List UInt8) :=
  if string.isEmpty then none else some string

def MqttConnectInfo.request (info : MqttConnectInfo) : ConnectRequest where
  name := [77, 81, 84, 84]
  level := 4
  cleanSession := info.cleanSession
  keepalive := info.keepalive % 65536
  clientId := info.clientId
  will := (given info.willTopic).map fun topic => (topic, info.willMessage)
  willQos := if info.willTopic.isEmpty then 0 else info.willQos % 4
  willRetain := !info.willTopic.isEmpty && info.willRetain
  username := given info.username
  password := given info.password

theorem connectFlags_read (info : MqttConnectInfo) :
    flagSet (connectFlags info) connectFlagCleanSession = info.cleanSession ∧
      flagSet (connectFlags info) connectFlagWill = !info.willTopic.isEmpty ∧
      ((connectFlags info).toNat >>> 3) &&& 3 =
        (if info.willTopic.isEmpty then 0 else info.willQos % 4) ∧
      flagSet (connectFlags info) connectFlagWillRetain =
        (!info.willTopic.isEmpty && info.willRetain) ∧
      flagSet (connectFlags info) connectFlagUsername = !info.username.isEmpty ∧
      flagSet (connectFlags info) connectFlagPassword = !info.password.isEmpty := by
  have level : info.willQos &&& 3 = info.willQos % 4 :=
    Nat.and_two_pow_sub_one_eq_mod info.willQos 2
  have every : ∀ (clean topic retain user secret : Bool) (qos : Fin 4),
      let cleaned : UInt8 := if clean then 0 ||| UInt8.ofNat connectFlagCleanSession else 0
      let willed := cleaned ||| UInt8.ofNat connectFlagWill
      let retained := if retain then willed ||| UInt8.ofNat connectFlagWillRetain else willed
      let named := if topic then cleaned else retained ||| UInt8.ofNat ((qos : Nat) <<< 3)
      let known := if user then named else named ||| UInt8.ofNat connectFlagUsername
      let flags := if secret then known else known ||| UInt8.ofNat connectFlagPassword
      flagSet flags connectFlagCleanSession = clean ∧
        flagSet flags connectFlagWill = !topic ∧
        (flags.toNat >>> 3) &&& 3 = (if topic then 0 else (qos : Nat)) ∧
        flagSet flags connectFlagWillRetain = (!topic && retain) ∧
        flagSet flags connectFlagUsername = !user ∧
        flagSet flags connectFlagPassword = !secret := by
    decide +kernel
  have here := every info.cleanSession info.willTopic.isEmpty info.willRetain
    info.username.isEmpty info.password.isEmpty ⟨info.willQos % 4, Nat.mod_lt _ (by decide)⟩
  simp only [connectFlags, optionFlag, willFlags, level]
  exact here

theorem takeOption_optionField {string : List UInt8} (small : string.length < 65536)
    (rest : List UInt8) :
    takeOption (!string.isEmpty) (optionField string ++ rest) = some (given string, rest) := by
  cases absent : string.isEmpty with
  | true => simp [takeOption, optionField, given, absent]
  | false => simp [takeOption, optionField, given, absent, takeField_field small]

theorem takeWill_willFields {info : MqttConnectInfo} (topicSmall : info.willTopic.length < 65536)
    (messageSmall : info.willTopic ≠ [] → info.willMessage.length < 65536) (rest : List UInt8) :
    takeWill (!info.willTopic.isEmpty) (willFields info ++ rest) =
      some ((given info.willTopic).map fun topic => (topic, info.willMessage), rest) := by
  cases absent : info.willTopic.isEmpty with
  | true => simp [takeWill, willFields, given, absent]
  | false =>
    have willing : info.willTopic ≠ [] := by simpa using absent
    simp [takeWill, willFields, given, absent, takeField_field topicSmall,
      takeField_field (messageSmall willing)]

structure ConnectSmall (info : MqttConnectInfo) : Prop where
  clientId : info.clientId.length < 65536
  willTopic : info.willTopic.length < 65536
  willMessage : info.willTopic ≠ [] → info.willMessage.length < 65536
  username : info.username.length < 65536
  password : info.password.length < 65536

theorem optionField_length (string : List UInt8) : string.length ≤ (optionField string).length := by
  rw [optionField]
  split
  next absent =>
    rw [List.isEmpty_iff] at absent
    simp [absent]
  next => simp

theorem connectSmall {info : MqttConnectInfo} {protocol311 : Bool}
    (short : (connectBody protocol311 info).length < 65536) : ConnectSmall info := by
  have user := optionField_length info.username
  have secret := optionField_length info.password
  simp only [connectBody, connectTail, connectPayload, List.length_append, List.length_cons,
    field_length] at short
  constructor
  next => omega
  next =>
    simp only [willFields] at short
    split at short
    next absent =>
      rw [List.isEmpty_iff] at absent
      simp [absent]
    next =>
      simp only [List.length_append, field_length] at short
      omega
  next =>
    intro willing
    have present : info.willTopic.isEmpty = false := by simpa using willing
    simp only [willFields, present, Bool.false_eq_true, if_false, List.length_append,
      field_length] at short
    omega
  next => omega
  next => omega

theorem readBigEndian_keepalive (n : Nat) :
    readBigEndian (UInt8.ofNat (n / 256)) (UInt8.ofNat n) = n % 65536 := by
  rw [readBigEndian_eq, UInt8.toNat_ofNat', UInt8.toNat_ofNat']
  omega

theorem readConnect_connectBody {info : MqttConnectInfo}
    (short : (connectBody true info).length < 65536) :
    readConnect (connectBody true info) = some info.request := by
  obtain ⟨clean, will, qos, retain, user, secret⟩ := connectFlags_read info
  obtain ⟨clientId, willTopic, willMessage, username, password⟩ := connectSmall short
  have named : connectBody true info = field [77, 81, 84, 84] ++ (4 :: connectFlags info ::
      UInt8.ofNat (info.keepalive / 256) :: UInt8.ofNat info.keepalive :: connectPayload info) :=
    rfl
  have last := takeOption_optionField password []
  rw [List.append_nil] at last
  rw [readConnect, named, takeField_field (by decide)]
  simp only [bind, Option.bind, connectPayload, takeField_field clientId, will,
    takeWill_willFields willTopic willMessage, user, takeOption_optionField username, secret, last,
    if_true, clean, qos, retain, readBigEndian_keepalive]
  rfl

def fullInfo : MqttConnectInfo where
  clientId := [69]
  username := [117]
  password := [112]
  willTopic := [119]
  willMessage := []
  keepalive := 120
  willQos := 1
  willRetain := true
  cleanSession := true

end EspMqtt
