import CanMaster.EspMqtt.Building

set_option autoImplicit false

namespace EspMqtt

open ByteFields

variable {capacity : Nat}

def connectName (protocol311 : Bool) : List UInt8 :=
  if protocol311 then [0, 4, 77, 81, 84, 84, 4] else [0, 6, 77, 81, 73, 115, 3]

theorem connectName_length (protocol311 : Bool) : (connectName protocol311).length = 7 := by
  cases protocol311 <;> rfl

def willFlags (info : MqttConnectInfo) (flags : UInt8) : UInt8 :=
  if info.willTopic.isEmpty then flags
  else
    let willed := flags ||| UInt8.ofNat connectFlagWill
    let retained := if info.willRetain then willed ||| UInt8.ofNat connectFlagWillRetain else willed
    retained ||| UInt8.ofNat ((info.willQos &&& 3) <<< 3)

def optionFlag (string : List UInt8) (flag : Nat) (flags : UInt8) : UInt8 :=
  if string.isEmpty then flags else flags ||| UInt8.ofNat flag

def connectFlags (info : MqttConnectInfo) : UInt8 :=
  let cleaned : UInt8 :=
    if info.cleanSession then 0 ||| UInt8.ofNat connectFlagCleanSession else 0
  optionFlag info.password connectFlagPassword
    (optionFlag info.username connectFlagUsername (willFlags info cleaned))

def willFields (info : MqttConnectInfo) : List UInt8 :=
  if info.willTopic.isEmpty then [] else field info.willTopic ++ field info.willMessage

def optionField (string : List UInt8) : List UInt8 :=
  if string.isEmpty then [] else field string

def connectPayload (info : MqttConnectInfo) : List UInt8 :=
  field info.clientId ++ (willFields info ++
    (optionField info.username ++ optionField info.password))

def connectTail (info : MqttConnectInfo) : List UInt8 :=
  bigEndian info.keepalive ++ connectPayload info

def connectBody (protocol311 : Bool) (info : MqttConnectInfo) : List UInt8 :=
  connectName protocol311 ++ connectFlags info :: connectTail info

-- What a part does to a message with these flags: it appends its bytes and sets its flags, or it
-- fails because the bytes do not fit.
def Extends (protocol311 : Bool)
    (part : MqttConnection capacity → Attempt capacity) (set : UInt8 → UInt8)
    (extra : List UInt8) : Prop :=
  ∀ connection flags tail, Holds connection (connectName protocol311 ++ flags :: tail) →
    if 11 + (tail ++ extra).length ≤ capacity then
      ∃ next, part connection = .ok next ∧
        Holds next (connectName protocol311 ++ set flags :: (tail ++ extra))
    else ∃ next, part connection = .error next

variable {protocol311 : Bool}

theorem Extends.andThen {first second : MqttConnection capacity → Attempt capacity}
    {set after : UInt8 → UInt8} {extra more : List UInt8}
    (one : Extends protocol311 first set extra) (other : Extends protocol311 second after more) :
    Extends protocol311 (fun connection => first connection >>= second) (after ∘ set)
      (extra ++ more) := by
  intro connection flags tail holds
  have begins := one connection flags tail holds
  split at begins
  next room =>
    obtain ⟨next, done, held⟩ := begins
    have ends := other next _ _ held
    simp only [done, bind, Except.bind]
    rwa [List.append_assoc] at ends
  next full =>
    obtain ⟨next, failed⟩ := begins
    have fuller : ¬ 11 + (tail ++ (extra ++ more)).length ≤ capacity := by
      simp only [List.length_append] at full ⊢
      omega
    rw [if_neg fuller]
    exact ⟨next, by simp [failed, bind, Except.bind]⟩

theorem appendString_extends (string : List UInt8) :
    Extends protocol311 (fun connection : MqttConnection capacity => appendString connection string)
      id (field string) := by
  intro connection flags tail holds
  have size : 3 + (connectName protocol311 ++ flags :: tail ++ field string).length =
      11 + (tail ++ field string).length := by
    simp only [List.length_append, List.length_cons, connectName_length]
    omega
  split
  next room =>
    rw [← size] at room
    exact ⟨_, appendString_ok holds room, by simpa using holds.put room⟩
  next full =>
    rw [← size] at full
    exact ⟨_, appendString_error holds full⟩

theorem orFlags_holds {connection : MqttConnection capacity} {flags : UInt8} {tail : List UInt8}
    (holds : Holds connection (connectName protocol311 ++ flags :: tail)) (set : Nat) :
    Holds (connection.orFlags set)
      (connectName protocol311 ++ (flags ||| UInt8.ofNat set) :: tail) := by
  obtain ⟨length, inside, content⟩ := holds
  have seven := connectName_length protocol311
  simp only [List.length_append, List.length_cons, seven] at length
  have there : connection.buffer.get 10 = flags := by
    have here := Buffer.get_of_slice content
    rwa [seven] at here
  have before : connection.buffer.slice 3 10 = connectName protocol311 := by
    have parts := Buffer.slice_append connection.buffer (by decide : 3 ≤ 10)
      (by omega : 10 ≤ connection.message.length)
    have long : (connection.buffer.slice 3 10).length = 7 := Buffer.slice_length (by omega)
    rw [content] at parts
    exact (List.append_inj parts (by rw [long, seven])).1
  have after : connection.buffer.slice 11 connection.message.length = tail := by
    have parts := Buffer.slice_append connection.buffer (by decide : 3 ≤ 11)
      (by omega : 11 ≤ connection.message.length)
    have long : (connection.buffer.slice 3 11).length = 8 := Buffer.slice_length (by omega)
    rw [content, ← List.singleton_append, ← List.append_assoc] at parts
    exact (List.append_inj parts (by simp [long, seven])).2
  have fits : 10 + [flags ||| UInt8.ofNat set].length ≤ capacity := by
    simp only [List.length_singleton]
    omega
  refine ⟨by simpa [MqttConnection.orFlags, seven] using length, inside, ?_⟩
  simp only [MqttConnection.orFlags, there]
  rw [← Buffer.slice_append _ (by decide : 3 ≤ 10) (by omega), Buffer.slice_write_before (by omega),
    before, Buffer.slice_write_front fits (by simp; omega)]
  exact congrArg _ (congrArg _ after)

theorem flags_extends {mark : MqttConnection capacity → MqttConnection capacity}
    {set : UInt8 → UInt8}
    (marks : ∀ connection flags tail, Holds connection (connectName protocol311 ++ flags :: tail) →
      Holds (mark connection) (connectName protocol311 ++ set flags :: tail)) :
    Extends protocol311 (fun connection => .ok (mark connection)) set [] := by
  intro connection flags tail holds
  have inside := holds.inside
  have length := holds.length
  simp only [List.length_append, List.length_cons, connectName_length] at length
  rw [List.append_nil, if_pos (by omega)]
  exact ⟨_, rfl, marks connection flags tail holds⟩

theorem skip_extends :
    Extends protocol311 (fun connection : MqttConnection capacity => .ok connection) id [] :=
  flags_extends fun _ _ _ holds => holds

theorem appendWill_extends (info : MqttConnectInfo) :
    Extends protocol311 (fun connection : MqttConnection capacity => appendWill connection info)
      (willFlags info) (willFields info) := by
  by_cases absent : info.willTopic.isEmpty = true
  next =>
    have same : willFlags info = id := funext fun flags => by simp [willFlags, absent]
    simp only [appendWill, absent, if_true, willFields, same]
    exact skip_extends
  next =>
    have marks (connection : MqttConnection capacity) (flags : UInt8) (tail : List UInt8)
        (holds : Holds connection (connectName protocol311 ++ flags :: tail)) :
        Holds ((if info.willRetain then
            (connection.orFlags connectFlagWill).orFlags connectFlagWillRetain
          else connection.orFlags connectFlagWill).orFlags ((info.willQos &&& 3) <<< 3))
          (connectName protocol311 ++ willFlags info flags :: tail) := by
      have willed := orFlags_holds holds connectFlagWill
      simp only [willFlags, absent]
      cases info.willRetain with
      | false => exact orFlags_holds willed _
      | true => exact orFlags_holds (orFlags_holds willed connectFlagWillRetain) _
    have parts := (appendString_extends info.willTopic).andThen
      ((appendString_extends info.willMessage).andThen (flags_extends marks))
    rw [List.append_nil] at parts
    simp only [appendWill, absent, Bool.false_eq_true, if_false, willFields]
    exact parts

theorem appendOption_extends (string : List UInt8) (flag : Nat) :
    Extends protocol311
      (fun connection : MqttConnection capacity => appendOption connection string flag)
      (optionFlag string flag) (optionField string) := by
  by_cases absent : string.isEmpty = true
  next =>
    have same : optionFlag string flag = id := funext fun flags => by simp [optionFlag, absent]
    simp only [appendOption, absent, if_true, optionField, same]
    exact skip_extends
  next =>
    have marks (connection : MqttConnection capacity) (flags : UInt8) (tail : List UInt8)
        (holds : Holds connection (connectName protocol311 ++ flags :: tail)) :
        Holds (connection.orFlags flag)
          (connectName protocol311 ++ optionFlag string flag flags :: tail) := by
      simp only [optionFlag, absent]
      exact orFlags_holds holds flag
    have parts := (appendString_extends string).andThen (flags_extends marks)
    rw [List.append_nil] at parts
    simp only [appendOption, absent, Bool.false_eq_true, if_false, optionField]
    exact parts

theorem appendConnectPayload_extends {info : MqttConnectInfo} (named : info.clientId ≠ []) :
    Extends protocol311
      (fun connection : MqttConnection capacity => appendConnectPayload connection info)
      (optionFlag info.password connectFlagPassword ∘
        optionFlag info.username connectFlagUsername ∘ willFlags info)
      (connectPayload info) := by
  have present : info.clientId.isEmpty = false := by simpa using named
  simp only [appendConnectPayload, appendClientId, present, Bool.false_eq_true, if_false]
  exact (appendString_extends info.clientId).andThen ((appendWill_extends info).andThen
    ((appendOption_extends info.username connectFlagUsername).andThen
      (appendOption_extends info.password connectFlagPassword)))

theorem connect_headed (protocol311 : Bool) (connection : MqttConnection capacity)
    (info : MqttConnectInfo) (room : 13 ≤ capacity) :
    Holds ((initMessage connection).put (connectVariableHeader protocol311 info.keepalive))
      (connectName protocol311 ++ 0 :: bigEndian info.keepalive) := by
  have same : connectVariableHeader protocol311 info.keepalive =
      connectName protocol311 ++ 0 :: bigEndian info.keepalive := rfl
  have size : (connectVariableHeader protocol311 info.keepalive).length = 10 := by
    simp [same, connectName_length]
  have begun := holds_init connection (by omega : 3 ≤ capacity)
  rw [← same]
  exact begun.put (by rw [List.nil_append, size]; exact room)

theorem connect_cleaned (protocol311 : Bool) (connection : MqttConnection capacity)
    (info : MqttConnectInfo) (room : 13 ≤ capacity) :
    let begun := (initMessage connection).put (connectVariableHeader protocol311 info.keepalive)
    Holds (if info.cleanSession then begun.orFlags connectFlagCleanSession else begun)
      (connectName protocol311 ++
        (if info.cleanSession then 0 ||| UInt8.ofNat connectFlagCleanSession else 0) ::
          bigEndian info.keepalive) := by
  have headed := connect_headed protocol311 connection info room
  cases info.cleanSession with
  | false => exact headed
  | true => exact orFlags_holds headed _

theorem mqttMsgConnect_spec (protocol311 : Bool) (connection : MqttConnection capacity)
    {info : MqttConnectInfo} (named : info.clientId ≠ []) :
    if 3 + (connectBody protocol311 info).length ≤ capacity then
      ∃ whole, mqttMsgConnect protocol311 connection info = finiMessage whole .connect 0 0 0 ∧
        Holds whole (connectBody protocol311 info)
    else ∃ failed, mqttMsgConnect protocol311 connection info = failMessage failed := by
  have size : 3 + (connectBody protocol311 info).length = 11 + (connectTail info).length := by
    simp only [connectBody, List.length_append, List.length_cons, connectName_length]
    omega
  have limit : (initMessage connection).message.length + connectVariableHeaderSize = 13 := rfl
  by_cases tiny : capacity < 13
  next =>
    have full : ¬ 3 + (connectBody protocol311 info).length ≤ capacity := by
      rw [size, connectTail, List.length_append, bigEndian_length]
      omega
    rw [if_neg full, mqttMsgConnect, if_pos (limit ▸ tiny)]
    exact ⟨_, rfl⟩
  next =>
    have parts := appendConnectPayload_extends named _ _ _
      (connect_cleaned protocol311 connection info (Nat.le_of_not_lt tiny))
    rw [size, connectTail]
    split at parts
    next room =>
      obtain ⟨whole, done, full⟩ := parts
      rw [if_pos room, mqttMsgConnect, if_neg (limit ▸ tiny)]
      simp only [done]
      exact ⟨whole, rfl, full⟩
    next full =>
      obtain ⟨failed, done⟩ := parts
      rw [if_neg full, mqttMsgConnect, if_neg (limit ▸ tiny)]
      simp only [done]
      exact ⟨failed, rfl⟩

theorem mqttMsgConnect_unnamed (protocol311 : Bool) (connection : MqttConnection capacity)
    {info : MqttConnectInfo} (unnamed : info.clientId = []) :
    ∃ failed, mqttMsgConnect protocol311 connection info = failMessage failed := by
  rw [mqttMsgConnect]
  split
  next => exact ⟨_, rfl⟩
  next =>
    simp only [appendConnectPayload, appendClientId, unnamed]
    exact ⟨_, rfl⟩

theorem mqttMsgConnect_sent (connection : MqttConnection capacity) {info : MqttConnectInfo}
    (named : info.clientId ≠ []) (small : capacity ≤ 16386) :
    (mqttMsgConnect protocol311 connection info).sent =
      if 3 + (connectBody protocol311 info).length ≤ capacity then
        controlPacket (fixedHeader MqttMessageType.connect.code 0 0 0)
          (connectBody protocol311 info)
      else [] := by
  have built := mqttMsgConnect_spec protocol311 connection named
  split at built
  next room =>
    obtain ⟨whole, done, holds⟩ := built
    rw [done, if_pos room]
    exact finiMessage_sent holds (by omega) .connect 0 0 0
  next full =>
    obtain ⟨failed, done⟩ := built
    rw [done, if_neg full, failMessage_sent]

theorem mqttMsgConnect_length (connection : MqttConnection capacity) (info : MqttConnectInfo) :
    (mqttMsgConnect protocol311 connection info).message.length ≤ capacity := by
  by_cases named : info.clientId = []
  next =>
    obtain ⟨failed, done⟩ := mqttMsgConnect_unnamed protocol311 connection named
    rw [done]
    exact Nat.zero_le _
  next =>
    have built := mqttMsgConnect_spec protocol311 connection named
    split at built
    next room =>
      obtain ⟨whole, done, holds⟩ := built
      rw [done]
      exact finiMessage_length holds .connect 0 0 0
    next =>
      obtain ⟨failed, done⟩ := built
      rw [done]
      exact Nat.zero_le _

end EspMqtt
