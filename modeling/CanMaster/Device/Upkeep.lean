import CanMaster.Device.System

set_option autoImplicit false

namespace Device

open EspMqtt Transition

variable {capacity : Nat} {setup : Setup capacity}

def topicTypes : List Nat :=
  [MqttMessageType.publish.code, MqttMessageType.subscribe.code, MqttMessageType.unsubscribe.code]

-- A message that failed has no type.
def namesTopic (bytes : List UInt8) : Bool := topicTypes.contains (mqttGetType bytes)

def upkeep : Occurrence → Bool
  | .wrote bytes _ => !namesTopic bytes
  | .event .connected _ => false
  | _ => true

def Tends (client later : Client capacity) : Prop :=
  ∃ extra, later.trace = client.trace ++ extra ∧ ∀ o ∈ extra, upkeep o = true

theorem Tends.refl (client : Client capacity) : Tends client client :=
  ⟨[], (List.append_nil _).symm, nofun⟩

theorem Tends.trans {client between later : Client capacity} (first : Tends client between)
    (second : Tends between later) : Tends client later := by
  obtain ⟨extra, grown, tends⟩ := first
  obtain ⟨more, grownMore, tendsMore⟩ := second
  refine ⟨extra ++ more, by rw [grownMore, grown, List.append_assoc], ?_⟩
  intro o there
  rcases List.mem_append.mp there with early | late
  · exact tends o early
  · exact tendsMore o late

theorem tends_note {client later : Client capacity} {occurrence : Occurrence}
    (grown : later.trace = client.trace ++ [occurrence]) (kept : upkeep occurrence = true) :
    Tends client later :=
  ⟨[occurrence], grown, by simpa using kept⟩

theorem abort_tends (client : Client capacity) (tick : Int) :
    Tends client (espMqttAbortConnection client tick) := by
  have closed : Tends client (client.note (.closed tick)) := tends_note rfl rfl
  exact closed.trans (tends_note rfl rfl)

theorem confirm_tends (client : Client capacity) (msgType : MqttMessageType) (msgId : UInt16)
    {event : Event} (other : ∀ id, upkeep (.event event id) = true) :
    Tends client (confirm client msgType msgId event) := by
  rw [confirm]
  split
  next next valid =>
    obtain ⟨-, outbox, rfl, -⟩ := isValidMqttMsg_some valid
    exact tends_note rfl (other _)
  next => exact .refl client

theorem transportRead_tends {client next : Client capacity} {len n : Nat} {read : Read}
    (got : transportRead client len read = some (n, next)) : Tends client next := by
  obtain ⟨bytes, -, -, rfl⟩ := transportRead_some got
  exact tends_note rfl rfl

theorem deliverLoop_tends (length : Nat) (messageLength : UInt32) (more : List Read)
    (client : Client capacity) (delivering : Delivering) (lenRead : Nat) :
    Tends client (deliverLoop length messageLength more client delivering lenRead) := by
  have told (client : Client capacity) (fragment : Fragment) :
      Tends client (espMqttDispatchEvent client (.data fragment)) := tends_note rfl rfl
  induction more generalizing client delivering lenRead with
  | nil =>
    rw [deliverLoop]
    split
    · exact told _ _
    · exact told _ _
  | cons read more ih =>
    rw [deliverLoop]
    dsimp only
    split
    next => exact told _ _
    next =>
      split
      next => exact told _ _
      next n next got =>
        have heard := (told _ _).trans (transportRead_tends got)
        split
        next => exact heard
        next => exact heard.trans (ih _ _ _)

theorem header_unnamed (type : MqttMessageType) (other : topicTypes.contains (type.code % 16) = false)
    (dup qos retain : Nat) (body : List UInt8) :
    namesTopic (controlPacket (fixedHeader type.code dup qos retain) body) = false := by
  rw [namesTopic, controlPacket, (fixedHeader_fields _ _ _ _ _).1]
  exact other

theorem tends_wrote {client later : Client capacity} {bytes : List UInt8} {write : Write}
    (grown : later.trace = client.trace ++ [.wrote bytes write])
    (other : namesTopic bytes = false) : Tends client later :=
  tends_note grown (by rw [upkeep, other]; rfl)

theorem greeting_unnamed (setup : Setup capacity) : namesTopic setup.greeting = false := by
  rw [Setup.greeting]
  split
  next => exact header_unnamed .connect rfl _ _ _ _
  next => rfl

section Sizes

variable (room : 3 ≤ capacity) (small : capacity ≤ 16386)

theorem connect_tends (setup : Setup capacity) (small : capacity ≤ 16386)
    (client : Client capacity) (write : Write) (read : Read) :
    Tends client (espMqttConnect setup client write read).2 := by
  have greeted : Tends client (sendConnect setup client write) :=
    tends_wrote (sendConnect_trace setup small client write) (greeting_unnamed setup)
  rcases espMqttConnect_cases setup client write read with silent | ⟨bytes, -, answered⟩
  next =>
    rw [silent]
    exact greeted
  next =>
    rw [answered]
    exact greeted.trans (tends_note rfl rfl)

include room

theorem ping_tends (client : Client capacity) (write : Write) :
    Tends client (espMqttClientPing client write).2 :=
  tends_wrote (espMqttClientPing_trace room client write) (header_unnamed .pingreq rfl 0 0 0 [])

theorem keepaliveTask_tends (client : Client capacity) (now : Int) (write : Write) (tick : Int) :
    Tends client (keepaliveTask setup client now write tick) := by
  have checked : Tends client (client.note (.checked now)) := tends_note rfl rfl
  have pinged : Tends client (espMqttClientPing (client.note (.checked now)) write).2 :=
    checked.trans (ping_tends room _ write)
  rw [keepaliveTask]
  dsimp only
  split
  next =>
    split
    next => exact checked.trans (abort_tends _ tick)
    next =>
      split
      next => exact pinged
      next => exact pinged.trans (abort_tends _ tick)
  next => exact checked

include small

theorem reply_tends (client : Client capacity) (call : MqttCall)
    (other : topicTypes.contains call.type.code = false) (drawn : DrawnId) (write : Write) :
    Tends client (reply client (call.build true client.connection drawn) write) := by
  have unnamed : namesTopic (call.build true client.connection drawn).sent = false := by
    rcases build_type room small client.connection drawn call with failed | type
    · rw [failed]
      rfl
    · rw [namesTopic, type]
      exact other
  rw [reply, mqttWriteData_fields]
  exact tends_wrote rfl unnamed

theorem processPublish_tends (client : Client capacity) (readLen : Nat) (msgId : UInt16)
    (receipt : Receipt) : Tends client (processPublish client readLen msgId receipt) := by
  simp only [processPublish, deliverPublish]
  split
  next =>
    have acknowledged := reply_tends room small client (.puback msgId) rfl receipt.drawn
      receipt.write
    exact acknowledged.trans (deliverLoop_tends _ _ _ _ _ _)
  next =>
    split
    next =>
      have acknowledged := reply_tends room small client (.pubrec msgId) rfl receipt.drawn
        receipt.write
      exact acknowledged.trans (deliverLoop_tends _ _ _ _ _ _)
    next => exact deliverLoop_tends _ _ _ _ _ _

theorem processMessage_tends (client : Client capacity) (readLen : Nat) (receipt : Receipt) :
    Tends client (processMessage client readLen receipt) := by
  rw [processMessage]
  split
  next => exact confirm_tends _ _ _ fun _ => rfl
  next => exact confirm_tends _ _ _ fun _ => rfl
  next => exact processPublish_tends room small client _ _ _
  next => exact confirm_tends _ _ _ fun _ => rfl
  next => exact reply_tends room small client (.pubrel _) rfl _ _
  next => exact reply_tends room small client (.pubcomp _) rfl _ _
  next => exact confirm_tends _ _ _ fun _ => rfl
  next => exact .refl client
  next => exact .refl client

theorem receiveTask_tends (client : Client capacity) (receipt : Receipt) (tick : Int) :
    Tends client (receiveTask client receipt tick) := by
  rw [receiveTask]
  split
  next => exact abort_tends client tick
  next processed received =>
    rw [mqttProcessReceive] at received
    split at received
    next => cases received
    next readLen read got =>
      have heard := transportRead_tends got
      split at received
      next =>
        cases received
        exact heard
      next =>
        cases received
        exact heard.trans (processMessage_tends room small _ _ _)

theorem task_tends {client next : Client capacity} {a : Action} (own : ofTask a = true)
    (stepped : (mqttClient setup).step client a = some next) :
    Tends client next ∨ ∃ before id, Tends client before ∧ next.state = .connected ∧
      next.trace = before.trace ++ [.event .connected id] := by
  have taken : step setup client a = some next := stepped
  cases a with
  | connect reachable write read tick =>
    simp only [step, Option.ite_none_right_eq_some, Option.some.injEq] at taken
    obtain ⟨-, rfl⟩ := taken
    have begun : Tends client (client.note .connecting) := tends_note rfl rfl
    have tried := begun.trans (connect_tends setup small (client.note .connecting) write read)
    rw [connectTask]
    split
    next =>
      dsimp only
      split
      next => exact .inr ⟨_, _, tried, rfl, rfl⟩
      next => exact .inl (tried.trans (abort_tends _ tick))
    next => exact .inl (begun.trans (abort_tends _ tick))
  | receive receipt tick =>
    simp only [step, Option.ite_none_right_eq_some, Option.some.injEq] at taken
    obtain ⟨-, rfl⟩ := taken
    exact .inl (receiveTask_tends room small client receipt tick)
  | checkKeepalive now write tick =>
    simp only [step, Option.ite_none_right_eq_some, Option.some.injEq] at taken
    obtain ⟨-, rfl⟩ := taken
    exact .inl (keepaliveTask_tends room client now write tick)
  | cleanOutbox now =>
    simp only [step, Option.ite_none_right_eq_some, Option.some.injEq] at taken
    obtain ⟨-, rfl⟩ := taken
    have same : Tends client client := .refl client
    exact .inl same
  | waitTimeout now tick =>
    simp only [step, Option.ite_none_right_eq_some, Option.some.injEq] at taken
    obtain ⟨-, rfl⟩ := taken
    left
    rw [waitTask]
    split
    next => exact tends_note rfl rfl
    next =>
      split
      next => exact tends_note rfl rfl
      next => exact .refl client
  | publish call tick write => cases own
  | subscribe topic qos drawn tick write => cases own
  | unsubscribe topic drawn tick write => cases own

end Sizes

def subscription : MqttCall := .subscribe (textBytes mqttResponseTopic) 2

theorem handlerCall_called {client : Client capacity} (connected : client.state = .connected)
    (drawn : DrawnId) (tick : Int) (write : Write) : ∃ outcome message,
      handlerCall client .connected drawn tick write = outcome.2 ∧
        message.1 = subscription.build true client.connection drawn ∧
        Called client outcome message [requestOf message] write :=
  ⟨_, _, rfl, mqttMsgTopic_fst _ _ _ _ _ drawn, topic_called connected _ tick write⟩

theorem handlerCall_apart {client : Client capacity} (apart : client.state ≠ .connected)
    (event : Event) (drawn : DrawnId) (tick : Int) (write : Write) :
    handlerCall client event drawn tick write = client := by
  cases event with
  | connected => exact congrArg Prod.snd (topic_apart apart _ tick write)
  | _ => rfl

end Device
