import Mathlib.Logic.Relation
import CanMaster.EspMqtt.Client
import CanMaster.EspMqtt.Sent

set_option autoImplicit false

namespace EspMqtt

open Transition

variable {capacity : Nat}

-- The messages that are not part of opening a connection or of keeping it.
def MqttCall.plain : MqttCall → Bool
  | .connect _ | .pingreq | .pingresp | .disconnect => false
  | _ => true

-- What a confirmed request was, and the event that tells of it.
inductive Confirms : MqttMessageType → Event → Prop where
  | subscribed : Confirms .subscribe .subscribed
  | unsubscribed : Confirms .unsubscribe .unsubscribed
  | published : Confirms .publish .published

inductive Move (client : Client capacity) : Client capacity → Prop where
  | build (call : MqttCall) (drawn : DrawnId) (plain : call.plain = true) :
      Move client { client with connection := call.build true client.connection drawn }
  | write (write : Write) (call : MqttCall) (drawn : DrawnId) (before : MqttConnection capacity)
      (plain : call.plain = true) (built : client.connection = call.build true before drawn) :
      Move client (mqttWriteData client write).2
  | received (bytes : List UInt8) (inside : bytes.length ≤ capacity) :
      Move client ({ client with inBuffer := client.inBuffer.write 0 bytes }.note (.received bytes))
  | answered (bytes : List UInt8) (inside : bytes.length ≤ capacity)
      (pong : mqttGetType bytes = MqttMessageType.pingresp.code) :
      Move client { ({ client with inBuffer := client.inBuffer.write 0 bytes }.note
        (.received bytes)) with waitForPingResp := false }
  | confirmed (msgType : MqttMessageType) (event : Event) (next : Client capacity)
      (confirms : Confirms msgType event)
      (valid : isValidMqttMsg client msgType (mqttGetId client.inBuffer.bytes capacity) =
        some next) : Move client (espMqttDispatchEvent next event)
  | delivered (fragment : Fragment) : Move client (espMqttDispatchEvent client (.data fragment))
  | enqueued (tick : Int) : Move client (mqttEnqueue client tick)
  | pended (msgId : UInt16) : Move client (pend client msgId)

def Moves (client later : Client capacity) : Prop := Relation.ReflTransGen Move client later

theorem Moves.kept {client later : Client capacity} {inv : Client capacity → Prop}
    (kept : ∀ c d, Move c d → inv c → inv d) (moves : Moves client later) (start : inv client) :
    inv later := by
  induction moves with
  | refl => exact start
  | tail _ move ih => exact kept _ _ move ih

theorem transportRead_some {client next : Client capacity} {len n : Nat} {read : Read}
    (got : transportRead client len read = some (n, next)) :
    ∃ bytes : List UInt8, bytes.length = n ∧ n ≤ len ∧
      next = { client with inBuffer := client.inBuffer.write 0 bytes }.note (.received bytes) := by
  cases read with
  | none => cases got
  | some bytes =>
    simp only [transportRead, Option.some.injEq, Prod.mk.injEq] at got
    obtain ⟨rfl, rfl⟩ := got
    exact ⟨bytes.take len, rfl, List.length_take_le len bytes, rfl⟩

theorem transportRead_moves {client next : Client capacity} {len n : Nat} {read : Read}
    (got : transportRead client len read = some (n, next)) (inside : len ≤ capacity) :
    Move client next := by
  obtain ⟨bytes, rfl, short, rfl⟩ := transportRead_some got
  exact .received bytes (by omega)

theorem deliverLoop_moves (length : Nat) (messageLength : UInt32) (more : List Read)
    (client : Client capacity) (delivering : Delivering) (lenRead : Nat) :
    Moves client (deliverLoop length messageLength more client delivering lenRead) := by
  induction more generalizing client delivering lenRead with
  | nil =>
    rw [deliverLoop]
    split
    · exact .single (.delivered _)
    · exact .single (.delivered _)
  | cons read more ih =>
    rw [deliverLoop]
    dsimp only
    split
    next => exact .single (.delivered _)
    next =>
      split
      next => exact .single (.delivered _)
      next n left got =>
        have moved := transportRead_moves got (Nat.min_le_right _ _)
        split
        next => exact .tail (.single (.delivered _)) moved
        next => exact .head (.delivered _) (.head moved (ih _ _ _))

theorem reply_moves {client : Client capacity} (call : MqttCall) (drawn : DrawnId)
    (plain : call.plain = true) (write : Write) :
    Moves client (reply client (call.build true client.connection drawn) write) :=
  .tail (.single (.build call drawn plain)) (.write write call drawn _ plain rfl)

theorem confirm_moves {client : Client capacity} {msgType : MqttMessageType} {event : Event}
    (confirms : Confirms msgType event) :
    Moves client (confirm client msgType (mqttGetId client.inBuffer.bytes capacity) event) := by
  rw [confirm]
  split
  next valid => exact .single (.confirmed msgType event _ confirms valid)
  next => exact .refl

theorem processPublish_moves (client : Client capacity) (readLen : Nat) (msgId : UInt16)
    (receipt : Receipt) : Moves client (processPublish client readLen msgId receipt) := by
  simp only [processPublish, deliverPublish]
  split
  next =>
    exact .trans (reply_moves (.puback msgId) receipt.drawn rfl receipt.write)
      (deliverLoop_moves _ _ _ _ _ _)
  next =>
    split
    next =>
      exact .trans (reply_moves (.pubrec msgId) receipt.drawn rfl receipt.write)
        (deliverLoop_moves _ _ _ _ _ _)
    next => exact deliverLoop_moves _ _ _ _ _ _

theorem ofCode_some {code : Nat} {type : MqttMessageType}
    (found : MqttMessageType.ofCode code = some type) : code = type.code := by
  have here := List.find?_some found
  simpa using (of_decide_eq_true here).symm

theorem byteAt_write {b : Buffer capacity} {bytes : List UInt8}
    (inside : bytes.length ≤ capacity) {i : Nat} (before : i < bytes.length) :
    byteAt (b.write 0 bytes).bytes i = byteAt bytes i := by
  rw [byteAt, byteAt, Buffer.write_bytes (by omega), List.take_zero, List.nil_append,
    List.getD_eq_getElem?_getD, List.getD_eq_getElem?_getD, List.getElem?_append_left before]

theorem processMessage_moves {client : Client capacity} {bytes : List UInt8}
    (positive : 0 < bytes.length) (inside : bytes.length ≤ capacity) (receipt : Receipt) :
    Moves client (processMessage
      ({ client with inBuffer := client.inBuffer.write 0 bytes }.note (.received bytes))
      bytes.length receipt) := by
  have move : Move client _ := .received bytes inside
  rw [processMessage]
  split
  next => exact .head move (confirm_moves .subscribed)
  next => exact .head move (confirm_moves .unsubscribed)
  next => exact .head move (processPublish_moves _ _ _ _)
  next => exact .head move (confirm_moves .published)
  next => exact .head move (reply_moves (.pubrel _) receipt.drawn rfl receipt.write)
  next => exact .head move (reply_moves (.pubcomp _) receipt.drawn rfl receipt.write)
  next => exact .head move (confirm_moves .published)
  next pong =>
    have type : mqttGetType bytes = MqttMessageType.pingresp.code := by
      rw [← ofCode_some pong]
      simp only [mqttGetType, Client.note, byteAt_write inside positive]
    exact .single (.answered bytes inside type)
  next => exact .single move

theorem mqttProcessReceive_moves {client next : Client capacity} {receipt : Receipt}
    (received : mqttProcessReceive client receipt = some next) : Moves client next := by
  rw [mqttProcessReceive] at received
  split at received
  next => cases received
  next readLen read got =>
    split at received
    next =>
      cases received
      exact .single (transportRead_moves got (Nat.le_refl _))
    next some =>
      cases received
      obtain ⟨bytes, rfl, inside, rfl⟩ := transportRead_some got
      exact processMessage_moves (Nat.pos_of_ne_zero some) inside receipt

-- The identifier that is there before makes no difference to the message.
theorem mqttMsgTopic_fst (type : MqttMessageType)
    (last : MqttConnection capacity → Attempt capacity) (connection : MqttConnection capacity)
    (topic : List UInt8) (messageId : UInt16) (drawn : DrawnId) :
    (mqttMsgTopic type last connection topic messageId drawn).1 =
      (mqttMsgTopic type last connection topic 0 drawn).1 := by
  simp only [mqttMsgTopic]
  split <;> rfl

theorem espMqttClientTopic_moves {client : Client capacity}
    {build : MqttConnection capacity → UInt16 → MqttConnection capacity × UInt16}
    (call : MqttCall) {drawn : DrawnId} (plain : call.plain = true)
    (builds : ∀ connection msgId, (build connection msgId).1 = call.build true connection drawn)
    (tick : Int) (write : Write) :
    Moves client (espMqttClientTopic client build tick write).2 := by
  rw [espMqttClientTopic]
  split
  next => exact .refl
  next =>
    have move : Move (mqttEnqueue client tick) _ := .build call drawn plain
    rw [← builds _ (mqttEnqueue client tick).pendingMsgId] at move
    exact .head (.enqueued tick) (.head move (.head (.pended _)
      (.single (.write write call drawn _ plain (builds _ _)))))

theorem subscribe_moves (client : Client capacity) (topic : List UInt8) (qos : Nat)
    (drawn : DrawnId) (tick : Int) (write : Write) :
    Moves client (espMqttClientSubscribe client topic qos drawn tick write).2 :=
  espMqttClientTopic_moves (.subscribe topic qos) rfl
    (fun _ msgId => mqttMsgTopic_fst _ _ _ topic msgId drawn) tick write

theorem unsubscribe_moves (client : Client capacity) (topic : List UInt8) (drawn : DrawnId)
    (tick : Int) (write : Write) :
    Moves client (espMqttClientUnsubscribe client topic drawn tick write).2 :=
  espMqttClientTopic_moves (.unsubscribe topic) rfl
    (fun _ msgId => mqttMsgTopic_fst _ _ _ topic msgId drawn) tick write

theorem mqttEnqueue_fields (client : Client capacity) (tick : Int) :
    mqttEnqueue client tick = { client with outbox := (mqttEnqueue client tick).outbox } := by
  rw [mqttEnqueue]
  split <;> rfl

theorem enqueued_connection (client : Client capacity) (tick : Int) :
    (mqttEnqueue client tick).connection = client.connection := by
  rw [mqttEnqueue_fields]

theorem enqueued_trace (client : Client capacity) (tick : Int) :
    (mqttEnqueue client tick).trace = client.trace := by
  rw [mqttEnqueue_fields]

theorem topic_apart {client : Client capacity} (apart : client.state ≠ .connected)
    (build : MqttConnection capacity → UInt16 → MqttConnection capacity × UInt16) (tick : Int)
    (write : Write) : espMqttClientTopic client build tick write = (-1, client) := by
  rw [espMqttClientTopic, if_pos apart]

theorem publish_apart {client : Client capacity} (apart : client.state ≠ .connected)
    (call : Publish) (tick : Int) (write : Write) :
    espMqttClientPublish client call tick write = (-1, client) := by
  rw [espMqttClientPublish, if_pos apart]

theorem publish_moves (client : Client capacity) (call : Publish) (tick : Int) (write : Write) :
    Moves client (espMqttClientPublish client call tick write).2 := by
  rw [espMqttClientPublish]
  split
  next => exact .refl
  next =>
    let built : MqttCall := .publish call.topic call.payload call.qos call.retain
    have move : Move client _ := .build built call.drawn rfl
    dsimp only
    split
    next =>
      exact .head move (.head (.pended _) (.head (.enqueued tick)
        (.single (.write write built call.drawn _ rfl (enqueued_connection _ tick)))))
    next => exact .head move (.single (.write write built call.drawn _ rfl rfl))

theorem espMqttConnect_cases (setup : Setup capacity) (client : Client capacity) (write : Write)
    (read : Read) :
    espMqttConnect setup client write read = (false, sendConnect setup client write) ∨
      ∃ bytes : List UInt8, bytes.length ≤ capacity ∧
        espMqttConnect setup client write read =
          (connectionAccepted (client.inBuffer.write 0 bytes).bytes,
            { sendConnect setup client write with
              inBuffer := client.inBuffer.write 0 bytes }.note (.received bytes)) := by
  have short : (sendConnect setup client write).connection.message.length ≤ capacity :=
    mqttMsgConnect_length _ _
  rw [espMqttConnect]
  dsimp only
  split
  next => exact .inl rfl
  next =>
    split
    next => exact .inl rfl
    next n next got =>
      obtain ⟨bytes, rfl, inside, rfl⟩ := transportRead_some got
      exact .inr ⟨bytes, by omega, rfl⟩

theorem connectionAccepted_write {buffer : Buffer capacity} {bytes : List UInt8}
    (inside : bytes.length ≤ capacity) (long : 4 ≤ bytes.length) :
    connectionAccepted (buffer.write 0 bytes).bytes = connectionAccepted bytes := by
  have first := byteAt_write (b := buffer) inside (by omega : 0 < bytes.length)
  have fourth := byteAt_write (b := buffer) inside (by omega : 3 < bytes.length)
  apply decide_eq_decide.mpr
  simp only [mqttGetType, mqttGetConnectReturnCode, first, fourth]

inductive Step (setup : Setup capacity) (client : Client capacity) : Client capacity → Prop where
  | unreachable (tick : Int) (top : client.phase = .top) (init : client.state = .init) :
      Step setup client (espMqttAbortConnection (client.note .connecting) tick)
  | refused (write : Write) (read : Read) (tick : Int) (top : client.phase = .top)
      (init : client.state = .init)
      (no : (espMqttConnect setup (client.note .connecting) write read).1 = false) :
      Step setup client (espMqttAbortConnection
        (espMqttConnect setup (client.note .connecting) write read).2 tick)
  | accepted (write : Write) (read : Read) (top : client.phase = .top)
      (init : client.state = .init)
      (yes : (espMqttConnect setup (client.note .connecting) write read).1 = true) :
      Step setup client (espMqttDispatchEvent
        { (espMqttConnect setup (client.note .connecting) write read).2 with
          state := .connected } .connected)
  | received (next : Client capacity) (top : client.phase = .top)
      (connected : client.state = .connected) (moves : Moves client next) :
      Step setup client { next with phase := .keepalive }
  | readFailed (tick : Int) (top : client.phase = .top) (connected : client.state = .connected) :
      Step setup client (espMqttAbortConnection client tick)
  | recent (now : Int) (here : client.phase = .keepalive)
      (early : now - client.keepaliveTick ≤ keepaliveMs setup) :
      Step setup client { client.note (.checked now) with phase := .outbox }
  | silent (now tick : Int) (here : client.phase = .keepalive)
      (late : keepaliveMs setup < now - client.keepaliveTick)
      (waiting : client.waitForPingResp = true) :
      Step setup client (espMqttAbortConnection (client.note (.checked now)) tick)
  | pinged (now : Int) (write : Write) (here : client.phase = .keepalive)
      (late : keepaliveMs setup < now - client.keepaliveTick)
      (waiting : client.waitForPingResp = false) (written : 0 < write.written) :
      Step setup client { (espMqttClientPing (client.note (.checked now)) write).2 with
        waitForPingResp := true
        phase := .outbox }
  | unpinged (now : Int) (write : Write) (tick : Int) (here : client.phase = .keepalive)
      (late : keepaliveMs setup < now - client.keepaliveTick)
      (waiting : client.waitForPingResp = false) (unwritten : write.written ≤ 0) :
      Step setup client (espMqttAbortConnection
        (espMqttClientPing (client.note (.checked now)) write).2 tick)
  | cleaned (now : Int) (here : client.phase = .outbox) :
      Step setup client (outboxTask client now)
  | ended (top : client.phase = .top) (wait : client.state = .waitTimeout)
      (once : setup.autoReconnect = false) :
      Step setup client { client.note .ended with phase := .ended }
  | waited (now tick : Int) (top : client.phase = .top) (wait : client.state = .waitTimeout)
      (past : client.waitTimeoutMs < now - client.reconnectTick) :
      Step setup client { client.note (.waited now) with state := .init, reconnectTick := tick }
  | waiting (top : client.phase = .top) (wait : client.state = .waitTimeout) :
      Step setup client client
  | called (next : Client capacity) (moves : Moves client next)
      (connected : client.state = .connected) : Step setup client next
  | turnedAway (apart : client.state ≠ .connected) : Step setup client client

theorem connectTask_listed {setup : Setup capacity} {client : Client capacity}
    (top : client.phase = .top) (init : client.state = .init) (reachable : Bool) (write : Write)
    (read : Read) (tick : Int) :
    Step setup client (connectTask setup client reachable write read tick) := by
  cases reachable with
  | false => exact .unreachable tick top init
  | true =>
    cases accepted : (espMqttConnect setup (client.note .connecting) write read).1 with
    | false =>
      simp only [connectTask, if_true, accepted, Bool.false_eq_true, if_false]
      exact .refused write read tick top init accepted
    | true =>
      simp only [connectTask, if_true, accepted]
      exact .accepted write read top init accepted

theorem keepaliveTask_listed {setup : Setup capacity} {client : Client capacity}
    (here : client.phase = .keepalive) (now : Int) (write : Write) (tick : Int) :
    Step setup client (keepaliveTask setup client now write tick) := by
  rw [keepaliveTask]
  dsimp only
  split
  next late =>
    split
    next waiting => exact .silent now tick here late waiting
    next resting =>
      have waiting : client.waitForPingResp = false := Bool.eq_false_iff.mpr resting
      by_cases unwritten : write.written ≤ 0
      next =>
        have failed : (espMqttClientPing (client.note (.checked now)) write).1 = false := by
          simp [espMqttClientPing, mqttWriteData, unwritten]
        simp only [Bool.false_eq_true, if_false, failed]
        exact .unpinged now write tick here late waiting unwritten
      next =>
        have done : (espMqttClientPing (client.note (.checked now)) write).1 = true := by
          simp [espMqttClientPing, mqttWriteData, unwritten]
        simp only [done, if_true]
        exact .pinged now write here late waiting (Int.not_le.mp unwritten)
  next early => exact .recent now here (Int.not_lt.mp early)

theorem waitTask_listed {setup : Setup capacity} {client : Client capacity}
    (top : client.phase = .top) (wait : client.state = .waitTimeout) (now tick : Int) :
    Step setup client (waitTask setup client now tick) := by
  rw [waitTask]
  split
  next once => exact .ended top wait once
  next =>
    split
    next past => exact .waited now tick top wait past
    next => exact .waiting top wait

theorem called_listed {setup : Setup capacity} {client next : Client capacity}
    (moves : Moves client next) (apart : client.state ≠ .connected → next = client) :
    Step setup client next := by
  by_cases connected : client.state = .connected
  next => exact .called next moves connected
  next =>
    rw [apart connected]
    exact .turnedAway connected

theorem step_listed {setup : Setup capacity} {client next : Client capacity} {a : Action}
    (stepped : (mqttClient setup).step client a = some next) : Step setup client next := by
  have taken : step setup client a = some next := stepped
  cases a with
  | connect reachable write read tick =>
    simp only [step, Option.ite_none_right_eq_some, Option.some.injEq] at taken
    obtain ⟨⟨top, init⟩, rfl⟩ := taken
    exact connectTask_listed top init reachable write read tick
  | receive receipt tick =>
    simp only [step, Option.ite_none_right_eq_some, Option.some.injEq] at taken
    obtain ⟨⟨top, connected⟩, rfl⟩ := taken
    rw [receiveTask]
    split
    next => exact .readFailed tick top connected
    next processed => exact .received _ top connected (mqttProcessReceive_moves processed)
  | checkKeepalive now write tick =>
    simp only [step, Option.ite_none_right_eq_some, Option.some.injEq] at taken
    obtain ⟨here, rfl⟩ := taken
    exact keepaliveTask_listed here now write tick
  | cleanOutbox now =>
    simp only [step, Option.ite_none_right_eq_some, Option.some.injEq] at taken
    obtain ⟨here, rfl⟩ := taken
    exact .cleaned now here
  | waitTimeout now tick =>
    simp only [step, Option.ite_none_right_eq_some, Option.some.injEq] at taken
    obtain ⟨⟨top, wait⟩, rfl⟩ := taken
    exact waitTask_listed top wait now tick
  | publish call tick write =>
    simp only [step, Option.some.injEq] at taken
    subst taken
    exact called_listed (publish_moves client call tick write)
      fun apart => congrArg Prod.snd (publish_apart apart call tick write)
  | subscribe topic qos drawn tick write =>
    simp only [step, Option.some.injEq] at taken
    subst taken
    exact called_listed (subscribe_moves client topic qos drawn tick write)
      fun apart => congrArg Prod.snd (topic_apart apart _ tick write)
  | unsubscribe topic drawn tick write =>
    simp only [step, Option.some.injEq] at taken
    subst taken
    exact called_listed (unsubscribe_moves client topic drawn tick write)
      fun apart => congrArg Prod.snd (topic_apart apart _ tick write)

end EspMqtt
