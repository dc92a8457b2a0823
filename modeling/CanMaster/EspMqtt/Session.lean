import CanMaster.EspMqtt.Steps
import CanMaster.Shared.Monitor

set_option autoImplicit false

namespace EspMqtt

open Transition

variable {capacity : Nat}

inductive Session where
  | ready
  | connecting
  | greeted
  | answered (bytes : List UInt8)
  | connected
  | dropping (tick : Int)
  | waiting (tick : Int)
  | finished
  deriving DecidableEq

def Setup.greeting (setup : Setup capacity) : List UInt8 :=
  let body := connectBody setup.protocol311 setup.connectInfo
  if setup.connectInfo.clientId ≠ [] ∧ 3 + body.length ≤ capacity then
    controlPacket (fixedHeader MqttMessageType.connect.code 0 0 0) body
  else []

theorem sendConnect_sent (setup : Setup capacity) (small : capacity ≤ 16386)
    (client : Client capacity) (write : Write) :
    (sendConnect setup client write).connection.sent = setup.greeting := by
  have build : (sendConnect setup client write).connection = mqttMsgConnect setup.protocol311
    (mqttMsgInit client.connection.buffer) setup.connectInfo := rfl
  rw [build, Setup.greeting]
  by_cases named : setup.connectInfo.clientId = []
  next =>
    obtain ⟨failed, done⟩ := mqttMsgConnect_unnamed setup.protocol311 _ named
    rw [done, failMessage_sent, if_neg (fun fits => fits.1 named)]
  next =>
    rw [mqttMsgConnect_sent _ named small]
    simp only [ne_eq, named, not_false_eq_true, true_and]

theorem sendConnect_trace (setup : Setup capacity) (small : capacity ≤ 16386)
    (client : Client capacity) (write : Write) :
    (sendConnect setup client write).trace = client.trace ++ [.wrote setup.greeting write] := by
  rw [← sendConnect_sent setup small client write]
  rfl

def Occurrence.inside : Occurrence → Bool
  | .wrote bytes _ => mqttGetType bytes ≠ MqttMessageType.connect.code
  | .received _ | .requested _ _ | .checked _ => true
  | .event .connected _ | .event .disconnected _ => false
  | .event _ _ => true
  | _ => false

-- An answer of less than four bytes leaves bytes of an earlier one in the buffer, and these are
-- then read as the return code.
def Session.next (greeting : List UInt8) : Session → Occurrence → Option Session
  | .ready, .connecting => some .connecting
  | .connecting, .wrote bytes _ => if bytes = greeting then some .greeted else none
  | .connecting, .closed tick => some (.dropping tick)
  | .greeted, .received bytes => some (.answered bytes)
  | .greeted, .closed tick => some (.dropping tick)
  | .answered bytes, .event .connected _ =>
      if 4 ≤ bytes.length → connectionAccepted bytes = true then some .connected else none
  | .answered _, .closed tick => some (.dropping tick)
  | .connected, .closed tick => some (.dropping tick)
  | .connected, occurrence => if occurrence.inside then some .connected else none
  | .dropping tick, .event .disconnected _ => some (.waiting tick)
  | .waiting tick, .waited now =>
      if mqttReconnectTimeoutMs < now - tick then some .ready else none
  | .waiting _, .ended => some .finished
  | _, _ => none

def sessions (setup : Setup capacity) : System Session Occurrence :=
  ⟨.ready, Session.next setup.greeting⟩

def Client.session (client : Client capacity) : Session :=
  if client.phase = .ended then .finished
  else
    match client.state with
    | .init => .ready
    | .connected => .connected
    | .waitTimeout => .waiting client.reconnectTick

structure Agrees (client : Client capacity) (session : Session) : Prop where
  same : session = client.session
  delay : client.state = .waitTimeout → client.waitTimeoutMs = mqttReconnectTimeoutMs
  inLoop : client.phase = .keepalive ∨ client.phase = .outbox → client.state = .connected
  outOfLoop : client.phase = .ended → client.state = .waitTimeout

structure Stays (client later : Client capacity) : Prop where
  state : later.state = client.state
  phase : later.phase = client.phase
  inside : ∃ extra, later.trace = client.trace ++ extra ∧ ∀ o ∈ extra, o.inside = true

theorem Stays.refl (client : Client capacity) : Stays client client :=
  ⟨rfl, rfl, [], by simp, by simp⟩

theorem Stays.trans {client between later : Client capacity} (first : Stays client between)
    (second : Stays between later) : Stays client later := by
  obtain ⟨state, phase, extra, grown, inside⟩ := first
  obtain ⟨state', phase', more, grown', inside'⟩ := second
  refine ⟨state'.trans state, phase'.trans phase, extra ++ more, ?_, ?_⟩
  · rw [grown', grown, List.append_assoc]
  · intro o there
    rcases List.mem_append.mp there with early | late
    · exact inside o early
    · exact inside' o late

theorem stays_note {client later : Client capacity} {occurrence : Occurrence}
    (state : later.state = client.state) (phase : later.phase = client.phase)
    (grown : later.trace = client.trace ++ [occurrence]) (inside : occurrence.inside = true) :
    Stays client later :=
  ⟨state, phase, [occurrence], grown, by simpa using inside⟩

theorem stays_unseen {client later : Client capacity} (state : later.state = client.state)
    (phase : later.phase = client.phase) (same : later.trace = client.trace) :
    Stays client later :=
  ⟨state, phase, [], by simp [same], by simp⟩

theorem mqttWriteData_fields (client : Client capacity) (write : Write) :
    (mqttWriteData client write).2 = { client.note (.wrote client.connection.sent write) with
      keepaliveTick := if write.written ≤ 0 then client.keepaliveTick else write.tick } := by
  rw [mqttWriteData]
  by_cases failed : write.written ≤ 0
  · simp only [failed, if_true]
    rfl
  · simp only [failed, if_false]

theorem isValidMqttMsg_some {client next : Client capacity} {msgType : MqttMessageType}
    {msgId : UInt16} (valid : isValidMqttMsg client msgType msgId = some next) :
    client.pendingMsgCount ≠ 0 ∧ ∃ outbox, next =
      { client with outbox := outbox, pendingMsgCount := client.pendingMsgCount - 1 } ∧
      (outboxDelete msgId.toNat msgType.code client.outbox = some outbox ∨
        outbox = client.outbox ∧ client.pendingMsgType = msgType.code ∧
          client.pendingMsgId = msgId) := by
  rw [isValidMqttMsg] at valid
  split at valid
  next => cases valid
  next counted =>
    split at valid
    next rest deleted =>
      cases valid
      exact ⟨counted, rest, rfl, .inl deleted⟩
    next =>
      split at valid
      next same =>
        cases valid
        exact ⟨counted, client.outbox, rfl, .inr ⟨rfl, same⟩⟩
      next => cases valid

theorem plain_code {call : MqttCall} (plain : call.plain = true) :
    call.type.code ≠ MqttMessageType.connect.code ∧
      call.type.code ≠ MqttMessageType.pingreq.code := by
  cases call <;> simp_all [MqttCall.plain, MqttCall.type, MqttMessageType.code]

section Sizes

variable (room : 3 ≤ capacity) (small : capacity ≤ 16386)

include room small

theorem plain_type {connection before : MqttConnection capacity} {call : MqttCall}
    {drawn : DrawnId} (plain : call.plain = true)
    (built : connection = call.build true before drawn) :
    mqttGetType connection.sent ≠ MqttMessageType.connect.code ∧
      mqttGetType connection.sent ≠ MqttMessageType.pingreq.code := by
  rw [built]
  rcases build_type room small before drawn call with failed | type
  · rw [failed]
    decide
  · rw [type]
    exact plain_code plain

theorem move_stays {client later : Client capacity} (move : Move client later) :
    Stays client later := by
  cases move with
  | build call drawn plain => exact stays_unseen rfl rfl rfl
  | write write call drawn before plain built =>
    have type := (plain_type room small plain built).1
    rw [mqttWriteData_fields]
    exact stays_note rfl rfl rfl (by simpa [Occurrence.inside] using type)
  | received bytes inside => exact stays_note rfl rfl rfl rfl
  | answered bytes inside pong => exact stays_note rfl rfl rfl rfl
  | confirmed msgType event next confirms valid =>
    obtain ⟨-, outbox, rfl, -⟩ := isValidMqttMsg_some valid
    cases confirms <;> exact stays_note rfl rfl rfl rfl
  | delivered fragment => exact stays_note rfl rfl rfl rfl
  | enqueued tick =>
    rw [mqttEnqueue]
    split
    · exact stays_unseen rfl rfl rfl
    · exact .refl client
  | pended msgId => exact stays_note rfl rfl rfl rfl

theorem moves_stay {client later : Client capacity} (moves : Moves client later) :
    Stays client later := by
  induction moves with
  | refl => exact .refl client
  | tail _ move ih => exact ih.trans (move_stays room small move)

end Sizes

variable {setup : Setup capacity}

theorem run_inside {extra : List Occurrence} (inside : ∀ o ∈ extra, o.inside = true) :
    (sessions setup).run .connected extra = some .connected := by
  induction extra with
  | nil => rfl
  | cons o rest ih =>
    have first := inside o List.mem_cons_self
    have stepped : (sessions setup).step .connected o = some .connected := by
      cases o <;> simp_all [sessions, Session.next, Occurrence.inside]
    rw [System.run_cons, stepped]
    exact ih fun other there => inside other (List.mem_cons_of_mem o there)

def Follows (setup : Setup capacity) : Client capacity → Client capacity → Prop :=
  Drives (sessions setup) Client.trace Agrees

theorem stays_follows {client later : Client capacity} (stays : Stays client later)
    (connected : client.state = .connected) (phase : Phase) (running : phase ≠ .ended) :
    Follows setup client { later with phase := phase } := by
  obtain ⟨state, -, extra, grown, inside⟩ := stays
  intro session agrees
  have here : client.session = .connected := by
    have going : client.phase ≠ .ended := fun ended => by
      have waits := agrees.outOfLoop ended
      rw [connected] at waits
      cases waits
    simp [Client.session, going, connected]
  have after := state.trans connected
  rw [agrees.same, here]
  refine ⟨extra, .connected, grown, run_inside inside, ?_, ?_, ?_, ?_⟩
  next => simp [Client.session, running, after]
  next =>
    intro waits
    cases after.symm.trans waits
  next => exact fun _ => after
  next => exact fun ended => absurd ended running

theorem abort_follows {client later : Client capacity} {tick : Int} (extra : List Occurrence)
    (grown : later.trace = client.trace ++ extra)
    (reads : ∀ session, Agrees client session →
      ∃ m, (sessions setup).run session extra = some m ∧
        (sessions setup).step m (.closed tick) = some (.dropping tick)) :
    Follows setup client (espMqttAbortConnection later tick) := by
  intro session agrees
  obtain ⟨m, ran, closes⟩ := reads session agrees
  refine ⟨extra ++ [.closed tick,
    .event .disconnected (mqttGetId later.inBuffer.bytes capacity)], .waiting tick, ?_, ?_, ?_⟩
  next =>
    simp [espMqttAbortConnection, espMqttDispatchEvent, Client.note, grown]
  next =>
    rw [System.run_append, ran]
    simp only [Option.bind_some, System.run_cons, closes]
    rfl
  next =>
    have top : (espMqttAbortConnection later tick).phase = .top := rfl
    exact ⟨rfl, fun _ => rfl, fun looping => by simp [top] at looping, fun _ => rfl⟩

theorem session_init {client : Client capacity} (top : client.phase = .top)
    (init : client.state = .init) : client.session = .ready := by
  simp [Client.session, top, init]

theorem session_connected {client : Client capacity} (running : client.phase ≠ .ended)
    (connected : client.state = .connected) : client.session = .connected := by
  simp [Client.session, running, connected]

theorem session_waiting {client : Client capacity} (top : client.phase = .top)
    (wait : client.state = .waitTimeout) : client.session = .waiting client.reconnectTick := by
  simp [Client.session, top, wait]

theorem connect_run (setup : Setup capacity) (small : capacity ≤ 16386)
    (client : Client capacity) (write : Write) (read : Read) :
    ∃ extra m, (espMqttConnect setup (client.note .connecting) write read).2.trace =
        client.trace ++ extra ∧
      (sessions setup).run .ready extra = some m ∧
      (∀ tick, (sessions setup).step m (.closed tick) = some (.dropping tick)) ∧
      ((espMqttConnect setup (client.note .connecting) write read).1 = true →
        ∀ id, (sessions setup).step m (.event .connected id) = some .connected) := by
  have greeted := sendConnect_trace setup small (client.note .connecting) write
  rcases espMqttConnect_cases setup (client.note .connecting) write read with
    silent | ⟨bytes, inside, answered⟩
  next =>
    rw [silent]
    refine ⟨[.connecting, .wrote setup.greeting write], .greeted, ?_, ?_, fun _ => rfl, ?_⟩
    next => simpa [Client.note] using greeted
    next => simp [sessions, Session.next]
    next => rintro ⟨⟩
  next =>
    rw [answered]
    refine ⟨[.connecting, .wrote setup.greeting write, .received bytes], .answered bytes, ?_, ?_,
      fun _ => rfl, ?_⟩
    next =>
      simp only [Client.note] at greeted ⊢
      simp [greeted]
    next => simp [sessions, Session.next]
    next =>
      intro accepted id
      have right : 4 ≤ bytes.length → connectionAccepted bytes = true := fun long =>
        (connectionAccepted_write inside long).symm.trans accepted
      simp only [sessions, Session.next, if_pos right]

def pingBytes : List UInt8 := controlPacket (fixedHeader MqttMessageType.pingreq.code 0 0 0) []

theorem mqttMsgPingreq_sent (room : 3 ≤ capacity) (connection : MqttConnection capacity) :
    (mqttMsgPingreq connection).sent = pingBytes :=
  finiMessage_empty_sent room connection .pingreq

theorem pingBytes_type : mqttGetType pingBytes = MqttMessageType.pingreq.code :=
  (fixedHeader_fields _ _ _ _ _).1

theorem espMqttClientPing_trace (room : 3 ≤ capacity) (client : Client capacity) (write : Write) :
    (espMqttClientPing client write).2.trace = client.trace ++ [.wrote pingBytes write] := by
  rw [espMqttClientPing, mqttWriteData_fields]
  simp only [Client.note, mqttMsgPingreq_sent room]

theorem ping_stays (room : 3 ≤ capacity) (client : Client capacity) (now : Int) (write : Write) :
    Stays client (espMqttClientPing (client.note (.checked now)) write).2 := by
  have fields := mqttWriteData_fields
    { client.note (.checked now) with
      connection := mqttMsgPingreq (client.note (.checked now)).connection } write
  have inside : (Occurrence.wrote pingBytes write).inside = true := by
    simp [Occurrence.inside, pingBytes_type, MqttMessageType.code]
  refine ⟨?_, ?_, [.checked now, .wrote pingBytes write], ?_, by simp [inside]; rfl⟩
  next => rw [espMqttClientPing, fields]; rfl
  next => rw [espMqttClientPing, fields]; rfl
  next => rw [espMqttClientPing_trace room]; simp [Client.note]

theorem drop_follows {client later : Client capacity} (stays : Stays client later) (tick : Int)
    (connected : client.state = .connected) :
    Follows setup client (espMqttAbortConnection later tick) := by
  obtain ⟨extra, grown, inside⟩ := stays.inside
  refine abort_follows extra grown fun session agrees => ⟨.connected, ?_, rfl⟩
  have running : client.phase ≠ .ended := by
    intro ended
    cases connected.symm.trans (agrees.outOfLoop ended)
  rw [agrees.same, session_connected running connected]
  exact run_inside inside

theorem espMqttConnect_phase (setup : Setup capacity) (client : Client capacity) (write : Write)
    (read : Read) : (espMqttConnect setup client write read).2.phase = client.phase := by
  rcases espMqttConnect_cases setup client write read with silent | ⟨bytes, -, answered⟩
  · rw [silent]
    rfl
  · rw [answered]
    rfl

theorem step_follows (room : 3 ≤ capacity) (small : capacity ≤ 16386)
    {client next : Client capacity} (stepped : Step setup client next) :
    Follows setup client next := by
  cases stepped with
  | unreachable tick top init =>
    refine abort_follows [.connecting] rfl fun session agrees => ?_
    rw [agrees.same, session_init top init]
    exact ⟨.connecting, rfl, rfl⟩
  | refused write read tick top init no =>
    obtain ⟨extra, m, grown, ran, closes, -⟩ := connect_run setup small client write read
    refine abort_follows extra grown fun session agrees => ?_
    rw [agrees.same, session_init top init]
    exact ⟨m, ran, closes tick⟩
  | accepted write read top init yes =>
    obtain ⟨extra, m, grown, ran, -, opens⟩ := connect_run setup small client write read
    have running := (espMqttConnect_phase setup (client.note .connecting) write read).trans top
    intro session agrees
    rw [agrees.same, session_init top init]
    let id := mqttGetId
      (espMqttConnect setup (client.note .connecting) write read).2.inBuffer.bytes capacity
    refine ⟨extra ++ [.event .connected id], .connected, ?_, ?_, ?_⟩
    next => exact (congrArg (· ++ [.event .connected id]) grown).trans (List.append_assoc _ _ _)
    next =>
      rw [System.run_append, ran]
      simp only [Option.bind_some, System.run_cons, opens yes, System.run_nil]
    next =>
      refine ⟨(session_connected ?_ rfl).symm, nofun, fun _ => rfl, fun ended => ?_⟩
      next => exact fun ended => by cases running.symm.trans ended
      next => cases running.symm.trans ended
  | received next top connected moves =>
    exact stays_follows (moves_stay room small moves) connected .keepalive nofun
  | readFailed tick top connected => exact drop_follows (.refl client) tick connected
  | recent now here early =>
    intro session agrees
    have checked : Stays client (client.note (.checked now)) := stays_note rfl rfl rfl rfl
    exact stays_follows checked (agrees.inLoop (.inl here)) .outbox nofun session agrees
  | silent now tick here late waiting =>
    intro session agrees
    have checked : Stays client (client.note (.checked now)) := stays_note rfl rfl rfl rfl
    exact drop_follows checked tick (agrees.inLoop (.inl here)) session agrees
  | pinged now write here late waiting written =>
    intro session agrees
    have pinged := ping_stays room client now write
    have waits : Stays client { (espMqttClientPing (client.note (.checked now)) write).2 with
        waitForPingResp := true } := ⟨pinged.state, pinged.phase, pinged.inside⟩
    exact stays_follows waits (agrees.inLoop (.inl here)) .outbox nofun session agrees
  | unpinged now write tick here late waiting unwritten =>
    intro session agrees
    exact drop_follows (ping_stays room client now write) tick (agrees.inLoop (.inl here)) session
      agrees
  | cleaned now here =>
    intro session agrees
    have cleaned : Stays client { client with
        outbox := (outboxCleanup outboxMaxSize
          (outboxDeleteExpired client.outbox now outboxExpiredTimeoutMs)).2 } :=
      stays_unseen rfl rfl rfl
    exact stays_follows cleaned (agrees.inLoop (.inr here)) .top nofun session agrees
  | ended top wait once =>
    intro session agrees
    rw [agrees.same, session_waiting top wait]
    exact ⟨[.ended], .finished, rfl, rfl, rfl, agrees.delay, fun looping => by simp at looping,
      fun _ => wait⟩
  | waited now tick top wait past =>
    intro session agrees
    have back : ({ client.note (.waited now) with
        state := .init, reconnectTick := tick } : Client capacity).session = .ready :=
      session_init top rfl
    rw [agrees.delay wait] at past
    rw [agrees.same, session_waiting top wait]
    refine ⟨[.waited now], .ready, rfl, ?_, back.symm, nofun, ?_, ?_⟩
    next => simp only [sessions, System.run_cons, Session.next, if_pos past]; rfl
    next =>
      rintro (keepalive | outbox)
      next => cases top.symm.trans keepalive
      next => cases top.symm.trans outbox
    next => exact fun ended => by cases top.symm.trans ended
  | waiting top wait => exact .refl _
  | called next moves connected =>
    have stays := moves_stay room small moves
    intro session agrees
    have running : client.phase ≠ .ended := by
      intro ended
      cases connected.symm.trans (agrees.outOfLoop ended)
    have same : { next with phase := client.phase } = next := by rw [← stays.phase]
    have follows : Follows setup client _ := stays_follows stays connected client.phase running
    rw [same] at follows
    exact follows session agrees
  | turnedAway apart => exact .refl _

theorem session_agrees (room : 3 ≤ capacity) (small : capacity ≤ 16386)
    {client : Client capacity} (reached : (mqttClient setup).Reachable client) :
    (sessions setup).run .ready client.trace = some client.session ∧
      Agrees client client.session := by
  have start : Agrees (mqttClient setup).init (sessions setup).init :=
    ⟨rfl, nofun, fun looping => by simp [mqttClient, espMqttClientInit] at looping, nofun⟩
  obtain ⟨session, ran, agrees⟩ := Drives.reachable (sessions setup) Client.trace Agrees rfl start
    (fun _ _ _ stepped => step_follows room small (step_listed stepped)) reached
  have same := agrees.same
  subst same
  exact ⟨ran, agrees⟩

def joins : Action := .connect true ⟨26, 5⟩ (some [32, 2, 0, 0]) 7

theorem next_closed {greeting : List UInt8} {session next : Session} {tick : Int}
    (closed : session.next greeting (.closed tick) = some next) : next = .dropping tick := by
  cases session <;> simp_all [Session.next]

theorem dropping_waits {tick : Int} {between after : List Occurrence} {session : Session}
    (ran : (sessions setup).run (.dropping tick) (between ++ .connecting :: after) =
      some session) :
    ∃ now, .waited now ∈ between ∧ mqttReconnectTimeoutMs < now - tick := by
  -- The first two occurrences are the event and the end of the wait.
  match between with
  | [] => cases ran
  | first :: rest =>
    obtain ⟨told, dropped, later⟩ := Option.bind_eq_some_iff.mp ran
    have waiting : told = .waiting tick := by
      simp only [sessions, Session.next] at dropped
      split at dropped <;> simp_all
    subst waiting
    match rest with
    | [] => cases later
    | second :: rest =>
      obtain ⟨next, waited, last⟩ := Option.bind_eq_some_iff.mp later
      cases second with
      | waited now =>
        simp only [sessions, Session.next] at waited
        split at waited
        next long => exact ⟨now, by simp, long⟩
        next => cases waited
      | ended =>
        cases waited
        cases rest <;> cases last
      | _ => cases waited

theorem reconnect_spaced (room : 3 ≤ capacity) (small : capacity ≤ 16386)
    {client : Client capacity} (reached : (mqttClient setup).Reachable client) {tick : Int}
    {before between after : List Occurrence}
    (split : client.trace = before ++ .closed tick :: (between ++ .connecting :: after)) :
    ∃ now, .waited now ∈ between ∧ mqttReconnectTimeoutMs < now - tick := by
  have ran := (session_agrees room small reached).1
  rw [split, System.run_append] at ran
  obtain ⟨session, -, later⟩ := Option.bind_eq_some_iff.mp ran
  obtain ⟨next, closed, last⟩ := Option.bind_eq_some_iff.mp later
  have dropping := next_closed closed
  subst dropping
  exact dropping_waits last

def retries : List Action :=
  [.connect false ⟨0, 0⟩ none 0, .waitTimeout 10001 10002, .connect false ⟨0, 0⟩ none 10003]

theorem reconnect_spaced_once : ∃ client between after,
    (mqttClient firmwareSetup).run (mqttClient firmwareSetup).init retries = some client ∧
    client.trace = [.connecting] ++ .closed 0 :: (between ++ .connecting :: after) ∧
    ∃ now, .waited now ∈ between ∧ mqttReconnectTimeoutMs < now - 0 := by
  have ran : ((mqttClient firmwareSetup).run (mqttClient firmwareSetup).init retries).map
      Client.trace = some ([.connecting] ++ .closed 0 ::
        ([.event .disconnected 0, .waited 10001] ++ .connecting ::
          [.closed 10003, .event .disconnected 0])) := rfl
  obtain ⟨client, run, split⟩ := Option.map_eq_some_iff.mp ran
  exact ⟨client, _, _, run, split, reconnect_spaced (by decide) (by decide) ⟨_, run⟩ split⟩

end EspMqtt
