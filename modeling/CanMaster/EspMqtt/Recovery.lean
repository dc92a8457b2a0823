import CanMaster.EspMqtt.Calls
import CanMaster.EspMqtt.Confirmed
import CanMaster.EspMqtt.Keepalive

set_option autoImplicit false

namespace EspMqtt

open ByteFields Transition

variable {capacity : Nat} {setup : Setup capacity}

def connack : List UInt8 := [0x20, 2, 0, 0]

def Back (client : Client capacity) : Prop := client.phase = .top ∧ client.state = .connected

def Within (setup : Setup capacity) (steps : Nat) (client : Client capacity) : Prop :=
  ∃ actions later, actions.length ≤ steps ∧
    (mqttClient setup).run client actions = some later ∧ Back later

theorem within_back {client : Client capacity} (back : Back client) (steps : Nat) :
    Within setup steps client :=
  ⟨[], client, Nat.zero_le steps, rfl, back⟩

theorem within_more {client : Client capacity} {steps more : Nat} (few : steps ≤ more)
    (soon : Within setup steps client) : Within setup more client := by
  obtain ⟨actions, last, short, ran, back⟩ := soon
  exact ⟨actions, last, Nat.le_trans short few, ran, back⟩

theorem within_step {client next : Client capacity} {a : Action} {steps : Nat}
    (stepped : (mqttClient setup).step client a = some next) (later : Within setup steps next) :
    Within setup (steps + 1) client := by
  obtain ⟨actions, last, few, ran, back⟩ := later
  refine ⟨a :: actions, last, Nat.succ_le_succ few, ?_, back⟩
  rw [System.run_cons, stepped]
  exact ran

theorem greeting_long (greets : setup.greeting ≠ []) : 4 ≤ setup.greeting.length := by
  rw [Setup.greeting] at greets ⊢
  split
  next =>
    simp only [controlPacket, connectBody, List.length_cons, List.length_append,
      connectName_length]
    omega
  next unfit => exact absurd (if_neg unfit) greets

theorem sendConnect_long (small : capacity ≤ 16386) (greets : setup.greeting ≠ [])
    (client : Client capacity) (write : Write) :
    4 ≤ (sendConnect setup client write).connection.message.length ∧ 4 ≤ capacity := by
  have long := greeting_long greets
  have within : (sendConnect setup client write).connection.message.length ≤ capacity :=
    mqttMsgConnect_length _ _
  rw [← sendConnect_sent setup small client write, MqttConnection.sent, Buffer.slice,
    List.length_take, Nat.add_sub_cancel_left] at long
  omega

theorem espMqttConnect_accepts (small : capacity ≤ 16386) (greets : setup.greeting ≠ [])
    (client : Client capacity) :
    (espMqttConnect setup client ⟨1, 0⟩ (some connack)).1 = true := by
  obtain ⟨asked, room⟩ := sendConnect_long small greets client ⟨1, 0⟩
  have whole : connack.take (sendConnect setup client ⟨1, 0⟩).connection.message.length =
      connack := List.take_of_length_le asked
  have accepted : connectionAccepted (client.inBuffer.write 0 connack).bytes =
      connectionAccepted connack := connectionAccepted_write room (by decide)
  simp only [espMqttConnect, transportRead, whole]
  exact accepted

theorem accepted_back (small : capacity ≤ 16386) (greets : setup.greeting ≠ [])
    {client : Client capacity} (top : client.phase = .top) (init : client.state = .init) :
    Within setup 1 client := by
  let begun := client.note .connecting
  have yes := espMqttConnect_accepts small greets begun
  have running := (espMqttConnect_phase setup begun ⟨1, 0⟩ (some connack)).trans top
  let next := espMqttDispatchEvent { (espMqttConnect setup begun ⟨1, 0⟩ (some connack)).2 with
    state := .connected } .connected
  have stepped : (mqttClient setup).step client (.connect true ⟨1, 0⟩ (some connack) 0) =
      some next := by
    simp only [mqttClient, step, top, init, and_self, if_true, connectTask]
    exact congrArg some (if_pos yes)
  have back : Back next := ⟨running, rfl⟩
  exact within_step stepped (within_back back 0)

theorem waiting_back (small : capacity ≤ 16386) (greets : setup.greeting ≠ [])
    (auto : setup.autoReconnect = true) {client : Client capacity} (top : client.phase = .top)
    (wait : client.state = .waitTimeout) : Within setup 2 client := by
  let now := client.waitTimeoutMs + client.reconnectTick + 1
  let next : Client capacity :=
    { client.note (.waited now) with state := .init, reconnectTick := now }
  have past : client.waitTimeoutMs < now - client.reconnectTick := by omega
  have stepped : (mqttClient setup).step client (.waitTimeout now now) = some next := by
    simp [mqttClient, step, top, wait, waitTask, auto, past, next]
  exact within_step stepped (accepted_back small greets top rfl)

theorem looping_back {client : Client capacity}
    (looping : client.phase = .keepalive ∨ client.phase = .outbox)
    (connected : client.state = .connected) : Within setup 2 client := by
  have cleans {client : Client capacity} (here : client.phase = .outbox)
      (connected : client.state = .connected) : Within setup 1 client := by
    have stepped : (mqttClient setup).step client (.cleanOutbox 0) = some (outboxTask client 0) := by
      simp [mqttClient, step, here]
    have back : Back (outboxTask client 0) := ⟨rfl, connected⟩
    exact within_step stepped (within_back back 0)
  rcases looping with keepalive | outbox
  next =>
    -- The clock reads what it read at the last write.
    let now := client.keepaliveTick
    let next : Client capacity := { client.note (.checked now) with phase := .outbox }
    have period : 0 ≤ keepaliveMs setup := Int.natCast_nonneg _
    have early : ¬ keepaliveMs setup < now - client.keepaliveTick := by omega
    have stepped : (mqttClient setup).step client (.checkKeepalive now ⟨0, 0⟩ 0) = some next := by
      simp only [mqttClient, step, keepalive, if_true, keepaliveTask]
      exact congrArg some (if_neg early)
    exact within_step stepped (cleans rfl connected)
  next => exact within_more (Nat.le_succ 1) (cleans outbox connected)

theorem step_running (room : 3 ≤ capacity) (small : capacity ≤ 16386)
    (auto : setup.autoReconnect = true) {client next : Client capacity}
    (stepped : Step setup client next) (running : client.phase ≠ .ended) : next.phase ≠ .ended := by
  cases stepped with
  | accepted write read top init yes =>
    have same := espMqttConnect_phase setup (client.note .connecting) write read
    exact fun ended => running (same.symm.trans ended)
  | ended top wait once => cases auto.symm.trans once
  | waited now tick top wait past => exact running
  | waiting top wait => exact running
  | called later moves connected =>
    rw [(moves_stay room small moves).phase]
    exact running
  | turnedAway apart => exact running
  | _ => nofun

theorem client_recovers (room : 3 ≤ capacity) (small : capacity ≤ 16386)
    (auto : setup.autoReconnect = true) (greets : setup.greeting ≠ []) {client : Client capacity}
    (reached : (mqttClient setup).Reachable client) : Within setup 2 client := by
  have start : (mqttClient setup).init.phase ≠ .ended := nofun
  have running : client.phase ≠ .ended := System.reachable_invariant start
    (fun _ _ _ stepped => step_running room small auto (step_listed stepped)) reached
  have agrees := (session_agrees room small reached).2
  cases phase : client.phase with
  | ended => exact absurd phase running
  | keepalive => exact looping_back (.inl phase) (agrees.inLoop (.inl phase))
  | outbox => exact looping_back (.inr phase) (agrees.inLoop (.inr phase))
  | top =>
    cases state : client.state with
    | connected => exact within_back ⟨phase, state⟩ 2
    | waitTimeout => exact waiting_back small greets auto phase state
    | init => exact within_more (Nat.le_succ 1) (accepted_back small greets phase state)

def breaks : List Action := [joins, .receive ⟨none, ⟨0, 0⟩, drawnId, []⟩ 9]

theorem client_recovers_broken : ∃ client,
    (mqttClient firmwareSetup).run (mqttClient firmwareSetup).init breaks = some client ∧
    client.state = .waitTimeout ∧ Within firmwareSetup 2 client := by
  have ran : ((mqttClient firmwareSetup).run (mqttClient firmwareSetup).init breaks).map
      Client.state = some .waitTimeout := by decide +kernel
  obtain ⟨client, run, waits⟩ := Option.map_eq_some_iff.mp ran
  have greets : firmwareSetup.greeting ≠ [] := firmware_greeting _ _ _ _ _ _ _ _
  exact ⟨client, run, waits, client_recovers (by decide) (by decide) rfl greets ⟨_, run⟩⟩

-- A round of the loop in which a message is published and nothing is received.
structure Round where
  call : Publish
  tick : Int
  write : Write
  now : Int
  cleaned : Int

def Round.actions (round : Round) : List Action :=
  [.publish round.call round.tick round.write,
    .receive ⟨some [], ⟨0, 0⟩, round.call.drawn, []⟩ 0,
    .checkKeepalive round.now ⟨0, 0⟩ 0,
    .cleanOutbox round.cleaned]

structure Round.InTime (setup : Setup capacity) (round : Round) : Prop where
  written : 0 < round.write.written
  early : round.now - round.write.tick ≤ keepaliveMs setup

def Silent (trace : List Occurrence) : Prop := ∀ bytes, .received bytes ∈ trace → bytes = []

structure GoesOn (client later : Client capacity) : Prop where
  back : Back later
  waits : later.waitForPingResp = client.waitForPingResp
  silent : ∃ extra, later.trace = client.trace ++ extra ∧ Silent extra

theorem round_unnoticed {client : Client capacity} (back : Back client) {round : Round}
    (inTime : round.InTime setup) : ∃ later,
      (mqttClient setup).run client round.actions = some later ∧ GoesOn client later := by
  have fine : ¬ round.write.written ≤ 0 := Int.not_le.mpr inTime.written
  have publishes := publish_called back.2 round.call round.tick round.write
  let called := (espMqttClientPublish client round.call round.tick round.write).2
  have connected : called.state = .connected := publishes.state.trans back.2
  have top : called.phase = .top := publishes.phase.trans back.1
  have tick : called.keepaliveTick = round.write.tick := publishes.tick.trans (if_neg fine)
  obtain ⟨extra, grown, silent⟩ : ∃ extra, called.trace = client.trace ++ extra ∧ Silent extra := by
    refine ⟨_, publishes.trace, fun bytes there => ?_⟩
    split at there <;> simp [requestOf] at there
  let heard : Client capacity :=
    { { called with inBuffer := called.inBuffer.write 0 [] }.note (.received []) with
      phase := .keepalive }
  have received : (mqttClient setup).step called
      (.receive ⟨some [], ⟨0, 0⟩, round.call.drawn, []⟩ 0) = some heard := by
    simp [mqttClient, step, top, connected, receiveTask, mqttProcessReceive, transportRead, heard]
  let checked : Client capacity := { heard.note (.checked round.now) with phase := .outbox }
  have early : ¬ keepaliveMs setup < round.now - heard.keepaliveTick := by
    rw [show heard.keepaliveTick = round.write.tick from tick]
    exact Int.not_lt.mpr inTime.early
  have kept : (mqttClient setup).step heard (.checkKeepalive round.now ⟨0, 0⟩ 0) =
      some checked := congrArg some (if_neg early)
  let later := outboxTask checked round.cleaned
  have cleaned : (mqttClient setup).step checked (.cleanOutbox round.cleaned) = some later := rfl
  have published : (mqttClient setup).step client
      (.publish round.call round.tick round.write) = some called := rfl
  refine ⟨later, ?_, ⟨rfl, connected⟩, publishes.waits,
    extra ++ [.received [], .checked round.now], ?_, ?_⟩
  · rw [Round.actions, System.run_cons, published, Option.bind_some, System.run_cons, received,
      Option.bind_some, System.run_cons, kept, Option.bind_some, System.run_cons, cleaned]
    rfl
  · have whole : later.trace = called.trace ++ [.received []] ++ [.checked round.now] := rfl
    rw [whole, grown, List.append_assoc, List.append_assoc]
    rfl
  · intro bytes there
    rcases List.mem_append.mp there with before | now
    next => exact silent bytes before
    next => simpa using now

theorem goesOn_refl {client : Client capacity} (back : Back client) : GoesOn client client :=
  ⟨back, rfl, [], (List.append_nil _).symm, by simp [Silent]⟩

theorem GoesOn.trans {client between later : Client capacity} (first : GoesOn client between)
    (second : GoesOn between later) : GoesOn client later := by
  obtain ⟨-, waits, extra, grown, silent⟩ := first
  obtain ⟨back, waits', more, grown', silent'⟩ := second
  refine ⟨back, waits'.trans waits, extra ++ more, ?_, ?_⟩
  · rw [grown', grown, List.append_assoc]
  · intro bytes there
    rcases List.mem_append.mp there with early | late
    · exact silent bytes early
    · exact silent' bytes late

theorem peer_unnoticed {client : Client capacity} (back : Back client) (rounds : List Round)
    (inTime : ∀ round ∈ rounds, round.InTime setup) : ∃ later,
      (mqttClient setup).run client (rounds.flatMap Round.actions) = some later ∧
        GoesOn client later := by
  induction rounds generalizing client with
  | nil => exact ⟨client, rfl, goesOn_refl back⟩
  | cons round rest ih =>
    obtain ⟨between, first, goes⟩ := round_unnoticed back (inTime round List.mem_cons_self)
    obtain ⟨later, second, on⟩ :=
      ih goes.back fun other there => inTime other (List.mem_cons_of_mem _ there)
    refine ⟨later, ?_, goes.trans on⟩
    rw [List.flatMap_cons, System.run_append, first]
    exact second

def pinged : List Action := pings ++ [.cleanOutbox 60003]

def unanswered : List Round :=
  [⟨⟨[114], [123, 125], 2, 2, 0, drawnId⟩, 100000, ⟨9, 100000⟩, 150000, 150001⟩,
    ⟨⟨[114], [123, 125], 2, 2, 0, drawnId⟩, 200000, ⟨9, 200000⟩, 250000, 250001⟩]

theorem peer_unnoticed_pinged : ∃ client later,
    (mqttClient firmwareSetup).run (mqttClient firmwareSetup).init pinged = some client ∧
    client.waitForPingResp = true ∧
    (mqttClient firmwareSetup).run client (unanswered.flatMap Round.actions) = some later ∧
    GoesOn client later := by
  have ran : ((mqttClient firmwareSetup).run (mqttClient firmwareSetup).init pinged).map
      (fun client => (client.waitForPingResp, client.phase, client.state)) =
        some (true, .top, .connected) := by decide +kernel
  obtain ⟨client, run, fields⟩ := Option.map_eq_some_iff.mp ran
  obtain ⟨waits, top, connected⟩ : client.waitForPingResp = true ∧ client.phase = .top ∧
      client.state = .connected := by simpa using fields
  have inTime : ∀ round ∈ unanswered, round.InTime firmwareSetup := by
    intro round there
    rcases List.mem_pair.mp there with rfl | rfl <;> exact ⟨by decide, by decide⟩
  obtain ⟨later, on, goes⟩ := peer_unnoticed ⟨top, connected⟩ unanswered inTime
  exact ⟨client, later, run, waits, on, goes⟩

end EspMqtt
