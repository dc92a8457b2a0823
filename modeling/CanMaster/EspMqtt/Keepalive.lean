import CanMaster.EspMqtt.Session

set_option autoImplicit false

namespace EspMqtt

open Transition

variable {capacity : Nat}

-- With the tick of the last write that went well, and whether a ping waits for its answer.
inductive Liveness where
  | opening (last : Int)
  | quiet (last : Int) (pinged : Bool)
  | due (last : Int) (pinged : Bool)
  | failing (last : Int)
  deriving DecidableEq

def Occurrence.answers : Occurrence → Bool
  | .received bytes => mqttGetType bytes = MqttMessageType.pingresp.code
  | _ => false

-- The CONNECT does not count as a write. What is late has to be answered by a ping or by the end
-- of the connection, before anything else happens.
def Liveness.next (period : Int) : Liveness → Occurrence → Option Liveness
  | .opening last, .wrote _ _ => some (.quiet last false)
  | .opening last, .closed _ => some (.quiet last false)
  | .quiet last _, .connecting => some (.opening last)
  | .quiet last pinged, .wrote bytes write =>
      if mqttGetType bytes = MqttMessageType.pingreq.code then none
      else some (.quiet (if write.written ≤ 0 then last else write.tick) pinged)
  | .quiet last pinged, .checked now =>
      if period < now - last then some (.due last pinged) else some (.quiet last pinged)
  | .quiet last _, .closed _ => some (.quiet last false)
  | .quiet last pinged, occurrence => some (.quiet last (pinged && !occurrence.answers))
  | .due last false, .wrote bytes write =>
      if bytes = pingBytes then
        if write.written ≤ 0 then some (.failing last) else some (.quiet write.tick true)
      else none
  | .due last _, .closed _ => some (.quiet last false)
  | .failing last, .closed _ => some (.quiet last false)
  | _, _ => none

def liveness (setup : Setup capacity) : System Liveness Occurrence :=
  ⟨.quiet setup.keepaliveTick false, Liveness.next (keepaliveMs setup)⟩

-- The flag may outlive the answer to a ping: a later piece of a PUBLISH can look like one.
def Watches (client : Client capacity) (state : Liveness) : Prop :=
  ∃ pinged, state = .quiet client.keepaliveTick pinged ∧
    (pinged = true → client.waitForPingResp = true)

variable {setup : Setup capacity}

def KeepsWatch (setup : Setup capacity) : Client capacity → Client capacity → Prop :=
  Drives (liveness setup) Client.trace Watches

theorem watch_unseen {client later : Client capacity} (same : later.trace = client.trace)
    (tick : later.keepaliveTick = client.keepaliveTick)
    (flag : later.waitForPingResp = client.waitForPingResp) : KeepsWatch setup client later := by
  refine .unseen same fun state watches => ?_
  obtain ⟨pinged, rfl, waits⟩ := watches
  exact ⟨pinged, by rw [tick], fun ping => flag.trans (waits ping)⟩

theorem watch_note {client later : Client capacity} {occurrence : Occurrence}
    (grown : later.trace = client.trace ++ [occurrence])
    (tick : later.keepaliveTick = client.keepaliveTick)
    (flag : later.waitForPingResp = client.waitForPingResp ∨ occurrence.answers = true)
    (idle : ∀ last pinged, (liveness setup).step (.quiet last pinged) occurrence =
      some (.quiet last (pinged && !occurrence.answers))) : KeepsWatch setup client later := by
  refine .seen occurrence grown fun state watches => ?_
  obtain ⟨pinged, rfl, waits⟩ := watches
  refine ⟨_, idle _ _, _, by rw [tick], fun ping => ?_⟩
  simp only [Bool.and_eq_true, Bool.not_eq_true'] at ping
  rcases flag with same | answered
  · exact same.trans (waits ping.1)
  · rw [answered] at ping
    cases ping.2

section Sizes

variable (room : 3 ≤ capacity) (small : capacity ≤ 16386)

include room small

theorem move_watched {client later : Client capacity} (move : Move client later) :
    KeepsWatch setup client later := by
  cases move with
  | build call drawn plain => exact watch_unseen rfl rfl rfl
  | write write call drawn before plain built =>
    have type := (plain_type room small plain built).2
    rw [mqttWriteData_fields]
    refine .seen (.wrote client.connection.sent write) rfl fun state watches => ?_
    obtain ⟨pinged, rfl, waits⟩ := watches
    exact ⟨_, if_neg type, pinged, rfl, waits⟩
  | received bytes inside => exact watch_note rfl rfl (.inl rfl) fun _ _ => rfl
  | answered bytes inside pong =>
    exact watch_note rfl rfl (.inr (decide_eq_true pong)) fun _ _ => rfl
  | confirmed msgType event next confirms valid =>
    obtain ⟨-, outbox, rfl, -⟩ := isValidMqttMsg_some valid
    exact watch_note rfl rfl (.inl rfl) fun _ _ => rfl
  | delivered fragment => exact watch_note rfl rfl (.inl rfl) fun _ _ => rfl
  | enqueued tick =>
    rw [mqttEnqueue]
    split
    · exact watch_unseen rfl rfl rfl
    · exact .refl client
  | pended msgId => exact watch_note rfl rfl (.inl rfl) fun _ _ => rfl

theorem moves_watched {client later : Client capacity} (moves : Moves client later) :
    KeepsWatch setup client later := by
  induction moves with
  | refl => exact .refl client
  | tail _ move ih => exact ih.trans (move_watched room small move)

end Sizes

theorem abort_watched {client later : Client capacity} {tick : Int} (extra : List Occurrence)
    (grown : later.trace = client.trace ++ extra)
    (reads : ∀ state, Watches client state → ∃ m, (liveness setup).run state extra = some m ∧
      (liveness setup).step m (.closed tick) = some (.quiet later.keepaliveTick false)) :
    KeepsWatch setup client (espMqttAbortConnection later tick) := by
  intro state watches
  obtain ⟨m, ran, closes⟩ := reads state watches
  refine ⟨extra ++ [.closed tick,
    .event .disconnected (mqttGetId later.inBuffer.bytes capacity)], .quiet later.keepaliveTick false,
    ?_, ?_, false, rfl, nofun⟩
  next => simp [espMqttAbortConnection, espMqttDispatchEvent, Client.note, grown]
  next =>
    rw [System.run_append, ran]
    simp only [Option.bind_some, System.run_cons, closes]
    rfl

-- The flag and the tick do not matter until the connection is open.
theorem opened_run (setup : Setup capacity) (client : Client capacity) (write : Write) (read : Read) :
    ∃ extra, (espMqttConnect setup (client.note .connecting) write read).2.trace =
        client.trace ++ extra ∧
      (∀ pinged, (liveness setup).run (.quiet client.keepaliveTick pinged) extra =
        some (.quiet client.keepaliveTick false)) ∧
      (espMqttConnect setup (client.note .connecting) write read).2.keepaliveTick =
        client.keepaliveTick := by
  rcases espMqttConnect_cases setup (client.note .connecting) write read with
    silent | ⟨bytes, inside, answered⟩
  next =>
    rw [silent]
    exact ⟨[.connecting, .wrote _ write], by simp [sendConnect, Client.note]; rfl, fun _ => rfl,
      rfl⟩
  next =>
    rw [answered]
    exact ⟨[.connecting, .wrote _ write, .received bytes],
      by simp [sendConnect, Client.note]; rfl, fun _ => rfl, rfl⟩

theorem step_watched (room : 3 ≤ capacity) (small : capacity ≤ 16386)
    {client next : Client capacity} (stepped : Step setup client next) :
    KeepsWatch setup client next := by
  cases stepped with
  | unreachable tick top init =>
    refine abort_watched [.connecting] rfl fun state watches => ?_
    obtain ⟨pinged, rfl, -⟩ := watches
    exact ⟨_, rfl, rfl⟩
  | refused write read tick top init no =>
    obtain ⟨extra, grown, ran, same⟩ := opened_run setup client write read
    refine abort_watched extra grown fun state watches => ?_
    obtain ⟨pinged, rfl, -⟩ := watches
    rw [same]
    exact ⟨_, ran pinged, rfl⟩
  | accepted write read top init yes =>
    obtain ⟨extra, grown, ran, same⟩ := opened_run setup client write read
    let id := mqttGetId
      (espMqttConnect setup (client.note .connecting) write read).2.inBuffer.bytes capacity
    rintro _ ⟨pinged, rfl, -⟩
    refine ⟨extra ++ [.event .connected id], .quiet client.keepaliveTick false, ?_, ?_, false, ?_,
      nofun⟩
    next => exact (congrArg (· ++ [.event .connected id]) grown).trans (List.append_assoc _ _ _)
    next =>
      rw [System.run_append, ran]
      rfl
    next => exact congrArg (Liveness.quiet · false) same.symm
  | received next top connected moves =>
    exact (moves_watched room small moves).trans (watch_unseen rfl rfl rfl)
  | readFailed tick top connected =>
    refine abort_watched [] (by simp) fun state watches => ?_
    obtain ⟨pinged, rfl, -⟩ := watches
    exact ⟨_, rfl, rfl⟩
  | recent now here early =>
    refine .seen (.checked now) rfl fun state watches => ?_
    obtain ⟨pinged, rfl, waits⟩ := watches
    exact ⟨_, if_neg (Int.not_lt.mpr early), pinged, rfl, waits⟩
  | silent now tick here late waiting =>
    refine abort_watched [.checked now] rfl fun state watches => ?_
    obtain ⟨pinged, rfl, -⟩ := watches
    refine ⟨.due client.keepaliveTick pinged, ?_, by cases pinged <;> rfl⟩
    simp [liveness, Liveness.next, late]
  | pinged now write here late waiting written =>
    have resting : ¬ write.written ≤ 0 := Int.not_le.mpr written
    rintro _ ⟨pinged, rfl, waits⟩
    have fresh : pinged = false := by
      by_contra ping
      cases waiting.symm.trans (waits (eq_true_of_ne_false ping))
    subst fresh
    refine ⟨[.checked now, .wrote pingBytes write], .quiet write.tick true, ?_, ?_, true, ?_,
      fun _ => rfl⟩
    next =>
      have grown := espMqttClientPing_trace room (client.note (.checked now)) write
      simpa [Client.note] using grown
    next => simp [liveness, Liveness.next, late, resting]
    next =>
      rw [espMqttClientPing, mqttWriteData_fields]
      simp [resting]
  | unpinged now write tick here late waiting unwritten =>
    have grown := espMqttClientPing_trace room (client.note (.checked now)) write
    have same : (espMqttClientPing (client.note (.checked now)) write).2.keepaliveTick =
        client.keepaliveTick := by
      rw [espMqttClientPing, mqttWriteData_fields]
      simp [unwritten, Client.note]
    refine abort_watched [.checked now, .wrote pingBytes write]
      (by simpa [Client.note] using grown) fun state watches => ?_
    obtain ⟨pinged, rfl, waits⟩ := watches
    have fresh : pinged = false := by
      by_contra ping
      cases waiting.symm.trans (waits (eq_true_of_ne_false ping))
    subst fresh
    rw [same]
    refine ⟨.failing client.keepaliveTick, ?_, rfl⟩
    simp [liveness, Liveness.next, late, unwritten]
  | cleaned now here => exact watch_unseen rfl rfl rfl
  | ended top wait once => exact watch_note rfl rfl (.inl rfl) fun _ _ => rfl
  | waited now tick top wait past => exact watch_note rfl rfl (.inl rfl) fun _ _ => rfl
  | waiting top wait => exact .refl client
  | called next moves connected => exact moves_watched room small moves
  | turnedAway apart => exact .refl client

def pings : List Action :=
  [joins, .receive ⟨some [], ⟨0, 0⟩, drawnId, []⟩ 8, .checkKeepalive 60001 ⟨2, 60002⟩ 0]

end EspMqtt
