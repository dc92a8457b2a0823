import CanMaster.EspMqtt.Confirmed
import CanMaster.EspMqtt.Pieces
import CanMaster.EspMqtt.RoundTrip

set_option autoImplicit false

namespace EspMqtt

open ByteFields Transition

variable {capacity : Nat} {setup : Setup capacity}

-- The packets of a stream, as a broker takes them off it.
def readStream : List UInt8 → Option (List (UInt8 × List UInt8))
  | [] => some []
  | header :: rest =>
      match readLength rest with
      | none => none
      | some (length, k) =>
          if (rest.drop k).length < length then none
          else
            (readStream ((rest.drop k).drop length)).map
              ((header, (rest.drop k).take length) :: ·)
termination_by bytes => bytes.length
decreasing_by simp only [List.length_drop, List.length_cons]; omega

def Framed (bytes : List UInt8) : Prop :=
  bytes = [] ∨ ∃ header body, bytes = controlPacket header body

theorem readStream_controlPacket (header : UInt8) (body later : List UInt8) :
    readStream (controlPacket header body ++ later) =
      (readStream later).map ((header, body) :: ·) := by
  have found := readLength_lengthBytes body.length (body ++ later)
  rw [controlPacket, List.cons_append, List.append_assoc, readStream, found]
  simp

theorem readStream_flatten {packets : List (List UInt8)}
    (framed : ∀ bytes ∈ packets, Framed bytes) :
    readStream packets.flatten = some (packets.filterMap readPacket) := by
  induction packets with
  | nil => simp [readStream]
  | cons bytes rest ih =>
    have later := ih fun other there => framed other (List.mem_cons_of_mem _ there)
    rw [List.flatten_cons]
    rcases framed bytes List.mem_cons_self with rfl | ⟨header, body, rfl⟩
    next => rw [List.nil_append, later, List.filterMap_cons_none rfl]
    next =>
      rw [readStream_controlPacket, later, List.filterMap_cons, readPacket_controlPacket]
      rfl

def AllFramed (client : Client capacity) : Prop := ∀ bytes ∈ writes client.trace, Framed bytes

theorem framed_unseen {client later : Client capacity} (same : later.trace = client.trace)
    (framed : AllFramed client) : AllFramed later := by
  rwa [AllFramed, same]

theorem framed_note {client later : Client capacity} {occurrence : Occurrence}
    (grown : later.trace = client.trace ++ [occurrence])
    (written : ∀ bytes, occurrence.written? = some bytes → Framed bytes)
    (framed : AllFramed client) : AllFramed later := by
  intro bytes there
  rw [grown, writes_append, List.mem_append] at there
  rcases there with before | now
  next => exact framed bytes before
  next =>
    simp only [writes, List.filterMap_cons, List.filterMap_nil] at now
    cases found : occurrence.written? with
    | none => simp [found] at now
    | some wrote =>
      obtain rfl : bytes = wrote := by simpa [found] using now
      exact written _ found

theorem framed_silent {client later : Client capacity} {occurrence : Occurrence}
    (grown : later.trace = client.trace ++ [occurrence]) (silent : occurrence.written? = none)
    (framed : AllFramed client) : AllFramed later :=
  framed_note grown (fun _ wrote => by cases silent.symm.trans wrote) framed

theorem greeting_framed (setup : Setup capacity) : Framed setup.greeting := by
  rw [Setup.greeting]
  split
  next => exact .inr ⟨_, _, rfl⟩
  next => exact .inl rfl

theorem abort_framed {client : Client capacity} (tick : Int) (framed : AllFramed client) :
    AllFramed (espMqttAbortConnection client tick) := by
  have closed : AllFramed (client.note (.closed tick)) := framed_silent rfl rfl framed
  exact framed_silent rfl rfl closed

section Sizes

variable (room : 3 ≤ capacity) (small : capacity ≤ 16386)

theorem connect_framed (setup : Setup capacity) (small : capacity ≤ 16386)
    {client : Client capacity} (write : Write) (read : Read) (framed : AllFramed client) :
    AllFramed (espMqttConnect setup client write read).2 := by
  have greeted : AllFramed (sendConnect setup client write) := by
    refine framed_note (sendConnect_trace setup small client write) ?_ framed
    rintro bytes ⟨⟩
    exact greeting_framed setup
  rcases espMqttConnect_cases setup client write read with silent | ⟨bytes, -, answered⟩
  next => rwa [silent]
  next =>
    rw [answered]
    exact framed_silent rfl rfl greeted

include room

theorem ping_framed {client : Client capacity} (write : Write) (framed : AllFramed client) :
    AllFramed (espMqttClientPing client write).2 := by
  refine framed_note (espMqttClientPing_trace room client write) ?_ framed
  rintro bytes ⟨⟩
  exact .inr ⟨_, _, rfl⟩

include small

theorem build_framed (call : MqttCall) (connection : MqttConnection capacity) (drawn : DrawnId) :
    Framed (call.build true connection drawn).sent := by
  rw [build_sent room small]
  split
  next => exact .inr ⟨_, _, rfl⟩
  next => exact .inl rfl

theorem move_framed {client later : Client capacity} (move : Move client later)
    (framed : AllFramed client) : AllFramed later := by
  cases move with
  | build call drawn plain => exact framed_unseen rfl framed
  | write write call drawn before plain built =>
    rw [mqttWriteData_fields]
    refine framed_note rfl ?_ framed
    rintro bytes ⟨⟩
    rw [built]
    exact build_framed room small call before drawn
  | received bytes inside => exact framed_silent rfl rfl framed
  | answered bytes inside pong => exact framed_silent rfl rfl framed
  | confirmed msgType event next confirms valid =>
    obtain ⟨-, outbox, rfl, -⟩ := isValidMqttMsg_some valid
    exact framed_silent rfl rfl framed
  | delivered fragment => exact framed_silent rfl rfl framed
  | enqueued tick => exact framed_unseen (enqueued_trace client tick) framed
  | pended msgId => exact framed_silent rfl rfl framed

theorem moves_framed {client later : Client capacity} (moves : Moves client later)
    (framed : AllFramed client) : AllFramed later :=
  moves.kept (fun _ _ move => move_framed room small move) framed

theorem step_framed {client next : Client capacity} (stepped : Step setup client next)
    (framed : AllFramed client) : AllFramed next := by
  have checked (now : Int) : AllFramed (client.note (.checked now)) :=
    framed_silent rfl rfl framed
  have begun : AllFramed (client.note .connecting) := framed_silent rfl rfl framed
  cases stepped with
  | unreachable tick top init => exact abort_framed tick begun
  | refused write read tick top init no =>
    exact abort_framed tick (connect_framed setup small write read begun)
  | accepted write read top init yes =>
    exact framed_silent rfl rfl (connect_framed setup small write read begun)
  | received later top connected moves =>
    have received : AllFramed later := moves_framed room small moves framed
    exact received
  | readFailed tick top connected => exact abort_framed tick framed
  | recent now here early => exact framed_unseen rfl (checked now)
  | silent now tick here late waiting => exact abort_framed tick (checked now)
  | pinged now write here late waiting written =>
    exact framed_unseen rfl (ping_framed room write (checked now))
  | unpinged now write tick here late waiting unwritten =>
    exact abort_framed tick (ping_framed room write (checked now))
  | cleaned now here => exact framed_unseen rfl framed
  | ended top wait once => exact framed_silent rfl rfl framed
  | waited now tick top wait past => exact framed_silent rfl rfl framed
  | waiting top wait => exact framed
  | called later moves connected => exact moves_framed room small moves framed
  | turnedAway apart => exact framed

end Sizes

end EspMqtt
