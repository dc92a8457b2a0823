import CanMaster.EspMqtt.Session

set_option autoImplicit false

namespace EspMqtt

open Transition

variable {capacity : Nat}

structure Ledger where
  unconfirmed : Nat
  requested : List (Nat × Nat)
  deriving DecidableEq

def Event.confirmed : Event → Option MqttMessageType
  | .subscribed => some .subscribe
  | .unsubscribed => some .unsubscribe
  | .published => some .publish
  | _ => none

def Ledger.next (ledger : Ledger) : Occurrence → Option Ledger
  | .requested msgType msgId =>
      some ⟨ledger.unconfirmed + 1, (msgType, msgId.toNat) :: ledger.requested⟩
  | .event event msgId =>
      match event.confirmed with
      | none => some ledger
      | some msgType =>
          if 0 < ledger.unconfirmed ∧ (msgType.code, msgId.toNat) ∈ ledger.requested then
            some { ledger with unconfirmed := ledger.unconfirmed - 1 }
          else none
  | _ => some ledger

def ledgers : System Ledger Occurrence := ⟨⟨0, []⟩, Ledger.next⟩

def Occurrence.isRequest : Occurrence → Bool
  | .requested _ _ => true
  | _ => false

def Occurrence.isConfirmation : Occurrence → Bool
  | .event told _ => told.confirmed.isSome
  | _ => false

theorem ledger_counts {trace : List Occurrence} {ledger later : Ledger}
    (ran : ledgers.run ledger trace = some later) :
    ledger.unconfirmed + trace.countP Occurrence.isRequest =
      later.unconfirmed + trace.countP Occurrence.isConfirmation := by
  induction trace generalizing ledger with
  | nil =>
    cases ran
    rfl
  | cons occurrence rest ih =>
    obtain ⟨next, stepped, continued⟩ := Option.bind_eq_some_iff.mp ran
    have counted := ih continued
    simp only [List.countP_cons]
    cases occurrence with
    | requested msgType msgId =>
      cases stepped
      simp only [Occurrence.isRequest, Occurrence.isConfirmation, if_true, Bool.false_eq_true,
        if_false]
      dsimp only at counted
      omega
    | event event msgId =>
      simp only [ledgers, Ledger.next] at stepped
      simp only [Occurrence.isRequest, Occurrence.isConfirmation]
      split at stepped
      next none =>
        cases stepped
        simpa [none] using counted
      next msgType confirms =>
        split at stepped
        next allowed =>
          cases stepped
          have positive := allowed.1
          dsimp only at counted
          simp only [confirms, Option.isSome_some, if_true, Bool.false_eq_true, if_false]
          omega
        next => cases stepped
    | _ =>
      cases stepped
      simpa [Occurrence.isRequest, Occurrence.isConfirmation] using counted

-- After a CONNECT it is the pending message, and no event tells of its confirmation.
def Ledger.Knows (ledger : Ledger) (msgType msgId : Nat) : Prop :=
  (msgType, msgId) ∈ ledger.requested ∨ msgType = 0 ∨ msgType = MqttMessageType.connect.code

structure Books (client : Client capacity) (ledger : Ledger) : Prop where
  counted : ledger.unconfirmed = client.pendingMsgCount
  pending : ledger.Knows client.pendingMsgType client.pendingMsgId.toNat
  kept : ∀ item ∈ client.outbox, ledger.Knows item.msgType item.msgId

def KeepsBooks : Client capacity → Client capacity → Prop := Drives ledgers Client.trace Books

theorem books_unseen {client later : Client capacity} (same : later.trace = client.trace)
    (count : later.pendingMsgCount = client.pendingMsgCount)
    (type : later.pendingMsgType = client.pendingMsgType)
    (id : later.pendingMsgId = client.pendingMsgId) (kept : later.outbox.Sublist client.outbox) :
    KeepsBooks client later :=
  .unseen same fun _ books =>
    ⟨books.counted.trans count.symm, by rw [type, id]; exact books.pending,
      fun item inside => books.kept item (kept.subset inside)⟩

theorem books_note {client later : Client capacity} {occurrence : Occurrence}
    (grown : later.trace = client.trace ++ [occurrence])
    (count : later.pendingMsgCount = client.pendingMsgCount)
    (type : later.pendingMsgType = client.pendingMsgType)
    (id : later.pendingMsgId = client.pendingMsgId) (kept : later.outbox = client.outbox)
    (idle : ∀ ledger, ledgers.step ledger occurrence = some ledger) : KeepsBooks client later :=
  .seen occurrence grown fun ledger books =>
    ⟨ledger, idle ledger, books.counted.trans count.symm, by rw [type, id]; exact books.pending,
      by rw [kept]; exact books.kept⟩

theorem confirms_confirmed {msgType : MqttMessageType} {event : Event}
    (confirms : Confirms msgType event) : event.confirmed = some msgType := by
  cases confirms <;> rfl

theorem confirms_code {msgType : MqttMessageType} {event : Event}
    (confirms : Confirms msgType event) :
    ¬ (msgType.code = 0 ∨ msgType.code = MqttMessageType.connect.code) := by
  cases confirms <;> decide

theorem move_books {client later : Client capacity} (move : Move client later) :
    KeepsBooks client later := by
  cases move with
  | build call drawn plain => exact books_unseen rfl rfl rfl rfl (List.Sublist.refl _)
  | write write call drawn before plain built =>
    rw [mqttWriteData_fields]
    exact books_note rfl rfl rfl rfl rfl fun _ => rfl
  | received bytes inside => exact books_note rfl rfl rfl rfl rfl fun _ => rfl
  | answered bytes inside pong => exact books_note rfl rfl rfl rfl rfl fun _ => rfl
  | confirmed msgType event next confirms valid =>
    obtain ⟨counted, outbox, rfl, found⟩ := isValidMqttMsg_some valid
    have shown := confirms_confirmed confirms
    refine .seen (.event event (mqttGetId client.inBuffer.bytes capacity)) rfl
      fun ledger books => ?_
    have known : ledger.Knows msgType.code (mqttGetId client.inBuffer.bytes capacity).toNat := by
      rcases found with deleted | ⟨-, type, id⟩
      · obtain ⟨before, item, after, whole, -, matched, -⟩ := outboxDelete_some deleted
        rw [← matched.1, ← matched.2]
        exact books.kept item (by rw [whole]; simp)
      · rw [← type, ← id]
        exact books.pending
    have positive : 0 < ledger.unconfirmed := by
      rw [books.counted]
      exact Nat.pos_of_ne_zero counted
    refine ⟨{ ledger with unconfirmed := ledger.unconfirmed - 1 }, ?_, ?_, books.pending, ?_⟩
    next =>
      simp only [ledgers, Ledger.next, shown]
      exact if_pos ⟨positive, known.resolve_right (confirms_code confirms)⟩
    next => exact congrArg (· - 1) books.counted
    next =>
      intro item inside
      refine books.kept item ?_
      rcases found with deleted | ⟨same, -⟩
      · obtain ⟨before, gone, after, whole, left, -⟩ := outboxDelete_some deleted
        have there : item ∈ before ++ after := left ▸ inside
        rw [whole]
        rcases List.mem_append.mp there with early | late
        · exact List.mem_append_left _ early
        · exact List.mem_append_right _ (List.mem_cons_of_mem gone late)
      · exact same ▸ inside
  | delivered fragment => exact books_note rfl rfl rfl rfl rfl fun _ => rfl
  | enqueued tick =>
    rw [mqttEnqueue]
    split
    next =>
      refine .unseen rfl fun ledger books => ⟨books.counted, books.pending, fun item inside => ?_⟩
      rcases List.mem_append.mp inside with old | new
      · exact books.kept item old
      · cases List.mem_singleton.mp new
        exact books.pending
    next => exact .refl client
  | pended msgId =>
    refine .seen (.requested (mqttGetType client.connection.outbound) msgId) rfl
      fun ledger books => ⟨_, rfl, congrArg (· + 1) books.counted, .inl (by simp [pend]), ?_⟩
    intro item inside
    exact (books.kept item inside).imp (List.mem_cons_of_mem _) id

theorem moves_books {client later : Client capacity} (moves : Moves client later) :
    KeepsBooks client later := by
  induction moves with
  | refl => exact .refl client
  | tail _ move ih => exact ih.trans (move_books move)

variable {setup : Setup capacity}

theorem outbound_type {connection : MqttConnection capacity} (some : connection.sent ≠ []) :
    mqttGetType connection.outbound = mqttGetType connection.sent := by
  have sent : connection.sent = connection.outbound.take connection.message.length := by
    simp [MqttConnection.sent, MqttConnection.outbound, Buffer.slice]
  rw [sent] at some ⊢
  have positive : 0 < connection.message.length := by
    by_contra none
    rw [Nat.eq_zero_of_not_pos none, List.take_zero] at some
    exact some rfl
  simp only [mqttGetType, byteAt, List.getD_eq_getElem?_getD, List.getElem?_take_of_lt positive]

theorem greeting_type (fits : setup.greeting ≠ []) :
    mqttGetType setup.greeting = MqttMessageType.connect.code := by
  rw [Setup.greeting] at fits ⊢
  split
  next => exact (fixedHeader_fields _ _ _ _ _).1
  next full => exact absurd (if_neg full) fits

theorem sendConnect_books (small : capacity ≤ 16386) (fits : setup.greeting ≠ [])
    (client : Client capacity) (write : Write) :
    KeepsBooks client (sendConnect setup client write) := by
  have sent := sendConnect_sent setup small client write
  refine .seen (.wrote setup.greeting write) (sendConnect_trace setup small client write)
    fun ledger books => ⟨ledger, rfl, books.counted, .inr (.inr ?_), books.kept⟩
  have type := outbound_type (sent ▸ fits : (sendConnect setup client write).connection.sent ≠ [])
  rw [sent, greeting_type fits] at type
  exact type

theorem connect_books (small : capacity ≤ 16386) (fits : setup.greeting ≠ [])
    (client : Client capacity) (write : Write) (read : Read) :
    KeepsBooks client (espMqttConnect setup (client.note .connecting) write read).2 := by
  have begun : KeepsBooks client (client.note .connecting) :=
    books_note rfl rfl rfl rfl rfl fun _ => rfl
  have greeted := begun.trans (sendConnect_books small fits (client.note .connecting) write)
  rcases espMqttConnect_cases setup (client.note .connecting) write read with
    silent | ⟨bytes, -, answered⟩
  next =>
    rw [silent]
    exact greeted
  next =>
    rw [answered]
    exact greeted.trans (books_note rfl rfl rfl rfl rfl fun _ => rfl)

theorem abort_books (client : Client capacity) (tick : Int) :
    KeepsBooks client (espMqttAbortConnection client tick) := by
  intro ledger books
  refine ⟨[.closed tick, .event .disconnected (mqttGetId client.inBuffer.bytes capacity)], ledger,
    ?_, rfl, books.counted, books.pending, books.kept⟩
  simp [espMqttAbortConnection, espMqttDispatchEvent, Client.note]

theorem checked_books (client : Client capacity) (now : Int) :
    KeepsBooks client (client.note (.checked now)) :=
  books_note rfl rfl rfl rfl rfl fun _ => rfl

theorem ping_books (client : Client capacity) (write : Write) :
    KeepsBooks client (espMqttClientPing client write).2 := by
  rw [espMqttClientPing, mqttWriteData_fields]
  exact books_note rfl rfl rfl rfl rfl fun _ => rfl

theorem cleaned_sublist (client : Client capacity) (now : Int) :
    (outboxTask client now).outbox.Sublist client.outbox :=
  (outboxCleanup_evicted _ _).1.sublist.trans List.filter_sublist

theorem step_books (small : capacity ≤ 16386) (fits : setup.greeting ≠ [])
    {client next : Client capacity} (stepped : Step setup client next) :
    KeepsBooks client next := by
  cases stepped with
  | unreachable tick top init =>
    have begun : KeepsBooks client (client.note .connecting) :=
      books_note rfl rfl rfl rfl rfl fun _ => rfl
    exact begun.trans (abort_books _ tick)
  | refused write read tick top init no =>
    exact (connect_books small fits client write read).trans (abort_books _ tick)
  | accepted write read top init yes =>
    exact (connect_books small fits client write read).trans
      (books_note rfl rfl rfl rfl rfl fun _ => rfl)
  | received next top connected moves =>
    exact (moves_books moves).trans (books_unseen rfl rfl rfl rfl (List.Sublist.refl _))
  | readFailed tick top connected => exact abort_books client tick
  | recent now here early =>
    exact (checked_books client now).trans (books_unseen rfl rfl rfl rfl (List.Sublist.refl _))
  | silent now tick here late waiting => exact (checked_books client now).trans (abort_books _ tick)
  | pinged now write here late waiting written =>
    exact ((checked_books client now).trans (ping_books _ write)).trans
      (books_unseen rfl rfl rfl rfl (List.Sublist.refl _))
  | unpinged now write tick here late waiting unwritten =>
    exact ((checked_books client now).trans (ping_books _ write)).trans (abort_books _ tick)
  | cleaned now here => exact books_unseen rfl rfl rfl rfl (cleaned_sublist client now)
  | ended top wait once => exact books_note rfl rfl rfl rfl rfl fun _ => rfl
  | waited now tick top wait past => exact books_note rfl rfl rfl rfl rfl fun _ => rfl
  | waiting top wait => exact .refl client
  | called next moves connected => exact moves_books moves
  | turnedAway apart => exact .refl client

theorem firmware_greeting (protocol311 : Bool) (first second third : UInt8)
    (outBuffer inBuffer : Buffer (bufferSize mqttCfg)) (keepaliveTick reconnectTick : Int) :
    (espMqttSetup mqttCfg protocol311 (platformCreateIdString first second third) outBuffer
      inBuffer keepaliveTick reconnectTick).greeting ≠ [] := by
  have long : (connectBody protocol311 (espMqttSetConfig mqttCfg
      (platformCreateIdString first second third))).length = 24 := by
    cases protocol311 <;> rfl
  have short : 3 + 24 ≤ bufferSize mqttCfg := by decide
  rw [Setup.greeting, if_pos ⟨List.cons_ne_nil _ _, long ▸ short⟩]
  exact List.cons_ne_nil _ _

def subscribes : List Action :=
  [joins, .subscribe [114] 2 drawnId 8 ⟨8, 9⟩,
    .receive ⟨some [144, 3, 0, 9, 2], ⟨0, 0⟩, drawnId, []⟩ 0]

end EspMqtt
