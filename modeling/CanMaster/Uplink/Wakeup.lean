import CanMaster.Control.Atomic

set_option autoImplicit false

namespace CanMaster

open Transition

/-- Everything that waits is `mqtt_transmit_task` for `net_tx`, `control_task` for an
`EV_CAN_RECEIVED` and `can_receive_task` for the next frame of the bus. -/
structure Quiet (s : State) : Prop where
  cs : s.cs = .canRequestWait
  noEvent : .canReceived ∉ s.controlEvents.items
  netTx : s.semaphores.netTx = false
  transmit : s.mqttTransmitPc = .takeNetTx
  receive : s.canReceivePc = .receive

def CanReceivePc.sending : CanReceivePc → Bool
  | .sendFrame _ => true
  | _ => false

-- A frame whose event has been sent and which is in no request yet.
def Announced (s : State) : Prop := s.rxCanQueue.items ≠ [] ∨ s.canReceivePc.sending = true

-- The task will look at `rxCanQueue` again before its next wait for `net_tx`.
def MqttTransmitPc.willRead : MqttTransmitPc → Bool
  | .countMessages | .sendStart | .openRequest | .recount _ => true
  | .drain _ cntMsg => 0 < cntMsg
  | _ => false

def Awake (s : State) : Prop :=
  .canReceived ∈ s.controlEvents.items ∨ s.semaphores.netTx = true ∨
    s.mqttTransmitPc.willRead = true

def MqttTransmitPc.reading : MqttTransmitPc → Bool
  | .countMessages | .openRequest | .recount _ => true
  | _ => false

-- The step uses up the last wake-up there is without a look at a frame: `control_task` drops
-- the event in a state that does not wait for it, or the queue is read while it is empty.
def SpendsWakeup (s : State) : Action → Prop
  | .control =>
      s.pending = [] ∧ s.controlEvents.items.head? = some .canReceived ∧
        s.cs ≠ .canRequestWait ∧ .canReceived ∉ s.controlEvents.items.tail ∧
        s.semaphores.netTx = false ∧ s.mqttTransmitPc.willRead = false
  | .mqttTransmit _ _ =>
      s.mqttTransmitPc.reading = true ∧ s.rxCanQueue.items = [] ∧
        .canReceived ∉ s.controlEvents.items ∧ s.semaphores.netTx = false
  | _ => False

instance (s : State) : Decidable (Announced s) := inferInstanceAs (Decidable (_ ∨ _))

instance (s : State) : (a : Action) → Decidable (SpendsWakeup s a)
  | .control | .mqttTransmit _ _ => inferInstanceAs (Decidable (_ ∧ _))
  | .canReceive _ | .canTransmit _ | .obdWait _ | .mqttClient _ _ =>
      inferInstanceAs (Decidable False)

/-- Whether, since the last announcement, a step has spent the last wake-up of a frame that
was already announced. -/
def noteWakeup (lost : Bool) (s : State) (a : Action) : Bool :=
  if .canReceived ∈ posted s a then false
  else lost || decide (Announced s ∧ SpendsWakeup s a)

def wakeupHistory : System (State × Bool) Action := atomicFirmware.observed false noteWakeup

theorem noteWakeup_eq_true {lost : Bool} {s : State} {a : Action} :
    noteWakeup lost s a = true ↔
      .canReceived ∉ posted s a ∧ (lost = true ∨ Announced s ∧ SpendsWakeup s a) := by
  by_cases post : .canReceived ∈ posted s a <;> simp [noteWakeup, post]

def Lost (s : State) : Prop := Announced s ∧ ¬ Awake s

theorem lost_react {s : State} {event : ControlEvent} {rest : List ControlEvent}
    (idle : s.pending = []) (head : s.controlEvents.items = event :: rest) :
    Lost (react s event) ↔ Lost s ∨ Announced s ∧ SpendsWakeup s .control := by
  have same := react_same s event
  have announced : Announced (react s event) ↔ Announced s := by
    simp [Announced, same.rxCanQueue, same.canReceivePc]
  have given := react_given s event .netTx
  have awake : Awake (react s event) ↔
      .canReceived ∈ rest ∨ (s.semaphores.netTx = true ∨ .give .netTx ∈ controlHandler s.cs event) ∨
        s.mqttTransmitPc.willRead = true := by
    simp only [Semaphores.given] at given
    simp [Awake, same.mqttTransmitPc, head, given]
  rw [Lost, announced, awake, netTx_givenOn]
  simp only [Lost, Awake, SpendsWakeup, head, idle, List.mem_cons, List.head?_cons, List.tail_cons,
    Option.some.injEq, eq_comm (a := event)]
  by_cases wake : event = .canReceived
  · subst wake
    simp
    tauto
  · have back : ¬ ControlEvent.canReceived = event := fun same => wake same.symm
    simp [back]

theorem lost_downlink {s t : State} {a : Action} (stepped : Step s a t)
    (downlink : a.Downlink) :
    Lost t ↔ .canReceived ∉ posted s a ∧ (Lost s ∨ Announced s ∧ SpendsWakeup s a) := by
  have same := downlink_sameUplink stepped downlink
  have other : a ≠ .control := by rintro rfl; exact downlink
  have fresh : .canReceived ∉ posted s a := downlink_posted downlink
  have keeps : ¬ SpendsWakeup s a := by cases a <;> first | exact downlink.elim | exact id
  simp [Lost, Announced, Awake, same.rxCanQueue, same.canReceivePc, same.netTx,
    same.mqttTransmitPc, other_events stepped other, fresh, keeps]

theorem lost_receive {s t : State} {bus : Option BusFrame} (stepped : Step s (.canReceive bus) t) :
    Lost t ↔ .canReceived ∉ posted s (.canReceive bus) ∧ Lost s := by
  cases stepped with
  | takeCanRx here given =>
    simp [Lost, Announced, Awake, posted, here, CanReceivePc.sending]
  | receiveFailed here => simp [posted, here]
  | receiveFrame bus here =>
    simp [Lost, Announced, Awake, posted, here, CanReceivePc.sending]
  | postCanReceived frame here room => simp [Lost, Awake, posted, here]
  | enqueueRx frame here room =>
    simp [Lost, Announced, Awake, posted, here, CanReceivePc.sending]

theorem lost_transmit {s t : State} {tv : Timeval} {attempt : PublishAttempt}
    (stepped : Step s (.mqttTransmit tv attempt) t) :
    Lost t ↔ Lost s ∨ Announced s ∧ SpendsWakeup s (.mqttTransmit tv attempt) := by
  cases stepped with
  | takeNetTx here given =>
    simp [Lost, Awake, SpendsWakeup, here, given, MqttTransmitPc.willRead, MqttTransmitPc.reading]
  | countNone here empty =>
    simp [Lost, Announced, Awake, SpendsWakeup, here, empty, MqttTransmitPc.willRead,
      MqttTransmitPc.reading]
  | countSome here waiting =>
    simp [Lost, Awake, SpendsWakeup, here, waiting, MqttTransmitPc.willRead]
  | postTransmitStart here room =>
    simp [Lost, Awake, SpendsWakeup, here, MqttTransmitPc.willRead, MqttTransmitPc.reading]
  | openEmpty here empty =>
    simp [Lost, Announced, Awake, SpendsWakeup, here, empty, MqttTransmitPc.willRead,
      MqttTransmitPc.reading]
  | openRequest here waiting =>
    simp [Lost, Awake, SpendsWakeup, here, waiting, MqttTransmitPc.willRead,
      List.length_pos_iff]
  | dequeueRx request cntMsg frame rest here more head =>
    simp [Lost, Awake, SpendsWakeup, here, more, MqttTransmitPc.willRead, MqttTransmitPc.reading]
  | dequeueFailed request cntMsg here more empty =>
    simp [SpendsWakeup, here, MqttTransmitPc.reading]
  | closeRequest request here =>
    simp [Lost, Announced, Awake, SpendsWakeup, here, MqttTransmitPc.willRead,
      MqttTransmitPc.reading]
  | recount request here =>
    by_cases empty : s.rxCanQueue.items = [] <;>
      simp [Lost, Announced, Awake, SpendsWakeup, here, empty, MqttTransmitPc.willRead,
        MqttTransmitPc.reading, List.length_pos_iff]
  | publish request here =>
    simp [Lost, Announced, Awake, SpendsWakeup, here, MqttTransmitPc.willRead,
      MqttTransmitPc.reading]
  | postTransmitEnd here room =>
    simp [Lost, Announced, Awake, SpendsWakeup, here, MqttTransmitPc.willRead,
      MqttTransmitPc.reading]
  | delayed here =>
    simp [Lost, Announced, Awake, SpendsWakeup, here, MqttTransmitPc.willRead,
      MqttTransmitPc.reading]

theorem lost_step {s t : State} {a : Action} (stepped : AtomicStep s a t) :
    Lost t ↔ .canReceived ∉ posted s a ∧ (Lost s ∨ Announced s ∧ SpendsWakeup s a) := by
  cases stepped with
  | react event rest idle head => simpa [posted] using lost_react idle head
  | resend next room =>
    simp [Lost, Announced, Awake, posted, SpendsWakeup, next]
  | other a t other stepped =>
    cases a with
    | control => contradiction
    | canReceive bus => simpa [SpendsWakeup] using lost_receive stepped
    | mqttTransmit tv attempt =>
      rw [lost_transmit stepped]
      simp only [posted]
      split <;> simp
    | canTransmit accepted => exact lost_downlink stepped trivial
    | obdWait stale => exact lost_downlink stepped trivial
    | mqttClient jdata stale => exact lost_downlink stepped trivial

theorem lost_reachable {s : State} {lost : Bool} (reached : wakeupHistory.Reachable (s, lost)) :
    lost = true ↔ Lost s := by
  apply atomic_induction (fun s lost => lost = true ↔ Lost s) _ _ reached
  next => simp [Lost, Announced, initialState, CanReceivePc.sending]
  next =>
    intro s lost a t _ stepped tracked
    rw [noteWakeup_eq_true, lost_step stepped, tracked]

theorem quiet_empty_iff {s : State} {lost : Bool} (reached : wakeupHistory.Reachable (s, lost))
    (quiet : Quiet s) : s.rxCanQueue.items = [] ↔ lost = false := by
  have asleep : ¬ Awake s := by
    simp [Awake, quiet.noEvent, quiet.netTx, quiet.transmit, MqttTransmitPc.willRead]
  have announced : Announced s ↔ s.rxCanQueue.items ≠ [] := by
    simp [Announced, quiet.receive, CanReceivePc.sending]
  have tracked := lost_reachable reached
  rw [Lost, announced] at tracked
  rw [← Bool.not_eq_true, tracked]
  simp [asleep]

def servedRun : List Action :=
  atomicStartUp ++ arrive ++ controls 1 ++ transmits 10 ++ controls 2 ++
    List.replicate 2 answer ++ controls 1 ++ timers 5 ++ controls 3

theorem served_empty : Quiet (atomicAfter servedRun) ∧
    (atomicAfter servedRun).rxCanQueue.items = [] := by
  have reached : wakeupHistory.Reachable (atomicAfter servedRun, false) := ⟨servedRun, rfl⟩
  have quiet : Quiet (atomicAfter servedRun) := ⟨rfl, by decide, rfl, rfl, rfl⟩
  exact ⟨quiet, (quiet_empty_iff reached quiet).mpr rfl⟩

-- The wake-up of the frame is spent before the frame is in the queue, and the timeout of the
-- cycle brings `control_task` back to wait for the next announcement.
def forgottenRun : List Action :=
  atomicStartUp ++ announce ++ controls 1 ++ transmits 3 ++ [.canReceive none] ++ timers 5 ++
    controls 3

theorem frame_forgotten : atomicFirmware.Reachable (atomicAfter forgottenRun) ∧
    Quiet (atomicAfter forgottenRun) ∧ (atomicAfter forgottenRun).rxCanQueue.items ≠ [] :=
  ⟨⟨forgottenRun, rfl⟩, ⟨rfl, by decide, rfl, rfl, rfl⟩, by decide⟩

end CanMaster
