import CanMaster.Firmware.Tasks

set_option autoImplicit false

namespace CanMaster

open Transition

inductive Step (s : State) : Action → State → Prop where
  | controlReceive (event : ControlEvent) (rest : List ControlEvent)
      (idle : s.pending = []) (head : s.controlEvents.items = event :: rest) :
      Step s .control { s with
        controlEvents := s.controlEvents.tail
        pending := controlHandler s.cs event }
  | controlGive (semaphore : Semaphore) (ops : List ControlOp)
      (next : s.pending = .give semaphore :: ops) :
      Step s .control { s with semaphores := s.semaphores.give semaphore, pending := ops }
  | controlChange (newState : ControlState) (ops : List ControlOp)
      (next : s.pending = .changeState newState :: ops) :
      Step s .control { s with prevState := s.cs, cs := newState, pending := ops }
  | controlSend (event : ControlEvent) (ops : List ControlOp)
      (next : s.pending = .send event :: ops)
      (room : s.controlEvents.items.length < controlQueueMax) :
      Step s .control { s with controlEvents := s.controlEvents.push event room, pending := ops }
  | takeCanRx {bus : Option BusFrame}
      (here : s.canReceivePc = .takeCanRx) (given : s.semaphores.canRx = true) :
      Step s (.canReceive bus) { s with
        semaphores := { s.semaphores with canRx := false }
        canReceivePc := .receive }
  | receiveFailed (here : s.canReceivePc = .receive) : Step s (.canReceive none) s
  | receiveFrame (bus : BusFrame) (here : s.canReceivePc = .receive) :
      Step s (.canReceive (some bus)) { s with
        cntRxCan := s.cntRxCan + 1
        canReceivePc := .sendEvent (stamp s.cntRxCan bus) }
  | postCanReceived {bus : Option BusFrame} (frame : CanMsgTimestamped)
      (here : s.canReceivePc = .sendEvent frame)
      (room : s.controlEvents.items.length < controlQueueMax) :
      Step s (.canReceive bus) { s with
        controlEvents := s.controlEvents.push .canReceived room
        canReceivePc := .sendFrame frame }
  | enqueueRx {bus : Option BusFrame} (frame : CanMsgTimestamped)
      (here : s.canReceivePc = .sendFrame frame)
      (room : s.rxCanQueue.items.length < canRxBuffer) :
      Step s (.canReceive bus) { s with
        rxCanQueue := s.rxCanQueue.push frame room
        canReceivePc := .receive }
  | takeCanTx {accepted : Bool}
      (here : s.canTransmitPc = .takeCanTx) (given : s.semaphores.canTx = true) :
      Step s (.canTransmit accepted) { s with
        semaphores := { s.semaphores with canTx := false }
        canTransmitPc := .receive }
  | dequeueTx {accepted : Bool} (frame : CanMsgTimestamped) (rest : List CanMsgTimestamped)
      (here : s.canTransmitPc = .receive) (head : s.txCanQueue.items = frame :: rest) :
      Step s (.canTransmit accepted) { s with
        txCanQueue := s.txCanQueue.tail
        canTransmitPc := .transmit { frame with msg := { frame.msg with flags := canMsgFlagNone } } }
  | transmitted {accepted : Bool} (frame : CanMsgTimestamped)
      (here : s.canTransmitPc = .transmit frame) :
      Step s (.canTransmit accepted) { s with canTransmitPc := .sendEvent }
  | postCanTransmitted {accepted : Bool} (here : s.canTransmitPc = .sendEvent)
      (room : s.controlEvents.items.length < controlQueueMax) :
      Step s (.canTransmit accepted) { s with
        controlEvents := s.controlEvents.push .canTransmitted room
        canTransmitPc := .receive }
  | takeNetTx {tv : Timeval} {attempt : PublishAttempt}
      (here : s.mqttTransmitPc = .takeNetTx) (given : s.semaphores.netTx = true) :
      Step s (.mqttTransmit tv attempt) { s with
        semaphores := { s.semaphores with netTx := false }
        mqttTransmitPc := .countMessages }
  | countNone {tv : Timeval} {attempt : PublishAttempt}
      (here : s.mqttTransmitPc = .countMessages) (empty : s.rxCanQueue.items = []) :
      Step s (.mqttTransmit tv attempt) { s with mqttTransmitPc := .delay }
  | countSome {tv : Timeval} {attempt : PublishAttempt}
      (here : s.mqttTransmitPc = .countMessages) (waiting : s.rxCanQueue.items ≠ []) :
      Step s (.mqttTransmit tv attempt) { s with mqttTransmitPc := .sendStart }
  | postTransmitStart {tv : Timeval} {attempt : PublishAttempt}
      (here : s.mqttTransmitPc = .sendStart)
      (room : s.controlEvents.items.length < controlQueueMax) :
      Step s (.mqttTransmit tv attempt) { s with
        controlEvents := s.controlEvents.push .netTransmitStart room
        mqttTransmitPc := .openRequest }
  | openEmpty {tv : Timeval} {attempt : PublishAttempt}
      (here : s.mqttTransmitPc = .openRequest) (empty : s.rxCanQueue.items = []) :
      Step s (.mqttTransmit tv attempt) { s with mqttTransmitPc := .publish none }
  | openRequest {tv : Timeval} {attempt : PublishAttempt}
      (here : s.mqttTransmitPc = .openRequest) (waiting : s.rxCanQueue.items ≠ []) :
      Step s (.mqttTransmit tv attempt) { s with
        mqttTransmitPc :=
          .drain
            { cntTransaction := s.cntTransaction
              starttime := (getTimestamp tv).toUInt32
              dataamount := s.rxCanQueue.items.length
              commands := [] }
            s.rxCanQueue.items.length }
  | dequeueRx {tv : Timeval} {attempt : PublishAttempt} (request : MasterRequest) (cntMsg : Nat)
      (frame : CanMsgTimestamped) (rest : List CanMsgTimestamped)
      (here : s.mqttTransmitPc = .drain request cntMsg) (more : 0 < cntMsg)
      (head : s.rxCanQueue.items = frame :: rest) :
      Step s (.mqttTransmit tv attempt) { s with
        rxCanQueue := s.rxCanQueue.tail
        mqttTransmitPc := .recount { request with commands := request.commands ++ [frame] } }
  | dequeueFailed {tv : Timeval} {attempt : PublishAttempt} (request : MasterRequest)
      (cntMsg : Nat) (here : s.mqttTransmitPc = .drain request cntMsg) (more : 0 < cntMsg)
      (empty : s.rxCanQueue.items = []) :
      Step s (.mqttTransmit tv attempt) s
  | closeRequest {tv : Timeval} {attempt : PublishAttempt} (request : MasterRequest)
      (here : s.mqttTransmitPc = .drain request 0) :
      Step s (.mqttTransmit tv attempt) { s with mqttTransmitPc := .publish (some request) }
  | recount {tv : Timeval} {attempt : PublishAttempt} (request : MasterRequest)
      (here : s.mqttTransmitPc = .recount request) :
      Step s (.mqttTransmit tv attempt) { s with
        mqttTransmitPc := .drain request s.rxCanQueue.items.length }
  | publish {tv : Timeval} {attempt : PublishAttempt} (request : Option MasterRequest)
      (here : s.mqttTransmitPc = .publish request) :
      Step s (.mqttTransmit tv attempt) { s with mqttTransmitPc := .sendEnd }
  | postTransmitEnd {tv : Timeval} {attempt : PublishAttempt}
      (here : s.mqttTransmitPc = .sendEnd)
      (room : s.controlEvents.items.length < controlQueueMax) :
      Step s (.mqttTransmit tv attempt) { s with
        controlEvents := s.controlEvents.push .netTransmitEnd room
        mqttTransmitPc := .delay }
  | delayed {tv : Timeval} {attempt : PublishAttempt} (here : s.mqttTransmitPc = .delay) :
      Step s (.mqttTransmit tv attempt) { s with mqttTransmitPc := .takeNetTx }
  | takeObdTxWait {stale : CanMsgTimestamped}
      (here : s.obdWaitPc = .takeObdTxWait) (given : s.semaphores.obdTxWait = true) :
      Step s (.obdWait stale) { s with
        semaphores := { s.semaphores with obdTxWait := false }
        obdWaitPc := .responseDelay }
  | responseDelayed {stale : CanMsgTimestamped} (here : s.obdWaitPc = .responseDelay) :
      Step s (.obdWait stale) { s with obdWaitPc := .sendPending (responsePending stale) }
  | enqueuePending {stale : CanMsgTimestamped} (frame : CanMsgTimestamped)
      (here : s.obdWaitPc = .sendPending frame)
      (room : s.txCanQueue.items.length < canTxBuffer) :
      Step s (.obdWait stale) { s with
        txCanQueue := s.txCanQueue.push frame room
        obdWaitPc := .bigDelay }
  | bigDelayed {stale : CanMsgTimestamped} (here : s.obdWaitPc = .bigDelay) :
      Step s (.obdWait stale) { s with obdWaitPc := .sendTimeout }
  | postBigTimeout {stale : CanMsgTimestamped} (here : s.obdWaitPc = .sendTimeout)
      (room : s.controlEvents.items.length < controlQueueMax) :
      Step s (.obdWait stale) { s with
        controlEvents := s.controlEvents.push .bigTimeout room
        obdWaitPc := .takeObdTxWait }
  | deliver {jdata : Option Json} {stale : CanMsgTimestamped} (idle : s.mqttPending = []) :
      Step s (.mqttClient jdata stale) { s with mqttPending := mqttApply stale jdata }
  | enqueueResponse {jdata : Option Json} {stale : CanMsgTimestamped}
      (frame : CanMsgTimestamped) (ops : List MqttOp)
      (next : s.mqttPending = .sendFrame frame :: ops)
      (room : s.txCanQueue.items.length < canTxBuffer) :
      Step s (.mqttClient jdata stale) { s with
        txCanQueue := s.txCanQueue.push frame room
        mqttPending := ops }
  | postNetReceived {jdata : Option Json} {stale : CanMsgTimestamped} (ops : List MqttOp)
      (next : s.mqttPending = .sendNetReceived :: ops)
      (room : s.controlEvents.items.length < controlQueueMax) :
      Step s (.mqttClient jdata stale) { s with
        controlEvents := s.controlEvents.push .netReceived room
        mqttPending := ops }

theorem post_eq_some {s t : State} {event : ControlEvent} :
    s.post event = some t ↔
      ∃ room : s.controlEvents.items.length < controlQueueMax,
        t = { s with controlEvents := s.controlEvents.push event room } := by
  simp only [State.post, Option.map_eq_some_iff, BoundedQueue.send_eq_some]
  constructor
  · rintro ⟨_, ⟨room, rfl⟩, rfl⟩
    exact ⟨room, rfl⟩
  · rintro ⟨room, rfl⟩
    exact ⟨_, ⟨room, rfl⟩, rfl⟩

theorem controlTask_step {s t : State} (stepped : controlTask s = some t) :
    Step s .control t := by
  unfold controlTask at stepped
  split at stepped
  next idle =>
    simp only [Option.map_eq_some_iff, Prod.exists, BoundedQueue.receive_eq_some] at stepped
    obtain ⟨event, _, ⟨⟨rest, head⟩, rfl⟩, rfl⟩ := stepped
    exact .controlReceive event rest idle head
  next semaphore ops next =>
    cases stepped
    exact .controlGive semaphore ops next
  next newState ops next =>
    cases stepped
    exact .controlChange newState ops next
  next event ops next =>
    obtain ⟨room, rfl⟩ := post_eq_some.mp stepped
    exact .controlSend event ops next room

theorem canReceiveTask_step {s t : State} {bus : Option BusFrame}
    (stepped : canReceiveTask s bus = some t) : Step s (.canReceive bus) t := by
  unfold canReceiveTask at stepped
  split at stepped
  next here =>
    split at stepped <;> cases stepped
    exact .takeCanRx here ‹_›
  next here =>
    cases bus <;> cases stepped
    · exact .receiveFailed here
    · exact .receiveFrame _ here
  next frame here =>
    obtain ⟨room, rfl⟩ := post_eq_some.mp stepped
    exact .postCanReceived frame here room
  next frame here =>
    simp only [Option.map_eq_some_iff, BoundedQueue.send_eq_some] at stepped
    obtain ⟨_, ⟨room, rfl⟩, rfl⟩ := stepped
    exact .enqueueRx frame here room

theorem canTransmitTask_step {s t : State} {accepted : Bool}
    (stepped : canTransmitTask s = some t) : Step s (.canTransmit accepted) t := by
  unfold canTransmitTask at stepped
  split at stepped
  next here =>
    split at stepped <;> cases stepped
    exact .takeCanTx here ‹_›
  next here =>
    simp only [Option.map_eq_some_iff, Prod.exists, BoundedQueue.receive_eq_some] at stepped
    obtain ⟨frame, _, ⟨⟨rest, head⟩, rfl⟩, rfl⟩ := stepped
    exact .dequeueTx frame rest here head
  next frame here =>
    cases stepped
    exact .transmitted frame here
  next here =>
    obtain ⟨room, rfl⟩ := post_eq_some.mp stepped
    exact .postCanTransmitted here room

theorem mqttTransmitTask_step {s t : State} {tv : Timeval} {attempt : PublishAttempt}
    (stepped : mqttTransmitTask s tv = some t) : Step s (.mqttTransmit tv attempt) t := by
  unfold mqttTransmitTask at stepped
  split at stepped
  next here =>
    split at stepped <;> cases stepped
    exact .takeNetTx here ‹_›
  next here =>
    cases stepped
    split
    next waiting => exact .countSome here (List.length_pos_iff.mp waiting)
    next empty => exact .countNone here (by simpa using empty)
  next here =>
    obtain ⟨room, rfl⟩ := post_eq_some.mp stepped
    exact .postTransmitStart here room
  next here =>
    simp only at stepped
    split at stepped <;> cases stepped
    next waiting => exact .openRequest here (List.length_pos_iff.mp waiting)
    next empty => exact .openEmpty here (by simpa using empty)
  next request cntMsg here =>
    split at stepped
    next more =>
      cases head : s.rxCanQueue.items with
      | nil =>
          simp only [BoundedQueue.receive, head, List.head?_nil, Option.map_none] at stepped
          cases stepped
          exact .dequeueFailed request cntMsg here more head
      | cons frame rest =>
          simp only [BoundedQueue.receive, head, List.head?_cons, Option.map_some] at stepped
          cases stepped
          exact .dequeueRx request cntMsg frame rest here more head
    next last =>
      cases stepped
      obtain rfl : cntMsg = 0 := by omega
      exact .closeRequest request here
  next request here =>
    cases stepped
    exact .recount request here
  next request here =>
    cases stepped
    exact .publish request here
  next here =>
    obtain ⟨room, rfl⟩ := post_eq_some.mp stepped
    exact .postTransmitEnd here room
  next here =>
    cases stepped
    exact .delayed here

theorem obdWaitTask_step {s t : State} {stale : CanMsgTimestamped}
    (stepped : obdWaitTask s stale = some t) : Step s (.obdWait stale) t := by
  unfold obdWaitTask at stepped
  split at stepped
  next here =>
    split at stepped <;> cases stepped
    exact .takeObdTxWait here ‹_›
  next here =>
    cases stepped
    exact .responseDelayed here
  next frame here =>
    simp only [Option.map_eq_some_iff, BoundedQueue.send_eq_some] at stepped
    obtain ⟨_, ⟨room, rfl⟩, rfl⟩ := stepped
    exact .enqueuePending frame here room
  next here =>
    cases stepped
    exact .bigDelayed here
  next here =>
    obtain ⟨room, rfl⟩ := post_eq_some.mp stepped
    exact .postBigTimeout here room

theorem mqttClientTask_step {s t : State} {jdata : Option Json} {stale : CanMsgTimestamped}
    (stepped : mqttClientTask s jdata stale = some t) : Step s (.mqttClient jdata stale) t := by
  unfold mqttClientTask at stepped
  split at stepped
  next idle =>
    cases stepped
    exact .deliver idle
  next frame ops next =>
    simp only [Option.map_eq_some_iff, BoundedQueue.send_eq_some] at stepped
    obtain ⟨_, ⟨room, rfl⟩, rfl⟩ := stepped
    exact .enqueueResponse frame ops next room
  next ops next =>
    obtain ⟨room, rfl⟩ := post_eq_some.mp stepped
    exact .postNetReceived ops next room
  next => cases stepped

theorem step_iff {s t : State} {a : Action} : firmware.step s a = some t ↔ Step s a t := by
  constructor
  · intro stepped
    cases a with
    | control => exact controlTask_step stepped
    | canReceive bus => exact canReceiveTask_step stepped
    | canTransmit accepted => exact canTransmitTask_step stepped
    | mqttTransmit tv attempt => exact mqttTransmitTask_step stepped
    | obdWait stale => exact obdWaitTask_step stepped
    | mqttClient jdata stale => exact mqttClientTask_step stepped
  · intro listed
    cases listed <;>
      simp_all [firmware, step, controlTask, canReceiveTask, canTransmitTask, mqttTransmitTask,
        obdWaitTask, mqttClientTask, post_eq_some, BoundedQueue.receive, BoundedQueue.send,
        List.length_pos_iff]

def posted (s : State) : Action → List ControlEvent
  | .control => []
  | .canReceive _ =>
      match s.canReceivePc with
      | .sendEvent _ => [.canReceived]
      | _ => []
  | .canTransmit _ => if s.canTransmitPc = .sendEvent then [.canTransmitted] else []
  | .mqttTransmit _ _ =>
      match s.mqttTransmitPc with
      | .sendStart => [.netTransmitStart]
      | .sendEnd => [.netTransmitEnd]
      | _ => []
  | .obdWait _ => if s.obdWaitPc = .sendTimeout then [.bigTimeout] else []
  | .mqttClient _ _ =>
      match s.mqttPending with
      | .sendNetReceived :: _ => [.netReceived]
      | _ => []

theorem other_events {s t : State} {a : Action} (stepped : Step s a t) (other : a ≠ .control) :
    t.controlEvents.items = s.controlEvents.items ++ posted s a := by
  cases stepped <;> simp_all [posted]

theorem other_control {s t : State} {a : Action} (stepped : Step s a t) (other : a ≠ .control) :
    t.cs = s.cs ∧ t.prevState = s.prevState ∧ t.pending = s.pending := by
  cases stepped <;> simp_all

-- `control_task` moves no other task and touches no queue of frames.
structure SameTasks (s t : State) : Prop where
  rxCanQueue : t.rxCanQueue = s.rxCanQueue
  txCanQueue : t.txCanQueue = s.txCanQueue
  canReceivePc : t.canReceivePc = s.canReceivePc
  canTransmitPc : t.canTransmitPc = s.canTransmitPc
  mqttTransmitPc : t.mqttTransmitPc = s.mqttTransmitPc
  obdWaitPc : t.obdWaitPc = s.obdWaitPc
  mqttPending : t.mqttPending = s.mqttPending

theorem SameTasks.trans {s t u : State} (first : SameTasks s t) (second : SameTasks t u) :
    SameTasks s u := by
  constructor
  · exact second.rxCanQueue.trans first.rxCanQueue
  · exact second.txCanQueue.trans first.txCanQueue
  · exact second.canReceivePc.trans first.canReceivePc
  · exact second.canTransmitPc.trans first.canTransmitPc
  · exact second.mqttTransmitPc.trans first.mqttTransmitPc
  · exact second.obdWaitPc.trans first.obdWaitPc
  · exact second.mqttPending.trans first.mqttPending

theorem control_sameTasks {s t : State} (stepped : Step s .control t) : SameTasks s t := by
  cases stepped <;> constructor <;> rfl

-- The tasks of one direction touch no queue, semaphore or program counter of the other.
def Action.Downlink : Action → Prop
  | .canTransmit _ | .obdWait _ | .mqttClient _ _ => True
  | _ => False

def Action.Uplink : Action → Prop
  | .canReceive _ | .mqttTransmit _ _ => True
  | _ => False

structure SameUplink (s t : State) : Prop where
  rxCanQueue : t.rxCanQueue = s.rxCanQueue
  canReceivePc : t.canReceivePc = s.canReceivePc
  mqttTransmitPc : t.mqttTransmitPc = s.mqttTransmitPc
  canRx : t.semaphores.canRx = s.semaphores.canRx
  netTx : t.semaphores.netTx = s.semaphores.netTx

structure SameDownlink (s t : State) : Prop where
  txCanQueue : t.txCanQueue = s.txCanQueue
  canTransmitPc : t.canTransmitPc = s.canTransmitPc
  obdWaitPc : t.obdWaitPc = s.obdWaitPc
  mqttPending : t.mqttPending = s.mqttPending
  canTx : t.semaphores.canTx = s.semaphores.canTx
  obdTxWait : t.semaphores.obdTxWait = s.semaphores.obdTxWait

theorem downlink_sameUplink {s t : State} {a : Action} (stepped : Step s a t)
    (downlink : a.Downlink) : SameUplink s t := by
  cases stepped <;> first | exact downlink.elim | constructor <;> rfl

theorem uplink_sameDownlink {s t : State} {a : Action} (stepped : Step s a t)
    (uplink : a.Uplink) : SameDownlink s t := by
  cases stepped <;> first | exact uplink.elim | constructor <;> rfl

theorem downlink_posted {s : State} {a : Action} (downlink : a.Downlink) :
    .canReceived ∉ posted s a := by
  cases a <;> first | exact downlink.elim | (simp only [posted]; split <;> simp)

theorem uplink_posted {s : State} {a : Action} (uplink : a.Uplink) :
    .netReceived ∉ posted s a ∧ .bigTimeout ∉ posted s a := by
  cases a <;> first | exact uplink.elim | (simp only [posted]; split <;> simp)

end CanMaster
