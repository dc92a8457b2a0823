import CanMaster.Control.Restart
import CanMaster.Uplink.Blocked
import CanMaster.Uplink.Filling

set_option autoImplicit false

namespace CanMaster

open Transition

-- Some finite continuation has `can_transmit_task` take a frame out of `txCanQueue`.
def DownlinkDrains (s : State) : Prop :=
  ∃ t u accepted, firmware.Reaches s t ∧ firmware.step t (.canTransmit accepted) = some u ∧
    u.txCanQueue.items.length < t.txCanQueue.items.length

-- The MQTT callback is not blocked: it is idle, or has only its event left to send.
def ClientFree (s : State) : Prop :=
  s.mqttPending = [] ∨ ∃ ops, s.mqttPending = .sendNetReceived :: ops

def AnswerDue (s : State) : Prop := GiveDue .canTx .waitResponse .netReceived s

instance (s : State) : Decidable (AnswerDue s) := inferInstanceAs (Decidable (GiveDue _ _ _ s))

theorem DownlinkDrains.of_reaches {s t : State} (reaches : firmware.Reaches s t)
    (drains : DownlinkDrains t) : DownlinkDrains s := by
  obtain ⟨u, v, accepted, later, rest⟩ := drains
  exact ⟨u, v, accepted, reaches.trans later, rest⟩

theorem receive_downlink {s : State} (waiting : s.txCanQueue.items ≠ [])
    (here : s.canTransmitPc = .receive) : DownlinkDrains s := by
  obtain ⟨frame, rest, head⟩ := List.exists_cons_of_ne_nil waiting
  have stepped : Step s (.canTransmit true) _ := .dequeueTx frame rest here head
  refine ⟨s, _, _, System.reaches_refl _ _, step_iff.mpr stepped, ?_⟩
  simp [head]

theorem given_downlink {s : State} (waiting : s.txCanQueue.items ≠ [])
    (here : s.canTransmitPc = .takeCanTx) (given : s.semaphores.canTx = true) :
    DownlinkDrains s := by
  have stepped : Step s (.canTransmit true) _ := .takeCanTx here given
  exact .of_reaches (System.reaches_step (step_iff.mpr stepped)) (receive_downlink waiting rfl)

theorem answered_downlink {s : State} (alive : ControlAlive s) (due : AnswerDue s)
    (waiting : s.txCanQueue.items ≠ []) (here : s.canTransmitPc = .takeCanTx) :
    DownlinkDrains s := by
  obtain ⟨t, ran, _, _, given⟩ := control_gives canTx_givenOn (by decide) alive due
  have same := ran.sameTasks
  apply DownlinkDrains.of_reaches ran.reaches
  apply given_downlink _ (same.canTransmitPc.trans here) given
  rwa [same.txCanQueue]

-- A call of the callback ends with its event or with a fault.
def EndsLast : List MqttOp → Prop
  | [] => True
  | .sendFrame _ :: ops => EndsLast ops
  | _ :: ops => ops = []

theorem mqttApply_endsLast (canM : CanMsgTimestamped) (jdata : Option Json) :
    EndsLast (mqttApply canM jdata) := by
  cases jdata with
  | none => trivial
  | some jdata =>
    simp only [mqttApply]
    induction (requestCanSend canM jdata).frames with
    | nil => split <;> rfl
    | cons frame rest ih => exact ih

theorem endsLast_step {s t : State} {a : Action} (stepped : Step s a t)
    (ends : EndsLast s.mqttPending) : EndsLast t.mqttPending := by
  cases stepped with
  | deliver idle => exact mqttApply_endsLast _ _
  | enqueueResponse frame ops next room =>
    rw [next] at ends
    exact ends
  | postNetReceived ops next room =>
    rw [next] at ends
    obtain rfl : ops = [] := ends
    trivial
  | _ => exact ends

theorem endsLast_reachable {s : State} (reached : firmware.Reachable s) :
    EndsLast s.mqttPending := by
  have start : EndsLast firmware.init.mqttPending := trivial
  exact System.reachable_invariant start
    (fun _ _ _ stepped => endsLast_step (step_iff.mp stepped)) reached

structure Hopeful (s : State) : Prop where
  reached : firmware.Reachable s
  alive : ControlAlive s
  client : ClientFree s
  transmit : s.canTransmitPc = .takeCanTx
  waiting : s.txCanQueue.items ≠ []

theorem hopeful_same {s t : State} (hopeful : Hopeful s) (reaches : firmware.Reaches s t)
    (alive : ControlAlive t) (client : t.mqttPending = s.mqttPending)
    (transmit : t.canTransmitPc = s.canTransmitPc) (queue : t.txCanQueue = s.txCanQueue) :
    Hopeful t where
  reached := System.Reaches.trans hopeful.reached reaches
  alive := alive
  client := by
    unfold ClientFree
    rw [client]
    exact hopeful.client
  transmit := transmit.trans hopeful.transmit
  waiting := queue ▸ hopeful.waiting

theorem serveRun_downlink {s t : State} (ran : ServeRun s t) :
    t.mqttPending = s.mqttPending ∧ t.canTransmitPc = s.canTransmitPc ∧
      t.txCanQueue = s.txCanQueue := by
  induction ran with
  | refl => exact ⟨rfl, rfl, rfl⟩
  | tail _ stepped ih =>
    obtain ⟨client, transmit, queue⟩ := ih
    rcases stepped with control | uplink
    next =>
      have same := control_sameTasks control
      exact ⟨same.mqttPending.trans client, same.canTransmitPc.trans transmit,
        same.txCanQueue.trans queue⟩
    next =>
      have same := uplink_sameDownlink uplink trivial
      exact ⟨same.mqttPending.trans client, same.canTransmitPc.trans transmit,
        same.txCanQueue.trans queue⟩

theorem hopeful_serve {s t : State} (hopeful : Hopeful s) (ran : ServeRun s t)
    (alive : ControlAlive t) : Hopeful t := by
  obtain ⟨client, transmit, queue⟩ := serveRun_downlink ran
  exact hopeful_same hopeful ran.reaches alive client transmit queue

theorem ControlRun.serve {s t : State} (ran : ControlRun s t) : ServeRun s t := by
  induction ran with
  | refl => exact .refl
  | tail _ stepped ih => exact ih.tail (.inl stepped)

-- Where an own `EV_START` does not lead out of a set of states, settling does not either.
theorem hopeful_settles (within : ControlState → Prop)
    (closed : ∀ cs, within cs → within (controlNext cs .start)) {s : State} (hopeful : Hopeful s)
    (inside : within (consumedState s)) :
    ∃ t, ControlRun s t ∧ Hopeful t ∧ Settled t ∧ within t.cs := by
  obtain ⟨t, ran, alive, settled⟩ := control_settles hopeful.alive
  have kept (u v : State) (stepped : Step u .control v)
      (held : Handling u.cs u.pending ∧ within (consumedState u)) :
      Handling v.cs v.pending ∧ within (consumedState v) := by
    refine ⟨handling_control stepped held.1, ?_⟩
    rcases consumedState_control stepped held.1 with same | next
    next => rw [same]; exact held.2
    next => rw [next]; exact closed _ held.2
  have there := (ran.invariant kept ⟨hopeful.alive.handling, inside⟩).2
  rw [consumedState_settled settled] at there
  exact ⟨t, ran, hopeful_serve hopeful ran.serve alive, settled, there⟩

theorem netReceived_reaches {s : State} (hopeful : Hopeful s) (settled : Settled s) :
    ∃ room, firmware.Reaches s
      { s with controlEvents := s.controlEvents.push .netReceived room, mqttPending := [] } := by
  have room : s.controlEvents.items.length < controlQueueMax := by simp [settled.2]
  refine ⟨room, ?_⟩
  have posts (u : State) (next : u.mqttPending = [.sendNetReceived])
      (free : u.controlEvents.items.length < controlQueueMax) :
      firmware.Reaches u
        { u with controlEvents := u.controlEvents.push .netReceived free, mqttPending := [] } := by
    have stepped : Step u answer _ := .postNetReceived [] next free
    exact System.reaches_step (step_iff.mpr stepped)
  rcases hopeful.client with idle | ⟨ops, next⟩
  next =>
    have stepped : Step s answer _ := .deliver idle
    exact .head (step_iff.mpr stepped) (posts { s with mqttPending := _ } rfl room)
  next =>
    have ends := endsLast_reachable hopeful.reached
    rw [next] at ends
    obtain rfl : ops = [] := ends
    exact posts s next room

theorem waitResponse_downlink {s : State} (hopeful : Hopeful s)
    (there : consumedState s = .waitResponse) : DownlinkDrains s := by
  obtain ⟨t, ran, later, settled, here⟩ := hopeful_settles (· = .waitResponse)
    (fun cs same => by rw [same]; rfl) hopeful there
  obtain ⟨room, reaches⟩ := netReceived_reaches later settled
  apply DownlinkDrains.of_reaches (ran.reaches.trans reaches)
  apply answered_downlink
  next => exact controlAlive_of_idle later.alive.handling settled.1
  next =>
    right
    right
    simp [settled.1, settled.2, here, landing, ConsumedIn]
  next => exact later.waiting
  next => exact later.transmit

def endRank (waiting : Nat) : MqttTransmitPc → Nat
  | .sendEnd => 0
  | .publish _ => 1
  | .drain _ cntMsg => if 0 < cntMsg then 3 * waiting + 3 else 2
  | .recount _ => 3 * waiting + 4
  | .openRequest => 3 * waiting + 5
  | .sendStart => 3 * waiting + 6
  | .countMessages => 3 * waiting + 7
  | .takeNetTx => 3 * waiting + 8
  | .delay => 3 * waiting + 9

-- The task is inside a request, or it will find a frame at its next look at the queue.
def Sending (s : State) : Prop :=
  match s.mqttTransmitPc with
  | .takeNetTx | .delay => WakeDue s ∧ s.rxCanQueue.items ≠ []
  | .countMessages => s.rxCanQueue.items ≠ []
  | _ => True

def stateRank (s : State) : Nat :=
  if consumedState s = .waitResponse then 0
  else 1 + endRank s.rxCanQueue.items.length s.mqttTransmitPc

def Requesting (s : State) : Prop :=
  Filling s ∧ (consumedState s = .waitResponse ∨ consumedState s = .sendRequest ∧ Sending s)

theorem requesting_control {s t : State} (stepped : Step s .control t)
    (handling : Handling s.cs s.pending) (requesting : Requesting s) :
    Requesting t ∧ stateRank t = stateRank s := by
  have same := control_sameTasks stepped
  obtain ⟨filling, goes⟩ := requesting
  have kept : consumedState t = consumedState s := by
    rcases consumedState_control stepped handling with still | next
    next => exact still
    next => rcases goes with here | ⟨here, _⟩ <;> rw [next, here] <;> rfl
  refine ⟨⟨filling_step stepped filling, ?_⟩, ?_⟩
  · rw [kept]
    refine goes.imp id fun ⟨here, sending⟩ => ⟨here, ?_⟩
    unfold Sending at sending ⊢
    rw [same.mqttTransmitPc, same.rxCanQueue]
    simpa only [wakeDue_control stepped handling] using sending
  · unfold stateRank
    rw [kept, same.mqttTransmitPc, same.rxCanQueue]

theorem requesting_transmit {s : State} (settled : Settled s) (requesting : Requesting s)
    (waits : consumedState s ≠ .waitResponse) :
    ∃ t, Step s anyTransmit t ∧ Requesting t ∧ stateRank t < stateRank s := by
  obtain ⟨filling, goes⟩ := requesting
  obtain ⟨here, sending⟩ := goes.resolve_left waits
  have room : s.controlEvents.items.length < controlQueueMax := by simp [settled.2]
  have moves (t : State) (stepped : Step s anyTransmit t) (still : Sending t)
      (same : (posted s anyTransmit).foldl controlNext .sendRequest = .sendRequest)
      (lower : endRank t.rxCanQueue.items.length t.mqttTransmitPc <
        endRank s.rxCanQueue.items.length s.mqttTransmitPc) :
      ∃ t, Step s anyTransmit t ∧ Requesting t ∧ stateRank t < stateRank s := by
    have there : consumedState t = .sendRequest := by
      rw [consumedState_other stepped (by simp [anyTransmit]), here, same]
    refine ⟨t, stepped, ⟨filling_step stepped filling, .inr ⟨there, still⟩⟩, ?_⟩
    simpa [stateRank, here, there] using lower
  cases pc : s.mqttTransmitPc with
  | takeNetTx =>
    simp only [Sending, pc] at sending
    have given : s.semaphores.netTx = true := (giveDue_settled settled).mp sending.1
    apply moves _ (.takeNetTx pc given) sending.2 <;> simp [posted, anyTransmit, pc, endRank]
  | delay =>
    simp only [Sending, pc] at sending
    apply moves _ (.delayed pc) sending <;> simp [posted, anyTransmit, pc, endRank]
  | countMessages =>
    simp only [Sending, pc] at sending
    apply moves _ (.countSome pc sending) trivial <;> simp [posted, anyTransmit, pc, endRank]
  | sendStart =>
    apply moves _ (.postTransmitStart pc room) trivial <;> simp [posted, anyTransmit, pc, endRank]
    rfl
  | openRequest =>
    simp only [Filling, Fills, pc] at filling
    apply moves _ (.openRequest pc (List.length_pos_iff.mp filling)) trivial <;>
      simp [posted, anyTransmit, pc, endRank, filling]
  | drain request cntMsg =>
    simp only [Filling, Fills, pc] at filling
    by_cases more : 0 < cntMsg
    next =>
      have waiting : s.rxCanQueue.items ≠ [] := List.length_pos_iff.mp (by omega)
      obtain ⟨frame, rest, head⟩ := List.exists_cons_of_ne_nil waiting
      apply moves _ (.dequeueRx request cntMsg frame rest pc more head) trivial
      next => simp [posted, anyTransmit, pc]
      next =>
        simp only [endRank, pc, more, if_true, BoundedQueue.tail_items, head, List.tail_cons,
          List.length_cons]
        omega
    next =>
      obtain rfl : cntMsg = 0 := by omega
      apply moves _ (.closeRequest request pc) trivial <;>
        simp [posted, anyTransmit, pc, endRank]
  | recount request =>
    apply moves _ (.recount request pc) trivial
    next => simp [posted, anyTransmit, pc]
    next =>
      simp only [endRank, pc]
      split <;> omega
  | publish request =>
    apply moves _ (.publish request pc) trivial <;> simp [posted, anyTransmit, pc, endRank]
  | sendEnd =>
    have stepped : Step s anyTransmit _ := .postTransmitEnd pc room
    have there := consumedState_other stepped (by simp [anyTransmit])
    simp only [posted, anyTransmit, pc, here, List.foldl_cons, List.foldl_nil] at there
    have waits : consumedState _ = .waitResponse := there
    refine ⟨_, stepped, ⟨filling_step stepped filling, .inl waits⟩, ?_⟩
    simp only [stateRank, waits, here, if_true, reduceCtorEq, if_false]
    omega

theorem sending_downlink {s : State} (hopeful : Hopeful s) (here : consumedState s = .sendRequest)
    (sending : Sending s) : DownlinkDrains s := by
  have start : Requesting s := ⟨filling_reachable hopeful.reached, .inr ⟨here, sending⟩⟩
  obtain ⟨t, ran, alive, _, there⟩ :=
    serves stateRank (fun _ _ stepped handling => requesting_control stepped handling)
      (fun _ _ settled requesting waits => requesting_transmit settled requesting waits)
      hopeful.alive start
  exact .of_reaches ran.reaches (waitResponse_downlink (hopeful_serve hopeful ran alive) there)

structure Announces (s t : State) : Prop where
  reaches : firmware.Reaches s t
  events : t.controlEvents.items = [.canReceived]
  queued : t.rxCanQueue.items ≠ []
  cs : t.cs = s.cs
  pending : t.pending = s.pending
  mqttTransmitPc : t.mqttTransmitPc = s.mqttTransmitPc
  netTx : t.semaphores.netTx = s.semaphores.netTx
  mqttPending : t.mqttPending = s.mqttPending
  canTransmitPc : t.canTransmitPc = s.canTransmitPc
  txCanQueue : t.txCanQueue = s.txCanQueue

theorem announces_head {s t : State} {bus : Option BusFrame}
    (stepped : Step s (.canReceive bus) t) (later : ∃ u, Announces t u) : ∃ u, Announces s u := by
  obtain ⟨u, rest⟩ := later
  obtain ⟨cs, _, pending⟩ := other_control stepped (by simp)
  have down := uplink_sameDownlink stepped trivial
  have same : t.mqttTransmitPc = s.mqttTransmitPc ∧ t.semaphores.netTx = s.semaphores.netTx := by
    cases stepped <;> exact ⟨rfl, rfl⟩
  refine ⟨u, ?_⟩
  constructor
  · exact .head (step_iff.mpr stepped) rest.reaches
  · exact rest.events
  · exact rest.queued
  · exact rest.cs.trans cs
  · exact rest.pending.trans pending
  · exact rest.mqttTransmitPc.trans same.1
  · exact rest.netTx.trans same.2
  · exact rest.mqttPending.trans down.mqttPending
  · exact rest.canTransmitPc.trans down.canTransmitPc
  · exact rest.txCanQueue.trans down.txCanQueue

theorem announces_self {s : State} (events : s.controlEvents.items = [.canReceived])
    (queued : s.rxCanQueue.items ≠ []) : ∃ t, Announces s t :=
  ⟨s, System.reaches_refl _ _, events, queued, rfl, rfl, rfl, rfl, rfl, rfl, rfl⟩

theorem announces_sendFrame {s : State} {frame : CanMsgTimestamped}
    (events : s.controlEvents.items = [.canReceived]) (here : s.canReceivePc = .sendFrame frame) :
    ∃ t, Announces s t := by
  by_cases full : s.rxCanQueue.Full
  next => exact announces_self events (blocked_waiting ⟨⟨frame, here⟩, full⟩)
  next =>
    have stepped : Step s (.canReceive none) _ :=
      .enqueueRx frame here (BoundedQueue.not_full.mp full)
    exact announces_head stepped (announces_self events (by simp))

theorem announces_sendEvent {s : State} {frame : CanMsgTimestamped}
    (silent : s.controlEvents.items = []) (here : s.canReceivePc = .sendEvent frame) :
    ∃ t, Announces s t := by
  have room : s.controlEvents.items.length < controlQueueMax := by simp [silent]
  have stepped : Step s (.canReceive none) _ := .postCanReceived frame here room
  exact announces_head stepped (announces_sendFrame (by simp [silent]) rfl)

theorem announces_receive {s : State} (silent : s.controlEvents.items = [])
    (here : s.canReceivePc = .receive) : ∃ t, Announces s t := by
  have stepped : Step s (.canReceive (some blankBus)) _ := .receiveFrame blankBus here
  exact announces_head stepped (announces_sendEvent silent rfl)

theorem announces {s : State} (reached : firmware.Reachable s) (settled : Settled s)
    (left : s.cs ≠ .start) (free : ¬ UplinkBlocked s) : ∃ t, Announces s t := by
  cases here : s.canReceivePc with
  | takeCanRx =>
    have given := (restart_reachable reached).2 here (by simpa [settled.1, landing] using left)
    rw [settled.1] at given
    have stepped : Step s (.canReceive none) _ :=
      .takeCanRx here (given.resolve_right (by simp))
    exact announces_head stepped (announces_receive settled.2 rfl)
  | receive => exact announces_receive settled.2 here
  | sendEvent frame => exact announces_sendEvent settled.2 here
  | sendFrame frame =>
    have space : ¬ s.rxCanQueue.Full := fun full => free ⟨⟨frame, here⟩, full⟩
    have stepped : Step s (.canReceive none) _ :=
      .enqueueRx frame here (BoundedQueue.not_full.mp space)
    exact announces_head stepped (announces_receive settled.2 rfl)

theorem announced_downlink {s t : State} (hopeful : Hopeful s) (settled : Settled s)
    (announced : Announces s t)
    (useful : s.cs = .canRequestWait ∨
      s.cs = .sendRequest ∧ (WakeDue s ∨ s.mqttTransmitPc = .countMessages)) :
    DownlinkDrains t := by
  have idle : t.pending = [] := announced.pending.trans settled.1
  have handling : Handling t.cs t.pending := by
    rw [announced.cs, announced.pending]
    exact hopeful.alive.handling
  have later := hopeful_same hopeful announced.reaches (controlAlive_of_idle handling idle)
    announced.mqttPending announced.canTransmitPc announced.txCanQueue
  have there : consumedState t = .sendRequest := by
    rcases useful with here | ⟨here, _⟩ <;>
      simp [consumedState, announced.events, idle, announced.cs, here, landing] <;> rfl
  have due : WakeDue t ∨ t.mqttTransmitPc = .countMessages := by
    rcases useful with here | ⟨_, due | counting⟩
    next =>
      left
      right
      right
      simp [announced.events, idle, announced.cs, here, landing, ConsumedIn]
    next =>
      left
      left
      have given : s.semaphores.netTx = true := (giveDue_settled settled).mp due
      exact announced.netTx.trans given
    next => exact .inr (announced.mqttTransmitPc.trans counting)
  apply sending_downlink later there
  unfold Sending
  split
  next here => exact ⟨due.resolve_right (by simp [here]), announced.queued⟩
  next here => exact ⟨due.resolve_right (by simp [here]), announced.queued⟩
  next => exact announced.queued
  next => trivial

-- `mqtt_transmit_task` has been woken, or will be without a further `EV_CAN_RECEIVED`.
def TransmitDue (s : State) : Prop :=
  WakeDue s ∨ (s.mqttTransmitPc ≠ .takeNetTx ∧ s.mqttTransmitPc ≠ .delay)

theorem sendRequest_downlink {s : State} (hopeful : Hopeful s)
    (there : consumedState s = .sendRequest) (due : TransmitDue s) : DownlinkDrains s := by
  obtain ⟨t, ran, later, settled, here⟩ := hopeful_settles (· = .sendRequest)
    (fun cs same => by rw [same]; rfl) hopeful there
  have still : TransmitDue t := by
    unfold TransmitDue
    rw [ran.sameTasks.mqttTransmitPc]
    exact due.imp (giveDue_run netTx_givenOn (by decide) ran hopeful.alive.handling) id
  apply DownlinkDrains.of_reaches ran.reaches
  by_cases sending : Sending t
  next =>
    have lands : consumedState t = .sendRequest := (consumedState_settled settled).trans here
    exact sending_downlink later lands sending
  next =>
    -- The task would find the queue empty, so another frame has to come first.
    have empty : t.rxCanQueue.items = [] := by
      by_contra queued
      apply sending
      unfold Sending
      split
      next pc => exact ⟨still.resolve_right (by simp [pc]), queued⟩
      next pc => exact ⟨still.resolve_right (by simp [pc]), queued⟩
      next => exact queued
      next => trivial
    have free : ¬ UplinkBlocked t := fun blocked => blocked_waiting blocked empty
    have looks : WakeDue t ∨ t.mqttTransmitPc = .countMessages := by
      rcases still with wake | ⟨notWaiting, notDelay⟩
      next => exact .inl wake
      next =>
        right
        by_contra other
        apply sending
        unfold Sending
        split <;> first | contradiction | trivial
    obtain ⟨u, announced⟩ := announces later.reached settled (by simp [here]) free
    exact .of_reaches announced.reaches
      (announced_downlink later settled announced (.inr ⟨here, looks⟩))

-- Between two cycles `control_task` waits for the announcement of a frame, or will do so.
def BetweenCycles : ControlState → Prop
  | .start | .canRequestWait | .responseTransmitted => True
  | _ => False

theorem betweenCycles_next {cs : ControlState} {event : ControlEvent} (between : BetweenCycles cs)
    (other : event ≠ .canReceived) : BetweenCycles (controlNext cs event) := by
  revert between other
  cases cs <;> cases event <;> simp [BetweenCycles, controlNext, landing, controlHandler,
    controlStartState, controlCANRequestState]

theorem canRequestWait_downlink {s : State} (hopeful : Hopeful s) (settled : Settled s)
    (here : s.cs = .canRequestWait) (free : ¬ UplinkBlocked s) : DownlinkDrains s := by
  obtain ⟨t, announced⟩ := announces hopeful.reached settled (by simp [here]) free
  exact .of_reaches announced.reaches (announced_downlink hopeful settled announced (.inl here))

theorem responseTransmitted_downlink {s : State} (hopeful : Hopeful s) (settled : Settled s)
    (here : s.cs = .responseTransmitted) (free : ¬ UplinkBlocked s) : DownlinkDrains s := by
  obtain ⟨room, reaches⟩ := netReceived_reaches hopeful settled
  let t : State :=
    { s with controlEvents := s.controlEvents.push .netReceived room, mqttPending := [] }
  have next : Hopeful t :=
    { reached := System.Reaches.trans hopeful.reached reaches
      alive := controlAlive_of_idle hopeful.alive.handling settled.1
      client := .inl rfl
      transmit := hopeful.transmit
      waiting := hopeful.waiting }
  have lands : consumedState t = .canRequestWait := by
    simp [t, consumedState, settled.1, settled.2, here, landing]
    rfl
  obtain ⟨u, ran, later, rests, waits⟩ := hopeful_settles (· = .canRequestWait)
    (fun cs same => by rw [same]; rfl) next lands
  have still : ¬ UplinkBlocked u := by
    intro blocked
    have same := ran.sameTasks
    exact free (uplinkBlocked_of_same blocked same.canReceivePc.symm same.rxCanQueue.symm)
  exact .of_reaches (reaches.trans ran.reaches) (canRequestWait_downlink later rests waits still)

theorem between_downlink {s : State} (hopeful : Hopeful s)
    (between : BetweenCycles (consumedState s)) (free : ¬ UplinkBlocked s) :
    DownlinkDrains s := by
  obtain ⟨t, ran, later, settled, here⟩ := hopeful_settles BetweenCycles
    (fun cs inside => betweenCycles_next inside (by decide)) hopeful between
  have same := ran.sameTasks
  have still : ¬ UplinkBlocked t := fun blocked =>
    free (uplinkBlocked_of_same blocked same.canReceivePc.symm same.rxCanQueue.symm)
  apply DownlinkDrains.of_reaches ran.reaches
  cases cs : t.cs with
  | start =>
    have restarts := (restart_reachable later.reached).1
    simp [Restarts, settled.1, settled.2, landing, cs] at restarts
  | canRequestWait => exact canRequestWait_downlink later settled cs still
  | responseTransmitted => exact responseTransmitted_downlink later settled cs still
  | _ => simp [BetweenCycles, cs] at here

theorem betweenCycles_serve {s t : State} (ran : ServeRun s t)
    (handling : Handling s.cs s.pending) (between : BetweenCycles (consumedState s)) :
    BetweenCycles (consumedState t) := by
  have both : Handling t.cs t.pending ∧ BetweenCycles (consumedState t) := by
    induction ran with
    | refl => exact ⟨handling, between⟩
    | tail _ stepped ih =>
      rcases stepped with control | transmit
      next =>
        refine ⟨handling_control control ih.1, ?_⟩
        rcases consumedState_control control ih.1 with same | next
        next => rw [same]; exact ih.2
        next => rw [next]; exact betweenCycles_next ih.2 (by decide)
      next =>
        refine ⟨handling_step transmit ih.1, ?_⟩
        rw [consumedState_other transmit (by simp [anyTransmit])]
        simp only [posted, anyTransmit]
        split
        next => exact betweenCycles_next ih.2 (by decide)
        next => exact betweenCycles_next ih.2 (by decide)
        next => exact ih.2
  exact both.2

theorem served_downlink {s : State} (hopeful : Hopeful s)
    (between : BetweenCycles (consumedState s)) (served : UplinkServed s) : DownlinkDrains s := by
  obtain ⟨t, ran, alive, ⟨blocked, _⟩, request, cntMsg, here, more⟩ :=
    uplink_serves hopeful.alive served
  obtain ⟨frame, rest, head⟩ := List.exists_cons_of_ne_nil (blocked_waiting blocked)
  have stepped : Step t anyTransmit _ := .dequeueRx request cntMsg frame rest here more head
  have taken : ServeRun s _ := ran.tail (.inr stepped)
  have later := hopeful_serve hopeful taken ⟨alive.handling, alive.free⟩
  apply DownlinkDrains.of_reaches taken.reaches
  apply between_downlink later (betweenCycles_serve taken hopeful.alive.handling between)
  rintro ⟨_, full⟩
  have before := blocked.full
  simp only [BoundedQueue.Full, BoundedQueue.tail_items, head, List.tail_cons] at full
  simp only [BoundedQueue.Full, head, List.length_cons] at before
  omega

end CanMaster
