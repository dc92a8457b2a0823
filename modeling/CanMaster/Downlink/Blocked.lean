import CanMaster.Downlink.Cycle

set_option autoImplicit false

namespace CanMaster

open Transition

structure DownlinkBlocked (s : State) : Prop where
  full : s.txCanQueue.Full
  sending : (∃ frame ops, s.mqttPending = .sendFrame frame :: ops) ∨
    ∃ frame, s.obdWaitPc = .sendPending frame

def UplinkOpen (s : State) : Prop := UplinkBlocked s → UplinkAlive s

-- Whether a request cycle can still come to WAIT_RESPONSE, by the state in which
-- `control_task` will have consumed what waits for it now.
def CycleFrom (transmitDue uplinkOpen : Prop) : ControlState → Prop
  | .waitResponse => True
  | .sendRequest => transmitDue
  | .start | .canRequestWait | .responseTransmitted => uplinkOpen
  | .stop | .responseTimeout => False

def CycleOpen (s : State) : Prop := CycleFrom (TransmitDue s) (UplinkOpen s) (consumedState s)

-- `can_tx` will be given by an answer that waits in `controlEvents`, or by one that the
-- callback can still send in a cycle that can still come to WAIT_RESPONSE.
def AnswerOpen (s : State) : Prop := AnswerDue s ∨ (ClientFree s ∧ CycleOpen s)

-- Before its first `can_tx` the task has to be answered, after it only to send its event.
def DownlinkAlive (s : State) : Prop :=
  match s.canTransmitPc with
  | .receive => True
  | .transmit _ | .sendEvent => ¬ ControlStuck s
  | .takeCanTx => s.semaphores.canTx = true ∨ (¬ ControlStuck s ∧ AnswerOpen s)

theorem cycleFrom_mono {due due' uplink uplink' : Prop} (dues : due → due')
    (uplinks : uplink → uplink') (cs : ControlState) :
    CycleFrom due uplink cs → CycleFrom due' uplink' cs := by
  cases cs <;> simp only [CycleFrom] <;> tauto

theorem cycleFrom_next {due uplink : Prop} (cs : ControlState) (event : ControlEvent)
    (other : event ≠ .canReceived ∧ event ≠ .netTransmitEnd ∧ event ≠ .bigTimeout)
    (opens : CycleFrom due uplink (controlNext cs event)) : CycleFrom due uplink cs := by
  revert opens
  cases cs <;> cases event <;> simp_all [CycleFrom, controlNext, landing, controlHandler,
    controlStartState, controlCANRequestState, controlNetRequestSendState,
    controlNetResponseWaitState]

theorem transmitDue_same {s t : State} (pc : t.mqttTransmitPc = s.mqttTransmitPc)
    (wake : WakeDue t → WakeDue s) : TransmitDue t → TransmitDue s := by
  unfold TransmitDue
  rw [pc]
  exact Or.imp wake id

theorem uplinkOpen_same {s t : State} (receivePc : t.canReceivePc = s.canReceivePc)
    (queue : t.rxCanQueue = s.rxCanQueue) (pc : t.mqttTransmitPc = s.mqttTransmitPc)
    (stuck : ControlStuck s → ControlStuck t) (wake : WakeDue t → WakeDue s) :
    UplinkOpen t → UplinkOpen s := by
  intro still blocked
  exact uplinkAlive_back pc stuck wake (still (uplinkBlocked_of_same blocked receivePc queue))

theorem cycleOpen_control {s t : State} (stepped : Step s .control t)
    (handling : Handling s.cs s.pending) (opens : CycleOpen t) : CycleOpen s := by
  have same := control_sameTasks stepped
  have wake := (wakeDue_control stepped handling).mp
  have back := cycleFrom_mono (transmitDue_same same.mqttTransmitPc wake)
    (uplinkOpen_same same.canReceivePc same.rxCanQueue same.mqttTransmitPc
      (controlStuck_step stepped) wake) _ opens
  rcases consumedState_control stepped handling with still | next
  next => rwa [still] at back
  next =>
    rw [next] at back
    exact cycleFrom_next _ _ (by decide) back

theorem cycleOpen_client {s t : State} {jdata : Option Json} {stale : CanMsgTimestamped}
    (stepped : Step s (.mqttClient jdata stale) t) (opens : CycleOpen t) : CycleOpen s := by
  have downlink : Action.Downlink (.mqttClient jdata stale) := trivial
  have same := downlink_sameUplink stepped downlink
  have wake := (wakeDue_other stepped (by simp) same.netTx (downlink_posted downlink)).mp
  have back := cycleFrom_mono (transmitDue_same same.mqttTransmitPc wake)
    (uplinkOpen_same same.canReceivePc same.rxCanQueue same.mqttTransmitPc
      (controlStuck_step stepped) wake) _ opens
  rw [consumedState_other stepped (by simp)] at back
  simp only [posted] at back
  split at back
  next => exact cycleFrom_next _ _ (by decide) back
  next => exact back

theorem cycleOpen_receive {s t : State} {bus : Option BusFrame}
    (stepped : Step s (.canReceive bus) t) (opens : CycleOpen t) : CycleOpen s := by
  have free : UplinkOpen s := by
    rintro ⟨⟨frame, here⟩, full⟩
    cases stepped with
    | enqueueRx frame here room => exact absurd full (BoundedQueue.not_full.mpr room)
    | _ => simp_all
  have next := consumedState_other stepped (by simp)
  unfold CycleOpen at opens ⊢
  cases there : consumedState s with
  | sendRequest =>
    -- An `EV_CAN_RECEIVED` that comes after all others is dropped in SEND_REQUEST.
    have still : consumedState t = .sendRequest := by
      rw [next, there]
      simp only [posted]
      split <;> rfl
    rw [still] at opens
    have pc : t.mqttTransmitPc = s.mqttTransmitPc := by cases stepped <;> rfl
    have netTx : t.semaphores.netTx = s.semaphores.netTx := by cases stepped <;> rfl
    obtain ⟨cs, _, pending⟩ := other_control stepped (by simp)
    have dropped : ¬ ConsumedIn .canRequestWait .canReceived .sendRequest
        (posted s (.canReceive bus)) := by
      simp only [posted]
      split <;> simp [ConsumedIn]
    have wake : WakeDue t → WakeDue s := by
      unfold consumedState at there
      simp only [WakeDue, GiveDue, Semaphores.given, netTx, cs, pending,
        other_events stepped (by simp), consumedIn_append, there, dropped, or_false]
      exact id
    exact transmitDue_same pc wake opens
  | waitResponse => trivial
  | stop | responseTimeout =>
    rw [next, there] at opens
    simp only [posted] at opens
    split at opens <;> exact opens
  | _ => exact free

theorem transmitDue_transmit {s t : State} {tv : Timeval} {attempt : PublishAttempt}
    (stepped : Step s (.mqttTransmit tv attempt) t) (undue : ¬ TransmitDue s) :
    posted s (.mqttTransmit tv attempt) = [] ∧ ¬ TransmitDue t := by
  have asleep : ¬ WakeDue s := fun wake => undue (.inl wake)
  cases stepped with
  | takeNetTx here given => exact absurd (.inl given) asleep
  | delayed here =>
    refine ⟨by simp [posted, here], ?_⟩
    rintro (wake | ⟨notWaiting, _⟩)
    next => exact asleep wake
    next => exact notWaiting rfl
  | dequeueFailed request cntMsg here more empty => exact ⟨by simp [posted, here], undue⟩
  | _ =>
    exfalso
    apply undue
    right
    simp_all

theorem cycleOpen_transmit {s t : State} {tv : Timeval} {attempt : PublishAttempt}
    (stepped : Step s (.mqttTransmit tv attempt) t) (handling : Handling s.cs s.pending)
    (opens : CycleOpen t) : CycleOpen s := by
  have next := consumedState_other stepped (by simp)
  have between (here : BetweenCycles (consumedState s)) : UplinkOpen t := by
    have later : BetweenCycles (consumedState t) := by
      rw [next]
      simp only [posted]
      split
      next => exact betweenCycles_next here (by decide)
      next => exact betweenCycles_next here (by decide)
      next => exact here
    unfold CycleOpen at opens
    generalize consumedState t = cs at opens later
    cases cs <;> first | exact later.elim | exact opens
  have uplink (still : UplinkOpen t) : UplinkOpen s := by
    intro blocked
    by_contra dead
    have stranded := (stranded_transmit stepped ⟨handling, blocked, dead⟩).1
    exact stranded.dead (still stranded.blocked)
  unfold CycleOpen
  cases there : consumedState s with
  | sendRequest =>
    by_contra undue
    obtain ⟨silent, still⟩ := transmitDue_transmit stepped undue
    rw [CycleOpen, next, silent, there] at opens
    exact still opens
  | waitResponse => trivial
  | stop | responseTimeout =>
    rw [CycleOpen, next, there] at opens
    simp only [posted] at opens
    split at opens <;> exact opens
  | _ => exact uplink (between (by simp [BetweenCycles, there]))

structure DownlinkDead (s : State) : Prop where
  handling : Handling s.cs s.pending
  blocked : DownlinkBlocked s
  dead : ¬ DownlinkAlive s

theorem downlinkBlocked_of_same {s t : State} (blocked : DownlinkBlocked s)
    (queue : t.txCanQueue = s.txCanQueue) (client : t.mqttPending = s.mqttPending)
    (obd : t.obdWaitPc = s.obdWaitPc) : DownlinkBlocked t := by
  constructor
  · rw [queue]
    exact blocked.full
  · rw [client, obd]
    exact blocked.sending

theorem clientFree_same {s t : State} (client : t.mqttPending = s.mqttPending) :
    ClientFree t → ClientFree s := by
  unfold ClientFree
  rw [client]
  exact id

theorem downlinkDead_of {s t : State} {a : Action} (stepped : Step s a t) (dead : DownlinkDead s)
    (blocked : DownlinkBlocked t) (pc : t.canTransmitPc = s.canTransmitPc)
    (canTx : t.semaphores.canTx = true →
      s.semaphores.canTx = true ∨ (¬ ControlStuck s ∧ AnswerDue s))
    (answers : AnswerOpen t → AnswerOpen s) : DownlinkDead t where
  handling := handling_step stepped dead.handling
  blocked := blocked
  dead alive := by
    apply dead.dead
    have free := mt (controlStuck_step stepped)
    unfold DownlinkAlive at alive ⊢
    rw [pc] at alive
    cases here : s.canTransmitPc with
    | receive => trivial
    | transmit frame =>
      simp only [here] at alive
      exact free alive
    | sendEvent =>
      simp only [here] at alive
      exact free alive
    | takeCanTx =>
      simp only [here] at alive
      rcases alive with given | ⟨moves, opens⟩
      next => exact (canTx given).imp id fun ⟨moves, due⟩ => ⟨moves, .inl due⟩
      next => exact .inr ⟨free moves, answers opens⟩

theorem give_canTx_free {s : State} {ops : List ControlOp} (handling : Handling s.cs s.pending)
    (next : s.pending = .give .canTx :: ops) : ¬ ControlStuck s := by
  rintro ⟨⟨event, member⟩, _⟩
  rw [next] at handling member
  generalize s.cs = cs at handling
  cases handling
  simp at member

theorem downlinkDead_control {s t : State} (stepped : Step s .control t)
    (dead : DownlinkDead s) : DownlinkDead t := by
  have same := control_sameTasks stepped
  have due := giveDue_control canTx_givenOn (by decide) stepped dead.handling
  apply downlinkDead_of stepped dead
    (downlinkBlocked_of_same dead.blocked same.txCanQueue same.mqttPending same.obdWaitPc)
    same.canTransmitPc
  next =>
    intro given
    by_cases before : s.semaphores.canTx = true
    next => exact .inl before
    next =>
      right
      cases stepped with
      | controlGive semaphore ops next =>
        cases semaphore with
        | canTx => exact ⟨give_canTx_free dead.handling next, .inr (.inl (by simp [next]))⟩
        | _ => exact absurd given before
      | _ => exact absurd given before
  next =>
    exact Or.imp due.mp
      (And.imp (clientFree_same same.mqttPending) (cycleOpen_control stepped dead.handling))

theorem downlinkDead_uplink {s t : State} {a : Action} (stepped : Step s a t)
    (uplink : a.Uplink) (dead : DownlinkDead s) (opens : CycleOpen t → CycleOpen s) :
    DownlinkDead t := by
  have same := uplink_sameDownlink stepped uplink
  have other : a ≠ .control := by rintro rfl; exact uplink
  have due : AnswerDue t ↔ AnswerDue s :=
    giveDue_other stepped other same.canTx (uplink_posted uplink).1
  apply downlinkDead_of stepped dead
    (downlinkBlocked_of_same dead.blocked same.txCanQueue same.mqttPending same.obdWaitPc)
    same.canTransmitPc
  next =>
    rw [same.canTx]
    exact .inl
  next => exact Or.imp due.mp (And.imp (clientFree_same same.mqttPending) opens)

theorem downlinkDead_obdWait {s t : State} {stale : CanMsgTimestamped}
    (stepped : Step s (.obdWait stale) t) (dead : DownlinkDead s) : DownlinkDead t := by
  have same : t.mqttPending = s.mqttPending ∧ t.canTransmitPc = s.canTransmitPc ∧
      t.semaphores.canTx = s.semaphores.canTx := by
    cases stepped <;> exact ⟨rfl, rfl, rfl⟩
  obtain ⟨client, pc, canTx⟩ := same
  have fresh : .netReceived ∉ posted s (.obdWait stale) := by
    simp only [posted]
    split <;> simp
  have due : AnswerDue t ↔ AnswerDue s := giveDue_other stepped (by simp) canTx fresh
  have full := dead.blocked.full
  -- A task that moves here is not the blocked one, so the callback is.
  obtain ⟨frame, ops, next⟩ : ∃ frame ops, s.mqttPending = .sendFrame frame :: ops := by
    rcases dead.blocked.sending with callback | ⟨frame, here⟩
    next => exact callback
    next =>
      cases stepped with
      | enqueuePending frame here room => exact absurd full (BoundedQueue.not_full.mpr room)
      | _ => simp_all
  have queue : t.txCanQueue = s.txCanQueue := by
    cases stepped with
    | enqueuePending frame here room => exact absurd full (BoundedQueue.not_full.mpr room)
    | _ => rfl
  apply downlinkDead_of stepped dead _ pc
  next =>
    rw [canTx]
    exact .inl
  next =>
    rintro (answered | ⟨free, _⟩)
    next => exact .inl (due.mp answered)
    next => simp [ClientFree, client, next] at free
  next => exact ⟨queue ▸ full, .inl ⟨frame, ops, client.trans next⟩⟩

theorem downlinkDead_client {s t : State} {jdata : Option Json} {stale : CanMsgTimestamped}
    (stepped : Step s (.mqttClient jdata stale) t) (dead : DownlinkDead s) : DownlinkDead t := by
  have opens := cycleOpen_client stepped
  obtain ⟨frame, pending⟩ : ∃ frame, s.obdWaitPc = .sendPending frame := by
    rcases dead.blocked.sending with ⟨frame, ops, here⟩ | obd
    next =>
      cases stepped with
      | enqueueResponse frame ops next room =>
        exact absurd dead.blocked.full (BoundedQueue.not_full.mpr room)
      | _ => simp_all
    next => exact obd
  cases stepped with
  | deliver idle =>
    have fresh : .netReceived ∉ posted s (.mqttClient jdata stale) := by simp [posted, idle]
    have due : AnswerDue _ ↔ AnswerDue s := giveDue_other (.deliver idle) (by simp) rfl fresh
    exact downlinkDead_of (.deliver idle) dead ⟨dead.blocked.full, .inr ⟨frame, pending⟩⟩ rfl .inl
      (Or.imp due.mp fun waits => ⟨.inl idle, opens waits.2⟩)
  | enqueueResponse frame ops next room =>
    exact absurd dead.blocked.full (BoundedQueue.not_full.mpr room)
  | postNetReceived ops next room =>
    have free : ClientFree s := .inr ⟨ops, next⟩
    have posts : Step s (.mqttClient jdata stale) _ := .postNetReceived ops next room
    apply downlinkDead_of posts dead ⟨dead.blocked.full, .inr ⟨frame, pending⟩⟩ rfl .inl
    rintro (answered | ⟨_, still⟩)
    next =>
      rcases answered with given | gives | consumed
      next => exact .inl (.inl given)
      next => exact .inl (.inr (.inl gives))
      next =>
        rw [BoundedQueue.push_items, consumedIn_append] at consumed
        rcases consumed with before | waits
        next => exact .inl (.inr (.inr before))
        next =>
          have there : consumedState s = .waitResponse := by
            simpa [ConsumedIn, consumedState] using waits
          right
          refine ⟨free, ?_⟩
          rw [CycleOpen, there]
          trivial
    next => exact .inr ⟨free, opens still⟩

theorem downlinkDead_transmit {s t : State} {accepted : Bool}
    (stepped : Step s (.canTransmit accepted) t) (dead : DownlinkDead s) :
    DownlinkDead t ∧ t.txCanQueue = s.txCanQueue := by
  have stuck := controlStuck_step stepped
  have handling := handling_step stepped dead.handling
  have idle := dead.dead
  cases stepped with
  | takeCanTx here given => simp [DownlinkAlive, here, given] at idle
  | dequeueTx frame rest here head => simp [DownlinkAlive, here] at idle
  | transmitted frame here =>
    simp only [DownlinkAlive, here, not_not] at idle
    exact ⟨⟨handling, ⟨dead.blocked.full, dead.blocked.sending⟩, not_not.mpr (stuck idle)⟩, rfl⟩
  | postCanTransmitted here room =>
    simp only [DownlinkAlive, here, not_not] at idle
    exact absurd idle.2 (BoundedQueue.not_full.mpr room)

theorem downlinkDead_step {s t : State} {a : Action} (stepped : Step s a t)
    (dead : DownlinkDead s) : DownlinkDead t := by
  cases a with
  | control => exact downlinkDead_control stepped dead
  | canReceive bus => exact downlinkDead_uplink stepped trivial dead (cycleOpen_receive stepped)
  | canTransmit accepted => exact (downlinkDead_transmit stepped dead).1
  | mqttTransmit tv attempt =>
    exact downlinkDead_uplink stepped trivial dead (cycleOpen_transmit stepped dead.handling)
  | obdWait stale => exact downlinkDead_obdWait stepped dead
  | mqttClient jdata stale => exact downlinkDead_client stepped dead

theorem downlinkDead_never_drains {s : State} (dead : DownlinkDead s) : ¬ DownlinkDrains s := by
  rintro ⟨t, u, accepted, reaches, stepped, fewer⟩
  have there : DownlinkDead t :=
    System.reaches_invariant (fun _ _ _ next => downlinkDead_step (step_iff.mp next)) reaches dead
  rw [(downlinkDead_transmit (step_iff.mp stepped) there).2] at fewer
  exact lt_irrefl _ fewer

def shortCommand : Json :=
  .object [("id", .number 0), ("type", .string "canpackage"), ("address", .number 0),
    ("datalength", .number 8)]

-- The first answer has eleven commands, few enough for the text of one data event. The callback
-- waits for room for the last of them, and only after it would it send the event on which `can_tx`
-- is given for the first time.
def elevenCommands : Json := .object [("commands", .array (List.replicate 11 shortCommand))]

def crowdedAnswerRun : List Action :=
  startUp ++ arrive ++ controls 4 ++ transmits 10 ++ controls 4 ++
    List.replicate 11 (.mqttClient (some elevenCommands) blankFrame)

theorem downlink_trap : firmware.Reachable (after crowdedAnswerRun) ∧
    DownlinkBlocked (after crowdedAnswerRun) ∧ ¬ DownlinkDrains (after crowdedAnswerRun) := by
  have reached : firmware.Reachable (after crowdedAnswerRun) := ⟨crowdedAnswerRun, rfl⟩
  have blocked : DownlinkBlocked (after crowdedAnswerRun) := ⟨rfl, .inl ⟨_, _, rfl⟩⟩
  have here : (after crowdedAnswerRun).canTransmitPc = .takeCanTx := rfl
  have given : (after crowdedAnswerRun).semaphores.canTx = false := rfl
  have undue : ¬ AnswerDue (after crowdedAnswerRun) := by decide
  have busy : ¬ ClientFree (after crowdedAnswerRun) := by
    rintro (idle | ⟨ops, next⟩)
    next => cases idle
    next => cases next
  refine ⟨reached, blocked, downlinkDead_never_drains ⟨handling_reachable reached, blocked, ?_⟩⟩
  simp [DownlinkAlive, here, given, AnswerOpen, undue, busy]

theorem sendEvent_downlink {s : State} (waiting : s.txCanQueue.items ≠ []) (alive : ControlAlive s)
    (here : s.canTransmitPc = .sendEvent) : DownlinkDrains s := by
  obtain ⟨t, ran, -, settled⟩ := control_settles alive
  have same := ran.sameTasks
  have room : t.controlEvents.items.length < controlQueueMax := by simp [settled.2]
  have stepped : Step t (.canTransmit true) _ :=
    .postCanTransmitted (same.canTransmitPc.trans here) room
  apply DownlinkDrains.of_reaches (ran.reaches.trans (System.reaches_step (step_iff.mpr stepped)))
  apply receive_downlink _ rfl
  rwa [same.txCanQueue]

theorem transmit_downlink {s : State} {frame : CanMsgTimestamped}
    (waiting : s.txCanQueue.items ≠ []) (alive : ControlAlive s)
    (here : s.canTransmitPc = .transmit frame) : DownlinkDrains s := by
  have stepped : Step s (.canTransmit true) _ := .transmitted frame here
  apply DownlinkDrains.of_reaches (System.reaches_step (step_iff.mpr stepped))
  exact sendEvent_downlink waiting ⟨alive.handling, alive.free⟩ rfl

theorem cycle_downlink {s : State} (hopeful : Hopeful s) (opens : CycleOpen s) :
    DownlinkDrains s := by
  have between (uplink : UplinkOpen s) (here : BetweenCycles (consumedState s)) :
      DownlinkDrains s := by
    by_cases blocked : UplinkBlocked s
    next =>
      have drains := drainsFrom_mono (fun _ => trivial) id _ (uplink blocked)
      exact served_downlink hopeful here ⟨blocked, drains⟩
    next => exact between_downlink hopeful here blocked
  unfold CycleOpen at opens
  cases there : consumedState s with
  | waitResponse => exact waitResponse_downlink hopeful there
  | sendRequest =>
    rw [there] at opens
    exact sendRequest_downlink hopeful there opens
  | stop | responseTimeout =>
    rw [there] at opens
    exact opens.elim
  | _ =>
    rw [there] at opens
    exact between opens (by simp [BetweenCycles, there])

theorem alive_downlink {s : State} (reached : firmware.Reachable s) (blocked : DownlinkBlocked s)
    (alive : DownlinkAlive s) : DownlinkDrains s := by
  have waiting : s.txCanQueue.items ≠ [] := by
    intro empty
    simpa [BoundedQueue.Full, empty] using blocked.full
  have handling := handling_reachable reached
  unfold DownlinkAlive at alive
  cases here : s.canTransmitPc with
  | receive => exact receive_downlink waiting here
  | transmit frame =>
    rw [here] at alive
    exact transmit_downlink waiting ⟨handling, alive⟩ here
  | sendEvent =>
    rw [here] at alive
    exact sendEvent_downlink waiting ⟨handling, alive⟩ here
  | takeCanTx =>
    rw [here] at alive
    rcases alive with given | ⟨free, due | ⟨client, opens⟩⟩
    next => exact given_downlink waiting here given
    next => exact answered_downlink ⟨handling, free⟩ due waiting here
    next => exact cycle_downlink ⟨reached, ⟨handling, free⟩, client, here, waiting⟩ opens

theorem downlink_drains_iff {s : State} (reached : firmware.Reachable s)
    (blocked : DownlinkBlocked s) : DownlinkDrains s ↔ DownlinkAlive s := by
  constructor
  next =>
    intro drains
    by_contra dead
    exact downlinkDead_never_drains ⟨handling_reachable reached, blocked, dead⟩ drains
  next => exact alive_downlink reached blocked

def secondAnswerRun : List Action :=
  startUp ++ arrive ++ controls 4 ++ transmits 10 ++ controls 4 ++ List.replicate 2 answer ++
    controls 3 ++ List.replicate 11 (.mqttClient (some elevenCommands) blankFrame)

theorem secondAnswer_drains : DownlinkBlocked (after secondAnswerRun) ∧
    DownlinkDrains (after secondAnswerRun) := by
  have reached : firmware.Reachable (after secondAnswerRun) := ⟨secondAnswerRun, rfl⟩
  have blocked : DownlinkBlocked (after secondAnswerRun) := ⟨rfl, .inl ⟨_, _, rfl⟩⟩
  have here : (after secondAnswerRun).canTransmitPc = .takeCanTx := rfl
  have given : (after secondAnswerRun).semaphores.canTx = true := rfl
  refine ⟨blocked, (downlink_drains_iff reached blocked).mpr ?_⟩
  simp [DownlinkAlive, here, given]

end CanMaster
