import CanMaster.Control.Serving

set_option autoImplicit false

namespace CanMaster

open Transition

structure UplinkBlocked (s : State) : Prop where
  sending : ∃ frame, s.canReceivePc = .sendFrame frame
  full : s.rxCanQueue.Full

-- Some finite continuation has `mqtt_transmit_task` take a frame out of `rxCanQueue`.
def UplinkDrains (s : State) : Prop :=
  ∃ t u tv attempt, firmware.Reaches s t ∧ firmware.step t (.mqttTransmit tv attempt) = some u ∧
    u.rxCanQueue.items.length < t.rxCanQueue.items.length

-- `net_tx` will be given without a further `EV_CAN_RECEIVED`.
def WakeDue (s : State) : Prop := GiveDue .netTx .canRequestWait .canReceived s

-- Past its first reading of the queue the task drains without help. Before that it has to
-- send one event, and before `net_tx` it also has to be woken.
def DrainsFrom (free due : Prop) : MqttTransmitPc → Prop
  | .openRequest | .recount _ => True
  | .drain _ cntMsg => 0 < cntMsg ∨ (free ∧ due)
  | .countMessages | .sendStart => free
  | .takeNetTx | .publish _ | .sendEnd | .delay => free ∧ due

def UplinkAlive (s : State) : Prop := DrainsFrom (¬ ControlStuck s) (WakeDue s) s.mqttTransmitPc

theorem drainsFrom_mono {free free' due due' : Prop} (frees : free → free') (dues : due → due')
    (pc : MqttTransmitPc) : DrainsFrom free due pc → DrainsFrom free' due' pc := by
  cases pc <;> simp only [DrainsFrom] <;> tauto

instance (s : State) : Decidable (WakeDue s) := inferInstanceAs (Decidable (GiveDue _ _ _ s))

theorem wakeDue_control {s t : State} (stepped : Step s .control t)
    (handling : Handling s.cs s.pending) : WakeDue t ↔ WakeDue s :=
  giveDue_control netTx_givenOn (by decide) stepped handling

theorem wakeDue_other {s t : State} {a : Action} (stepped : Step s a t) (other : a ≠ .control)
    (semaphore : t.semaphores.netTx = s.semaphores.netTx) (fresh : .canReceived ∉ posted s a) :
    WakeDue t ↔ WakeDue s :=
  giveDue_other stepped other semaphore fresh

structure Stranded (s : State) : Prop where
  handling : Handling s.cs s.pending
  blocked : UplinkBlocked s
  dead : ¬ UplinkAlive s

theorem blocked_waiting {s : State} (blocked : UplinkBlocked s) : s.rxCanQueue.items ≠ [] := by
  have full := blocked.full
  intro empty
  simp [BoundedQueue.Full, empty] at full

theorem uplinkBlocked_of_same {s t : State} (blocked : UplinkBlocked s)
    (pc : t.canReceivePc = s.canReceivePc) (queue : t.rxCanQueue = s.rxCanQueue) :
    UplinkBlocked t :=
  ⟨pc ▸ blocked.sending, queue ▸ blocked.full⟩

theorem uplinkAlive_back {s t : State} (pc : t.mqttTransmitPc = s.mqttTransmitPc)
    (stuck : ControlStuck s → ControlStuck t) (due : WakeDue t → WakeDue s)
    (alive : UplinkAlive t) : UplinkAlive s := by
  unfold UplinkAlive at alive ⊢
  rw [pc] at alive
  exact drainsFrom_mono (mt stuck) due _ alive

theorem stranded_control {s t : State} (stepped : Step s .control t) (stranded : Stranded s) :
    Stranded t where
  handling := handling_control stepped stranded.handling
  blocked :=
    uplinkBlocked_of_same stranded.blocked (control_sameTasks stepped).canReceivePc
      (control_sameTasks stepped).rxCanQueue
  dead alive :=
    stranded.dead (uplinkAlive_back (control_sameTasks stepped).mqttTransmitPc
      (controlStuck_step stepped) (wakeDue_control stepped stranded.handling).mp alive)

theorem stranded_downlink {s t : State} {a : Action} (stepped : Step s a t)
    (downlink : a.Downlink) (stranded : Stranded s) : Stranded t where
  handling := handling_step stepped stranded.handling
  blocked :=
    uplinkBlocked_of_same stranded.blocked (downlink_sameUplink stepped downlink).canReceivePc
      (downlink_sameUplink stepped downlink).rxCanQueue
  dead alive := by
    have same := downlink_sameUplink stepped downlink
    have other : a ≠ .control := by rintro rfl; exact downlink
    have due := wakeDue_other stepped other same.netTx (downlink_posted downlink)
    exact stranded.dead
      (uplinkAlive_back same.mqttTransmitPc (controlStuck_step stepped) due.mp alive)

theorem stranded_transmit {s t : State} {tv : Timeval} {attempt : PublishAttempt}
    (stepped : Step s (.mqttTransmit tv attempt) t) (stranded : Stranded s) :
    Stranded t ∧ t.rxCanQueue = s.rxCanQueue := by
  have stuck := controlStuck_step stepped
  have handling := handling_step stepped stranded.handling
  obtain ⟨-, blocked, dead⟩ := stranded
  have waiting := blocked_waiting blocked
  have same (u : State) (receive : u.canReceivePc = s.canReceivePc)
      (queue : u.rxCanQueue = s.rxCanQueue) (handling : Handling u.cs u.pending)
      (dead : ¬ UplinkAlive u) : Stranded u ∧ u.rxCanQueue = s.rxCanQueue :=
    ⟨⟨handling, uplinkBlocked_of_same blocked receive queue, dead⟩, queue⟩
  cases stepped with
  | takeNetTx here given =>
    refine same _ rfl rfl handling ?_
    have due : WakeDue s := .inl given
    simp only [UplinkAlive, here, DrainsFrom, due, and_true, not_not] at dead ⊢
    exact stuck dead
  | countNone here empty => exact absurd empty waiting
  | countSome here _ =>
    refine same _ rfl rfl handling ?_
    simp only [UplinkAlive, here, DrainsFrom, not_not] at dead ⊢
    exact stuck dead
  | postTransmitStart here room =>
    simp only [UplinkAlive, here, DrainsFrom, not_not] at dead
    exact absurd dead.2 (BoundedQueue.not_full.mpr room)
  | openEmpty here empty => exact absurd empty waiting
  | openRequest here _ => simp [UplinkAlive, here, DrainsFrom] at dead
  | dequeueRx request cntMsg frame rest here more head =>
    simp [UplinkAlive, here, DrainsFrom, more] at dead
  | dequeueFailed request cntMsg here more empty => exact absurd empty waiting
  | closeRequest request here =>
    refine same _ rfl rfl handling ?_
    simp only [UplinkAlive, here, DrainsFrom, lt_irrefl, false_or] at dead ⊢
    exact dead
  | recount request here => simp [UplinkAlive, here, DrainsFrom] at dead
  | publish request here =>
    refine same _ rfl rfl handling ?_
    simp only [UplinkAlive, here, DrainsFrom] at dead ⊢
    exact dead
  | postTransmitEnd here room =>
    have fresh : .canReceived ∉ posted s (.mqttTransmit tv attempt) := by simp [posted, here]
    have due := wakeDue_other (.postTransmitEnd here room) (by simp) rfl fresh
    refine same _ rfl rfl handling ?_
    simp only [UplinkAlive, here, DrainsFrom, due] at dead ⊢
    tauto
  | delayed here =>
    refine same _ rfl rfl handling ?_
    simp only [UplinkAlive, here, DrainsFrom] at dead ⊢
    exact dead

theorem stranded_step {s t : State} {a : Action} (stepped : Step s a t)
    (stranded : Stranded s) : Stranded t := by
  cases a with
  | control => exact stranded_control stepped stranded
  | canReceive bus =>
    obtain ⟨frame, sending⟩ := stranded.blocked.sending
    cases stepped with
    | enqueueRx frame here room =>
      exact absurd stranded.blocked.full (BoundedQueue.not_full.mpr room)
    | _ => simp_all
  | mqttTransmit tv attempt => exact (stranded_transmit stepped stranded).1
  | canTransmit accepted => exact stranded_downlink stepped trivial stranded
  | obdWait stale => exact stranded_downlink stepped trivial stranded
  | mqttClient jdata stale => exact stranded_downlink stepped trivial stranded

theorem stranded_never_drains {s : State} (stranded : Stranded s) : ¬ UplinkDrains s := by
  rintro ⟨t, u, tv, attempt, reaches, stepped, fewer⟩
  have there : Stranded t :=
    System.reaches_invariant (fun _ _ _ next => stranded_step (step_iff.mp next)) reaches stranded
  rw [(stranded_transmit (step_iff.mp stepped) there).2] at fewer
  exact lt_irrefl _ fewer

-- The first frame is announced and its wake-up spent before the frame is queued. Every later
-- announcement is dropped in SEND_REQUEST until the timeout, and by then the queue is full.
def strandingRun : List Action :=
  startUp ++ announce ++ controls 4 ++ transmits 3 ++ [.canReceive none] ++
    (List.replicate 9 (arrive ++ controls 1)).flatten ++ announce ++ controls 1 ++
    timers 5 ++ controls 6

theorem uplink_trap : firmware.Reachable (after strandingRun) ∧
    UplinkBlocked (after strandingRun) ∧ ¬ UplinkDrains (after strandingRun) := by
  have reached : firmware.Reachable (after strandingRun) := ⟨strandingRun, rfl⟩
  have blocked : UplinkBlocked (after strandingRun) := ⟨⟨_, rfl⟩, rfl⟩
  have undue : ¬ WakeDue (after strandingRun) := by decide
  have waiting : (after strandingRun).mqttTransmitPc = .takeNetTx := rfl
  refine ⟨reached, blocked, stranded_never_drains ⟨handling_reachable reached, blocked, ?_⟩⟩
  simp [UplinkAlive, waiting, DrainsFrom, undue]

theorem UplinkDrains.of_reaches {s t : State} (reaches : firmware.Reaches s t)
    (drains : UplinkDrains t) : UplinkDrains s := by
  obtain ⟨u, v, tv, attempt, later, rest⟩ := drains
  exact ⟨u, v, tv, attempt, reaches.trans later, rest⟩

-- A continuation is free to choose the clock and the network.
theorem UplinkDrains.of_transmit {s t : State} (stepped : Step s anyTransmit t)
    (drains : UplinkDrains t) : UplinkDrains s :=
  .of_reaches (System.reaches_step (step_iff.mpr stepped)) drains

theorem drain_drains {s : State} {request : MasterRequest} {cntMsg : Nat}
    (waiting : s.rxCanQueue.items ≠ []) (here : s.mqttTransmitPc = .drain request cntMsg)
    (more : 0 < cntMsg) : UplinkDrains s := by
  obtain ⟨frame, rest, head⟩ := List.exists_cons_of_ne_nil waiting
  have stepped : Step s anyTransmit _ := .dequeueRx request cntMsg frame rest here more head
  refine ⟨s, _, _, _, System.reaches_refl _ _, step_iff.mpr stepped, ?_⟩
  simp [head]

theorem openRequest_drains {s : State} (waiting : s.rxCanQueue.items ≠ [])
    (here : s.mqttTransmitPc = .openRequest) : UplinkDrains s :=
  .of_transmit (.openRequest here waiting)
    (drain_drains waiting rfl (List.length_pos_iff.mpr waiting))

theorem recount_drains {s : State} {request : MasterRequest} (waiting : s.rxCanQueue.items ≠ [])
    (here : s.mqttTransmitPc = .recount request) : UplinkDrains s :=
  .of_transmit (.recount request here) (drain_drains waiting rfl (List.length_pos_iff.mpr waiting))

def drainRank : MqttTransmitPc → Nat
  | .drain _ cntMsg => if 0 < cntMsg then 0 else 8
  | .openRequest | .recount _ => 1
  | .sendStart => 2
  | .countMessages => 3
  | .takeNetTx => 4
  | .delay => 5
  | .sendEnd => 6
  | .publish _ => 7

def Draining (s : State) : Prop :=
  ∃ request cntMsg, s.mqttTransmitPc = .drain request cntMsg ∧ 0 < cntMsg

def UplinkServed (s : State) : Prop :=
  UplinkBlocked s ∧ DrainsFrom True (WakeDue s) s.mqttTransmitPc

theorem uplinkServed_control {s t : State} (stepped : Step s .control t)
    (handling : Handling s.cs s.pending) (served : UplinkServed s) :
    UplinkServed t ∧ drainRank t.mqttTransmitPc = drainRank s.mqttTransmitPc := by
  have same := control_sameTasks stepped
  refine ⟨⟨uplinkBlocked_of_same served.1 same.canReceivePc same.rxCanQueue, ?_⟩, ?_⟩
  · rw [same.mqttTransmitPc]
    exact drainsFrom_mono id (wakeDue_control stepped handling).mpr _ served.2
  · rw [same.mqttTransmitPc]

theorem uplinkServed_transmit {s : State} (settled : Settled s) (served : UplinkServed s)
    (waits : ¬ Draining s) :
    ∃ t, Step s anyTransmit t ∧ UplinkServed t ∧
      drainRank t.mqttTransmitPc < drainRank s.mqttTransmitPc := by
  obtain ⟨⟨sending, full⟩, drains⟩ := served
  have waiting := blocked_waiting ⟨sending, full⟩
  have room : s.controlEvents.items.length < controlQueueMax := by simp [settled.2]
  cases here : s.mqttTransmitPc with
  | takeNetTx =>
    have due : WakeDue s := by simpa [DrainsFrom, here] using drains
    refine ⟨_, .takeNetTx here ((giveDue_settled settled).mp due), ⟨⟨sending, full⟩, trivial⟩, ?_⟩
    simp [drainRank]
  | countMessages =>
    exact ⟨_, .countSome here waiting, ⟨⟨sending, full⟩, trivial⟩, by simp [drainRank]⟩
  | sendStart =>
    exact ⟨_, .postTransmitStart here room, ⟨⟨sending, full⟩, trivial⟩, by simp [drainRank]⟩
  | openRequest =>
    have counted := List.length_pos_iff.mpr waiting
    exact ⟨_, .openRequest here waiting, ⟨⟨sending, full⟩, .inl counted⟩, by simp [drainRank, counted]⟩
  | recount request =>
    have counted := List.length_pos_iff.mpr waiting
    exact ⟨_, .recount request here, ⟨⟨sending, full⟩, .inl counted⟩, by simp [drainRank, counted]⟩
  | drain request cntMsg =>
    have last : cntMsg = 0 := by
      by_contra more
      exact waits ⟨request, cntMsg, here, Nat.pos_of_ne_zero more⟩
    subst last
    have due : WakeDue s := by simpa [DrainsFrom, here] using drains
    exact ⟨_, .closeRequest request here, ⟨⟨sending, full⟩, trivial, due⟩, by simp [drainRank]⟩
  | publish request =>
    have due : WakeDue s := by simpa [DrainsFrom, here] using drains
    exact ⟨_, .publish request here, ⟨⟨sending, full⟩, trivial, due⟩, by simp [drainRank]⟩
  | sendEnd =>
    have due : WakeDue s := by simpa [DrainsFrom, here] using drains
    have given : s.semaphores.netTx = true := (giveDue_settled settled).mp due
    exact ⟨_, .postTransmitEnd here room, ⟨⟨sending, full⟩, trivial, .inl given⟩,
      by simp [drainRank]⟩
  | delay =>
    have due : WakeDue s := by simpa [DrainsFrom, here] using drains
    exact ⟨_, .delayed here, ⟨⟨sending, full⟩, trivial, due⟩, by simp [drainRank]⟩

theorem uplink_serves {s : State} (alive : ControlAlive s) (served : UplinkServed s) :
    ∃ t, ServeRun s t ∧ ControlAlive t ∧ UplinkServed t ∧ Draining t :=
  serves (fun s => drainRank s.mqttTransmitPc)
    (fun _ _ stepped handling => uplinkServed_control stepped handling)
    (fun _ _ settled served waits => uplinkServed_transmit settled served waits) alive served

theorem served_drains {s : State} (alive : ControlAlive s) (served : UplinkServed s) :
    UplinkDrains s := by
  obtain ⟨t, ran, _, ⟨blocked, _⟩, request, cntMsg, here, more⟩ := uplink_serves alive served
  exact .of_reaches ran.reaches (drain_drains (blocked_waiting blocked) here more)

theorem alive_drains {s : State} (handling : Handling s.cs s.pending) (blocked : UplinkBlocked s)
    (alive : UplinkAlive s) : UplinkDrains s := by
  have waiting := blocked_waiting blocked
  by_cases stuck : ControlStuck s
  next =>
    -- Nothing but a task that is already past its first reading can still drain.
    cases here : s.mqttTransmitPc with
    | openRequest => exact openRequest_drains waiting here
    | recount request => exact recount_drains waiting here
    | drain request cntMsg =>
      have more : 0 < cntMsg := by simpa [UplinkAlive, here, DrainsFrom, stuck] using alive
      exact drain_drains waiting here more
    | _ => simp [UplinkAlive, here, DrainsFrom, stuck] at alive
  next =>
    have drains := drainsFrom_mono (fun _ => trivial) id _ alive
    exact served_drains ⟨handling, stuck⟩ ⟨blocked, drains⟩

theorem uplink_drains_iff {s : State} (reached : firmware.Reachable s)
    (blocked : UplinkBlocked s) : UplinkDrains s ↔ UplinkAlive s := by
  have handling := handling_reachable reached
  constructor
  · intro drains
    by_contra dead
    exact stranded_never_drains ⟨handling, blocked, dead⟩ drains
  · exact alive_drains handling blocked

def crowdedRun : List Action :=
  startUp ++ announce ++ controls 4 ++ [.canReceive none] ++
    (List.replicate 9 (arrive ++ controls 1)).flatten ++ announce

theorem crowded_drains : UplinkDrains (after crowdedRun) := by
  have reached : firmware.Reachable (after crowdedRun) := ⟨crowdedRun, rfl⟩
  have blocked : UplinkBlocked (after crowdedRun) := ⟨⟨_, rfl⟩, rfl⟩
  have idle : (after crowdedRun).pending = [] := rfl
  have due : WakeDue (after crowdedRun) := .inl rfl
  have waiting : (after crowdedRun).mqttTransmitPc = .takeNetTx := rfl
  refine (uplink_drains_iff reached blocked).mpr ?_
  simp [UplinkAlive, waiting, DrainsFrom, ControlStuck, SelfSend, idle, due]

end CanMaster
