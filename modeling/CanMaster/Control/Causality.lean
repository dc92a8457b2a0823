import CanMaster.Control.Atomic

set_option autoImplicit false

namespace CanMaster

open Transition

structure Counts where
  frames : Nat
  canReceived : Nat
  entries : Nat
  gives : Semaphore → Nat
  built : Nat
  pendingFrames : Nat
  bigTimeouts : Nat

def noCounts : Counts := ⟨0, 0, 0, fun _ => 0, 0, 0, 0⟩

def performed (s : State) : Action → List ControlOp
  | .control =>
      match s.pending, s.controlEvents.items with
      | [], event :: _ => controlHandler s.cs event
      | _, _ => []
  | _ => []

def framesBy (s : State) : Action → Nat
  | .canReceive bus => if s.canReceivePc = .receive then bus.toList.length else 0
  | _ => 0

-- A request is built when `request_server_masterrequest` has left its loop or skipped it.
def builtBy (s : State) : Action → Nat
  | .mqttTransmit _ _ =>
      match s.mqttTransmitPc with
      | .openRequest => if s.rxCanQueue.items = [] then 1 else 0
      | .drain _ cntMsg => if cntMsg = 0 then 1 else 0
      | _ => 0
  | _ => 0

def pendingBy (s : State) : Action → Nat
  | .obdWait _ =>
      match s.obdWaitPc with
      | .sendPending _ => 1
      | _ => 0
  | _ => 0

def noteCounts (counts : Counts) (s : State) (a : Action) : Counts where
  frames := counts.frames + framesBy s a
  canReceived := counts.canReceived + (posted s a).count .canReceived
  entries := counts.entries + (performed s a).count (.changeState .sendRequest)
  gives semaphore := counts.gives semaphore + (performed s a).count (.give semaphore)
  built := counts.built + builtBy s a
  pendingFrames := counts.pendingFrames + pendingBy s a
  bigTimeouts := counts.bigTimeouts + (posted s a).count .bigTimeout

def countsHistory : System (State × Counts) Action :=
  atomicFirmware.observed noCounts noteCounts

structure Causal (counts : Counts) : Prop where
  built : counts.built ≤ counts.gives .netTx
  netTx : counts.gives .netTx = counts.gives .obdTxWait
  obdTxWait : counts.gives .obdTxWait = counts.entries
  entries : counts.entries ≤ counts.canReceived
  canReceived : counts.canReceived ≤ counts.frames
  pendingFrames : counts.pendingFrames ≤ counts.gives .obdTxWait
  bigTimeouts : counts.bigTimeouts ≤ counts.pendingFrames
  canTx : counts.gives .canTx ≤ counts.gives .netRx
  netRx : counts.gives .netRx ≤ counts.gives .netTx

theorem performed_react {s : State} {event : ControlEvent} {rest : List ControlEvent}
    (idle : s.pending = []) (head : s.controlEvents.items = event :: rest) :
    performed s .control = controlHandler s.cs event := by
  simp [performed, idle, head]

theorem performed_resend {s : State} (next : s.pending = [.send .start]) :
    performed s .control = [] := by
  simp [performed, next]

theorem performed_other {s : State} {a : Action} (other : a ≠ .control) : performed s a = [] := by
  cases a <;> first | contradiction | rfl

abbrev inState (state cs : ControlState) : Nat := if cs = state then 1 else 0

structure Balanced (cs : ControlState) (event : ControlEvent) (ops : List ControlOp) : Prop where
  netTx : ops.count (.give .netTx) = ops.count (.changeState .sendRequest)
  obdTxWait : ops.count (.give .obdTxWait) = ops.count (.changeState .sendRequest)
  entered : ops.count (.changeState .sendRequest) ≤ [event].count .canReceived
  netRx : ops.count (.give .netRx) + inState .sendRequest (landing cs ops) ≤
    ops.count (.changeState .sendRequest) + inState .sendRequest cs
  canTx : ops.count (.give .canTx) + inState .waitResponse (landing cs ops) ≤
    ops.count (.give .netRx) + inState .waitResponse cs

theorem controlHandler_balanced (cs : ControlState) (event : ControlEvent) :
    Balanced cs event (controlHandler cs event) := by
  cases cs <;> cases event <;> constructor <;> decide

theorem react_token (s : State) (event : ControlEvent) (semaphore : Semaphore) :
    ((react s event).semaphores.given semaphore).toNat ≤
      (s.semaphores.given semaphore).toNat +
        (controlHandler s.cs event).count (.give semaphore) := by
  by_cases given : s.semaphores.given semaphore = true
  next =>
    have one := Bool.toNat_le ((react s event).semaphores.given semaphore)
    simp only [given, Bool.toNat_true]
    omega
  next =>
    by_cases after : (react s event).semaphores.given semaphore = true
    next =>
      have gives := ((react_given s event semaphore).mp after).resolve_left given
      have positive := List.count_pos_iff.mpr gives
      simp only [after, Bool.toNat_true]
      omega
    next => simp [after]

def announcing : CanReceivePc → Nat
  | .sendEvent _ => 1
  | _ => 0

def requesting : MqttTransmitPc → Nat
  | .countMessages | .sendStart | .openRequest | .drain _ _ | .recount _ => 1
  | _ => 0

def delaying : ObdWaitPc → Nat
  | .responseDelay | .sendPending _ => 1
  | _ => 0

def timing : ObdWaitPc → Nat
  | .bigDelay | .sendTimeout => 1
  | _ => 0

theorem announcing_step {s t : State} {a : Action} (stepped : Step s a t) :
    (posted s a).count .canReceived + announcing t.canReceivePc ≤
      announcing s.canReceivePc + framesBy s a := by
  cases stepped <;> simp_all [posted, announcing, framesBy]

theorem requesting_step {s t : State} {a : Action} (stepped : Step s a t) (other : a ≠ .control) :
    builtBy s a + requesting t.mqttTransmitPc + t.semaphores.netTx.toNat ≤
      requesting s.mqttTransmitPc + s.semaphores.netTx.toNat := by
  cases stepped <;> simp_all [builtBy, requesting]
  all_goals omega

theorem delaying_step {s t : State} {a : Action} (stepped : Step s a t) (other : a ≠ .control) :
    pendingBy s a + delaying t.obdWaitPc + t.semaphores.obdTxWait.toNat =
      delaying s.obdWaitPc + s.semaphores.obdTxWait.toNat := by
  cases stepped <;> simp_all [pendingBy, delaying]

theorem timing_step {s t : State} {a : Action} (stepped : Step s a t) :
    (posted s a).count .bigTimeout + timing t.obdWaitPc = timing s.obdWaitPc + pendingBy s a := by
  cases stepped <;> simp_all [posted, timing, pendingBy]

structure Caused (s : State) (counts : Counts) : Prop where
  canReceived : counts.canReceived + announcing s.canReceivePc ≤ counts.frames
  entries : counts.entries + s.controlEvents.items.count .canReceived ≤ counts.canReceived
  netTx : counts.gives .netTx = counts.entries
  obdTxWait : counts.gives .obdTxWait = counts.entries
  built : counts.built + requesting s.mqttTransmitPc + s.semaphores.netTx.toNat ≤
    counts.gives .netTx
  pendingFrames : counts.pendingFrames + delaying s.obdWaitPc + s.semaphores.obdTxWait.toNat ≤
    counts.gives .obdTxWait
  bigTimeouts : counts.bigTimeouts + timing s.obdWaitPc = counts.pendingFrames
  netRx : counts.gives .netRx + inState .sendRequest s.cs ≤ counts.entries
  canTx : counts.gives .canTx + inState .waitResponse s.cs ≤ counts.gives .netRx

theorem Caused.causal {s : State} {counts : Counts} (caused : Caused s counts) :
    Causal counts := by
  obtain ⟨canReceived, entries, netTx, obdTxWait, built, pendingFrames, bigTimeouts, netRx, canTx⟩
    := caused
  constructor <;> omega

theorem caused_other {s t : State} {counts : Counts} {a : Action} (stepped : Step s a t)
    (other : a ≠ .control) (caused : Caused s counts) : Caused t (noteCounts counts s a) := by
  have announced := announcing_step stepped
  have uploading := requesting_step stepped other
  have delayed := delaying_step stepped other
  have timed := timing_step stepped
  have queue := other_events stepped other
  have state := (other_control stepped other).1
  have idle := performed_other (s := s) other
  obtain ⟨canReceived, entries, netTx, obdTxWait, built, pendingFrames, bigTimeouts, netRx, canTx⟩
    := caused
  constructor <;> simp only [noteCounts, idle, queue, state, List.count_nil, List.count_append]
  all_goals omega

theorem caused_react {s : State} {counts : Counts} {event : ControlEvent}
    {rest : List ControlEvent} (idle : s.pending = [])
    (head : s.controlEvents.items = event :: rest) (caused : Caused s counts) :
    Caused (react s event) (noteCounts counts s .control) := by
  have balanced := controlHandler_balanced s.cs event
  have netToken := react_token s event .netTx
  have waitToken := react_token s event .obdTxWait
  simp only [Semaphores.given] at netToken waitToken
  have same := react_same s event
  have taken : (event :: rest).count .canReceived =
      [event].count .canReceived + rest.count .canReceived := by
    rw [← List.singleton_append, List.count_append]
  obtain ⟨netGives, waitGives, entered, netRxGives, canTxGives⟩ := balanced
  obtain ⟨canReceived, entries, netTx, obdTxWait, built, pendingFrames, bigTimeouts, netRx, canTx⟩
    := caused
  rw [head, taken] at entries
  constructor <;> simp only [noteCounts, performed_react idle head, posted, framesBy, builtBy,
    pendingBy, react_events, react_cs, BoundedQueue.tail_items, head, List.tail_cons,
    List.count_nil, same.canReceivePc, same.mqttTransmitPc, same.obdWaitPc, controlNext]
  all_goals omega

theorem caused_resend {s : State} {counts : Counts} (next : s.pending = [.send .start])
    (room : s.controlEvents.items.length < controlQueueMax) (caused : Caused s counts) :
    Caused { s with controlEvents := s.controlEvents.push .start room, pending := [] }
      (noteCounts counts s .control) := by
  obtain ⟨canReceived, entries, netTx, obdTxWait, built, pendingFrames, bigTimeouts, netRx, canTx⟩
    := caused
  constructor <;> simpa [noteCounts, performed_resend next, posted, framesBy, builtBy, pendingBy]

theorem causal_reachable {s : State} {counts : Counts}
    (reached : countsHistory.Reachable (s, counts)) : Causal counts := by
  have initial : Caused initialState noCounts := by constructor <;> decide
  apply Caused.causal (s := s)
  refine atomic_induction Caused initial (fun s counts a t _ stepped caused => ?_) reached
  cases stepped with
  | react event rest idle head => exact caused_react idle head caused
  | resend next room => exact caused_resend next room caused
  | other a t other stepped => exact caused_other stepped other caused

def countedRun : List Action :=
  atomicStartUp ++ arrive ++ controls 1 ++ transmits 9 ++ controls 2 ++ [answer, answer] ++
    controls 1 ++ timers 5

def countsAfter (actions : List Action) : Counts :=
  ((countsHistory.run countsHistory.init actions).getD (initialState, noCounts)).2

theorem counted_causal :
    countsHistory.Reachable (atomicAfter countedRun, countsAfter countedRun) ∧
      (countsAfter countedRun).built = 1 ∧ (countsAfter countedRun).gives .canTx = 1 ∧
      (countsAfter countedRun).bigTimeouts = 1 ∧ Causal (countsAfter countedRun) := by
  have reached : countsHistory.Reachable (atomicAfter countedRun, countsAfter countedRun) :=
    ⟨countedRun, rfl⟩
  exact ⟨reached, rfl, rfl, rfl, causal_reachable reached⟩

end CanMaster
