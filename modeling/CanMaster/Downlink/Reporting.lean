import CanMaster.Firmware.Steps

set_option autoImplicit false

namespace CanMaster

open Transition

/-- The frames sent to `txCanQueue` and those that the driver accepted, in order, and the
number of `EV_CAN_TRANSMITTED` posted. -/
structure Deliveries where
  sent : List CanMsgTimestamped
  accepted : List CanMsgTimestamped
  posted : Nat

def noteDeliveries (deliveries : Deliveries) (s : State) : Action → Deliveries
  | .canTransmit accepted =>
      match s.canTransmitPc with
      | .transmit frame =>
          if accepted then { deliveries with accepted := deliveries.accepted ++ [frame] }
          else deliveries
      | .sendEvent => { deliveries with posted := deliveries.posted + 1 }
      | _ => deliveries
  | .obdWait _ =>
      match s.obdWaitPc with
      | .sendPending frame => { deliveries with sent := deliveries.sent ++ [frame] }
      | _ => deliveries
  | .mqttClient _ _ =>
      match s.mqttPending with
      | .sendFrame frame :: _ => { deliveries with sent := deliveries.sent ++ [frame] }
      | _ => deliveries
  | _ => deliveries

def deliveriesHistory : System (State × Deliveries) Action :=
  firmware.observed ⟨[], [], 0⟩ noteDeliveries

def withoutFlags (frame : CanMsgTimestamped) : CanMsgTimestamped :=
  { frame with msg := { frame.msg with flags := canMsgFlagNone } }

def transmitting : CanTransmitPc → List CanMsgTimestamped
  | .transmit frame => [frame]
  | _ => []

-- The frames keep their order, and none is reported that the driver did not accept.
structure Honest (p : State × Deliveries) : Prop where
  conserved : p.2.sent.map withoutFlags =
    p.2.accepted ++ transmitting p.1.canTransmitPc ++ p.1.txCanQueue.items.map withoutFlags
  reported : p.2.posted ≤ p.2.accepted.length

def DriverAccepts (p : State × Deliveries) : Action → Prop
  | .canTransmit accepted => ∀ frame, p.1.canTransmitPc = .transmit frame → accepted = true
  | _ => True

-- Every frame that was dequeued is in the task's hands or has been, or will be, reported.
def Handled (p : State × Deliveries) : Prop :=
  p.2.sent.length = p.2.posted + (if p.1.canTransmitPc = .sendEvent then 1 else 0) +
    (transmitting p.1.canTransmitPc).length + p.1.txCanQueue.items.length

theorem handled_transmit {s t : State} {deliveries : Deliveries} {accepted : Bool}
    (stepped : Step s (.canTransmit accepted) t) (handled : Handled (s, deliveries)) :
    Handled (t, noteDeliveries deliveries s (.canTransmit accepted)) := by
  unfold Handled at handled ⊢
  cases stepped with
  | takeCanTx here given => simpa [noteDeliveries, here, transmitting] using handled
  | dequeueTx frame rest here head =>
    simp only [here, head, transmitting, reduceCtorEq, if_false, List.length_nil,
      List.length_cons] at handled
    simp only [noteDeliveries, here, head, transmitting, reduceCtorEq, if_false,
      BoundedQueue.tail_items, List.tail_cons, List.length_cons, List.length_nil]
    omega
  | transmitted frame here =>
    simp only [here, transmitting, reduceCtorEq, if_false, List.length_cons,
      List.length_nil] at handled
    have same : (noteDeliveries deliveries s (.canTransmit accepted)).sent = deliveries.sent ∧
        (noteDeliveries deliveries s (.canTransmit accepted)).posted = deliveries.posted := by
      simp only [noteDeliveries, here]
      split <;> simp
    simp only [same.1, same.2, transmitting, if_true, List.length_nil]
    omega
  | postCanTransmitted here room =>
    simp only [here, transmitting, if_true, List.length_nil] at handled
    simp only [noteDeliveries, here, transmitting, reduceCtorEq, if_false, List.length_nil]
    omega

theorem handled_step {s t : State} {deliveries : Deliveries} {a : Action} (stepped : Step s a t)
    (handled : Handled (s, deliveries)) : Handled (t, noteDeliveries deliveries s a) := by
  cases a with
  | canTransmit accepted => exact handled_transmit stepped handled
  | _ =>
    unfold Handled at handled ⊢
    cases stepped <;> simp_all [noteDeliveries]
    all_goals omega

theorem honest_transmit {s t : State} {deliveries : Deliveries} {accepted : Bool}
    (stepped : Step s (.canTransmit accepted) t) (handled : Handled (s, deliveries))
    (honest : Honest (s, deliveries)) :
    Honest (t, noteDeliveries deliveries s (.canTransmit accepted)) ↔
      DriverAccepts (s, deliveries) (.canTransmit accepted) := by
  obtain ⟨conserved, reported⟩ := honest
  simp only at conserved reported
  cases stepped with
  | takeCanTx here given =>
    refine iff_of_true ⟨?_, ?_⟩ (by simp [DriverAccepts, here])
    next => simpa [noteDeliveries, here, transmitting] using conserved
    next => simpa [noteDeliveries, here] using reported
  | dequeueTx frame rest here head =>
    refine iff_of_true ⟨?_, ?_⟩ (by simp [DriverAccepts, here])
    next =>
      simp only [here, head, transmitting, List.append_nil, List.map_cons] at conserved
      simp [noteDeliveries, here, head, transmitting, conserved, withoutFlags]
    next => simpa [noteDeliveries, here] using reported
  | transmitted frame here =>
    simp only [here, transmitting] at conserved
    have accepts : DriverAccepts (s, deliveries) (.canTransmit accepted) ↔ accepted = true := by
      simp [DriverAccepts, here]
    rw [accepts]
    cases accepted with
    | true =>
      refine iff_of_true ⟨?_, ?_⟩ rfl
      next => simpa [noteDeliveries, here, transmitting] using conserved
      next =>
        simp only [noteDeliveries, here, if_true, List.length_append]
        omega
    | false =>
      -- The frame that the driver refused is nowhere any more.
      refine iff_of_false (fun later => ?_) (by simp)
      have kept := later.conserved
      simp [noteDeliveries, here, transmitting, conserved] at kept
  | postCanTransmitted here room =>
    refine iff_of_true ⟨?_, ?_⟩ (by simp [DriverAccepts, here])
    next => simpa [noteDeliveries, here, transmitting] using conserved
    next =>
      have lengths := congrArg List.length conserved
      simp only [Handled, here, transmitting, if_true, List.length_nil] at handled
      simp only [here, transmitting, List.append_nil, List.length_append, List.length_map] at lengths
      simp only [noteDeliveries, here]
      omega

theorem honest_step {s t : State} {deliveries : Deliveries} {a : Action} (stepped : Step s a t)
    (handled : Handled (s, deliveries)) (honest : Honest (s, deliveries)) :
    Honest (t, noteDeliveries deliveries s a) ↔ DriverAccepts (s, deliveries) a := by
  obtain ⟨conserved, reported⟩ := honest
  simp only at conserved reported
  cases a with
  | canTransmit accepted => exact honest_transmit stepped handled ⟨conserved, reported⟩
  | obdWait stale =>
    refine iff_of_true ?_ trivial
    cases stepped with
    | enqueuePending frame here room =>
      exact ⟨by simp [noteDeliveries, here, conserved], by simpa [noteDeliveries, here] using reported⟩
    | _ => exact ⟨by simp_all [noteDeliveries], by simp_all [noteDeliveries]⟩
  | mqttClient jdata stale =>
    refine iff_of_true ?_ trivial
    cases stepped with
    | enqueueResponse frame ops next room =>
      exact ⟨by simp [noteDeliveries, next, conserved], by simpa [noteDeliveries, next] using reported⟩
    | _ => exact ⟨by simp_all [noteDeliveries], by simp_all [noteDeliveries]⟩
  | _ =>
    refine iff_of_true ?_ trivial
    cases stepped <;> exact ⟨conserved, reported⟩

theorem honest_iff (actions : List Action) :
    deliveriesHistory.Always Honest deliveriesHistory.init actions ↔
      deliveriesHistory.Along DriverAccepts deliveriesHistory.init actions := by
  have kept (s : State) (a : Action) (t : State) (deliveries : Deliveries)
      (stepped : firmware.step s a = some t) (handled : Handled (s, deliveries)) :
      Handled (t, noteDeliveries deliveries s a) := handled_step (step_iff.mp stepped) handled
  have start : Handled (initialState, ⟨[], [], 0⟩) := rfl
  have balanced : Honest (initialState, ⟨[], [], 0⟩) := ⟨rfl, Nat.zero_le _⟩
  apply System.observed_always_iff kept _ start balanced
  intro s a t deliveries handled honest stepped
  exact honest_step (step_iff.mp stepped) handled honest

-- The first cycle is answered while its pending frame waits, and the driver refuses the frame.
def refusedRun : List Action :=
  startUp ++ arrive ++ controls 4 ++ transmits 10 ++ timers 3 ++ controls 4 ++
    List.replicate 2 answer ++ controls 3 ++ List.replicate 4 (.canTransmit false)

theorem frame_refused : ∃ frame,
    deliveriesHistory.Reachable (after refusedRun, ⟨[frame], [], 1⟩) ∧
      (after refusedRun).txCanQueue.items = [] ∧ (after refusedRun).canTransmitPc = .receive ∧
      ¬ Honest (after refusedRun, ⟨[frame], [], 1⟩) := by
  refine ⟨responsePending blankFrame, ⟨refusedRun, rfl⟩, rfl, rfl, fun honest => ?_⟩
  exact absurd honest.reported (by decide)

end CanMaster
