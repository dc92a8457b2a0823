import Mathlib.Data.List.Forall2
import CanMaster.Firmware.Steps

set_option autoImplicit false

namespace CanMaster

open Transition

/-- The frames for which `can_receive` returned `ESP_OK`, in order, and the master requests
built so far. -/
structure Arrivals where
  received : List CanMessage
  built : List MasterRequest

def noteArrivals (arrivals : Arrivals) (s : State) : Action → Arrivals
  | .canReceive (some bus) =>
      if s.canReceivePc = .receive then
        { arrivals with received := arrivals.received ++ [bus.rxMsg] }
      else arrivals
  | .mqttTransmit _ _ =>
      match s.mqttTransmitPc with
      | .drain request 0 => { arrivals with built := arrivals.built ++ [request] }
      | _ => arrivals
  | _ => arrivals

def arrivalsHistory : System (State × Arrivals) Action := firmware.observed ⟨[], []⟩ noteArrivals

-- The frames of the request under construction, the one just dequeued for it included.
def building : MqttTransmitPc → List CanMsgTimestamped
  | .drain request _ | .recount request => request.commands
  | _ => []

def inHand : CanReceivePc → List CanMsgTimestamped
  | .sendEvent frame | .sendFrame frame => [frame]
  | _ => []

def uplinkFrames (s : State) (arrivals : Arrivals) : List CanMsgTimestamped :=
  arrivals.built.flatMap MasterRequest.commands ++ building s.mqttTransmitPc ++
    s.rxCanQueue.items ++ inHand s.canReceivePc

structure Records (arrival : CanMessage × Nat) (frame : CanMsgTimestamped) : Prop where
  id : frame.id.toNat = arrival.2 % 256
  identifier : frame.msg.identifier = arrival.1.identifier
  dataLengthCode : frame.msg.dataLengthCode = arrival.1.dataLengthCode
  data : ∀ j (_ : j < 8), j < arrival.1.dataLengthCode.toNat →
    frame.msg.data[j] = arrival.1.data[j]

def Accounted (s : State) (arrivals : Arrivals) : Prop :=
  List.Forall₂ Records arrivals.received.zipIdx (uplinkFrames s arrivals)

theorem copyData_get (source target : Vector UInt8 8) (count j : Nat) (inside : j < 8)
    (copied : j < count) : (copyData source target count)[j] = source[j] := by
  unfold copyData
  induction count with
  | zero => omega
  | succ count ih =>
    rw [List.range_succ, List.foldl_append, List.foldl_cons, List.foldl_nil]
    by_cases last : count = j
    next =>
      subst last
      simp [inside]
    next =>
      rw [Vector.getElem_setIfInBounds_ne inside last]
      exact ih (by omega)

theorem stamp_records (cntRxCan : UInt8) (bus : BusFrame) (i : Nat)
    (counted : cntRxCan.toNat = i % 256) : Records (bus.rxMsg, i) (stamp cntRxCan bus) := by
  constructor
  · simp [stamp, counted]
  · rfl
  · rfl
  · exact fun j inside copied => copyData_get _ _ _ j inside copied

structure ArrivalsKept (s : State) (arrivals : Arrivals) : Prop where
  counted : s.cntRxCan.toNat = arrivals.received.length % 256
  accounted : Accounted s arrivals

theorem arrivalsKept_same {s t : State} {arrivals later : Arrivals} (kept : ArrivalsKept s arrivals)
    (count : t.cntRxCan = s.cntRxCan) (received : later.received = arrivals.received)
    (frames : uplinkFrames t later = uplinkFrames s arrivals) : ArrivalsKept t later := by
  constructor
  · rw [count, received]
    exact kept.counted
  · unfold Accounted
    rw [received, frames]
    exact kept.accounted

theorem noteArrivals_elsewhere (arrivals : Arrivals) {s : State} (bus : Option BusFrame)
    (elsewhere : s.canReceivePc ≠ .receive) :
    noteArrivals arrivals s (.canReceive bus) = arrivals := by
  cases bus <;> simp [noteArrivals, elsewhere]

theorem arrivalsKept_receive {s t : State} {arrivals : Arrivals} {bus : Option BusFrame}
    (stepped : Step s (.canReceive bus) t) (kept : ArrivalsKept s arrivals) :
    ArrivalsKept t (noteArrivals arrivals s (.canReceive bus)) := by
  cases stepped with
  | takeCanRx here given =>
    rw [noteArrivals_elsewhere arrivals bus (by simp [here])]
    exact arrivalsKept_same kept rfl rfl (by simp [uplinkFrames, inHand, here])
  | receiveFailed here => exact kept
  | receiveFrame bus here =>
    have accounted := kept.accounted
    unfold Accounted at accounted
    simp only [uplinkFrames, inHand, here, List.append_nil] at accounted
    constructor
    next => simp [noteArrivals, here, kept.counted]
    next =>
      have fresh := stamp_records s.cntRxCan bus _ kept.counted
      simp only [Accounted, noteArrivals, here, if_true, uplinkFrames, inHand, List.zipIdx_append]
      apply List.rel_append accounted
      simpa using fresh
  | postCanReceived frame here room =>
    rw [noteArrivals_elsewhere arrivals bus (by simp [here])]
    exact arrivalsKept_same kept rfl rfl (by simp [uplinkFrames, inHand, here])
  | enqueueRx frame here room =>
    rw [noteArrivals_elsewhere arrivals bus (by simp [here])]
    exact arrivalsKept_same kept rfl rfl (by simp [uplinkFrames, inHand, here])

theorem arrivalsKept_transmit {s t : State} {arrivals : Arrivals} {tv : Timeval}
    {attempt : PublishAttempt} (stepped : Step s (.mqttTransmit tv attempt) t)
    (kept : ArrivalsKept s arrivals) :
    ArrivalsKept t (noteArrivals arrivals s (.mqttTransmit tv attempt)) := by
  cases stepped with
  | dequeueRx request cntMsg frame rest here more head =>
    have noted : noteArrivals arrivals s (.mqttTransmit tv attempt) = arrivals := by
      simp only [noteArrivals, here]
      split <;> simp_all
    rw [noted]
    exact arrivalsKept_same kept rfl rfl (by simp [uplinkFrames, building, here, head])
  | dequeueFailed request cntMsg here more empty =>
    have noted : noteArrivals arrivals s (.mqttTransmit tv attempt) = arrivals := by
      simp only [noteArrivals, here]
      split <;> simp_all
    rwa [noted]
  | closeRequest request here =>
    refine arrivalsKept_same kept rfl ?_ ?_
    next => simp [noteArrivals, here]
    next => simp [noteArrivals, uplinkFrames, building, here]
  | _ =>
    refine arrivalsKept_same kept rfl ?_ ?_
    next => simp_all [noteArrivals]
    next => simp_all [noteArrivals, uplinkFrames, building]

theorem arrivalsKept_step {s t : State} {arrivals : Arrivals} {a : Action} (stepped : Step s a t)
    (kept : ArrivalsKept s arrivals) : ArrivalsKept t (noteArrivals arrivals s a) := by
  cases a with
  | canReceive bus => exact arrivalsKept_receive stepped kept
  | mqttTransmit tv attempt => exact arrivalsKept_transmit stepped kept
  | _ =>
    have same : t.cntRxCan = s.cntRxCan ∧ t.rxCanQueue = s.rxCanQueue ∧
        t.canReceivePc = s.canReceivePc ∧ t.mqttTransmitPc = s.mqttTransmitPc := by
      cases stepped <;> exact ⟨rfl, rfl, rfl, rfl⟩
    obtain ⟨count, queue, receive, transmit⟩ := same
    refine arrivalsKept_same kept count rfl ?_
    simp [uplinkFrames, noteArrivals, queue, receive, transmit]

theorem uplink_accounted {s : State} {arrivals : Arrivals}
    (reached : arrivalsHistory.Reachable (s, arrivals)) : Accounted s arrivals := by
  have start : ArrivalsKept initialState ⟨[], []⟩ := ⟨rfl, .nil⟩
  have kept : ArrivalsKept s arrivals := System.observed_invariant start
    (fun _ _ _ _ stepped => arrivalsKept_step (step_iff.mp stepped)) reached
  exact kept.accounted

-- One frame is in a request that has been built, and the next one is in `rxCanQueue`.
def secondFrameRun : List Action := startUp ++ arrive ++ controls 4 ++ transmits 7 ++ arrive

theorem secondFrame_accounted : ∃ arrivals : Arrivals,
    arrivalsHistory.Reachable (after secondFrameRun, arrivals) ∧
      arrivals.received.length = 2 ∧ arrivals.built.length = 1 ∧
      Accounted (after secondFrameRun) arrivals := by
  have reached : arrivalsHistory.Reachable (after secondFrameRun,
      ⟨[blankFrame.msg, blankFrame.msg], [⟨0, 0, 1, [stamp 0 blankBus]⟩]⟩) :=
    ⟨secondFrameRun, rfl⟩
  exact ⟨_, reached, rfl, rfl, uplink_accounted reached⟩

end CanMaster
