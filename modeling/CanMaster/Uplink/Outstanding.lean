import CanMaster.Control.Atomic
import CanMaster.Uplink.Filling

set_option autoImplicit false

namespace CanMaster

open Transition

-- `net_tx` is taken, and `EV_NET_TRANSMIT_END` will be posted for a request that is not empty.
-- Before its first look at the queue the task may still find a frame there.
def OnTheWay (s : State) : Prop :=
  match s.mqttTransmitPc with
  | .takeNetTx | .delay => False
  | .countMessages | .sendEnd => True
  | .sendStart | .openRequest => s.rxCanQueue.items ≠ []
  | .drain request cntMsg =>
      request.commands ≠ [] ∨ (0 < cntMsg ∧ s.rxCanQueue.items ≠ [])
  | .recount request => request.commands ≠ []
  | .publish request => ∃ opened, request = some opened ∧ opened.commands ≠ []

def Outstanding (s : State) : Prop :=
  s.semaphores.netTx = true ∨ OnTheWay s ∨ .netTransmitEnd ∈ s.controlEvents.items

def SendsRequest (s : State) : Prop := s.cs = .sendRequest → Outstanding s

-- In SEND_REQUEST the first look at the queue finds a frame there, unless `net_tx` has been
-- given again or an `EV_NET_TRANSMIT_END` is still waiting.
def FindsFrame (s : State) : Action → Prop
  | .mqttTransmit _ _ =>
      s.mqttTransmitPc = .countMessages → s.cs = .sendRequest →
        s.rxCanQueue.items ≠ [] ∨ s.semaphores.netTx = true ∨
          .netTransmitEnd ∈ s.controlEvents.items
  | _ => True

theorem onTheWay_iff {s : State} (filling : Filling s) :
    OnTheWay s ↔ s.mqttTransmitPc ≠ .takeNetTx ∧ s.mqttTransmitPc ≠ .delay := by
  cases here : s.mqttTransmitPc with
  | drain request cntMsg =>
    simp only [Filling, Fills, here] at filling
    simp only [OnTheWay, here]
    by_cases opened : request.commands = []
    next =>
      have counted := filling.2 opened
      have waiting : s.rxCanQueue.items ≠ [] := List.length_pos_iff.mp (by omega)
      simp [counted, waiting]
    next => simp [opened]
  | _ =>
    simp only [Filling, Fills, here] at filling
    simp_all [OnTheWay, List.length_pos_iff]

theorem controlNext_sendRequest (cs : ControlState) (event : ControlEvent) :
    controlNext cs event = .sendRequest ↔
      (cs = .canRequestWait ∧ event = .canReceived) ∨
        (cs = .sendRequest ∧ event ≠ .netTransmitEnd ∧ event ≠ .bigTimeout) := by
  cases cs <;> cases event <;> decide

theorem sendsRequest_react {s : State} {event : ControlEvent} {rest : List ControlEvent}
    (head : s.controlEvents.items = event :: rest) (sends : SendsRequest s) :
    SendsRequest (react s event) := by
  have same := react_same s event
  have given := react_given s event .netTx
  rw [netTx_givenOn] at given
  simp only [Semaphores.given] at given
  intro entered
  rw [react_cs, controlNext_sendRequest] at entered
  rcases entered with waited | ⟨here, notEnd, _⟩
  next => exact .inl (given.mpr (.inr waited))
  next =>
    rcases sends here with taken | way | waiting
    next => exact .inl (given.mpr (.inl taken))
    next =>
      refine .inr (.inl ?_)
      unfold OnTheWay at way ⊢
      rwa [same.mqttTransmitPc, same.rxCanQueue]
    next =>
      rw [head, List.mem_cons] at waiting
      have later := waiting.resolve_left (Ne.symm notEnd)
      exact .inr (.inr (by simpa [head] using later))

theorem outstanding_mono {s t : State} {a : Action} (stepped : Step s a t) (other : a ≠ .control)
    (netTx : t.semaphores.netTx = s.semaphores.netTx)
    (way : OnTheWay s → OnTheWay t ∨ .netTransmitEnd ∈ posted s a) (sends : SendsRequest s) :
    SendsRequest t := by
  intro here
  rw [(other_control stepped other).1] at here
  have events := other_events stepped other
  unfold Outstanding
  rw [netTx, events, List.mem_append]
  rcases sends here with taken | busy | waiting
  next => exact .inl taken
  next => exact .inr ((way busy).imp id .inr)
  next => exact .inr (.inr (.inl waiting))

theorem outstanding_same {s t : State} {a : Action} (stepped : Step s a t) (other : a ≠ .control)
    (netTx : t.semaphores.netTx = s.semaphores.netTx)
    (pc : t.mqttTransmitPc = s.mqttTransmitPc) (filling : Filling s) (sends : SendsRequest s) :
    SendsRequest t := by
  apply outstanding_mono stepped other netTx _ sends
  rw [onTheWay_iff filling, onTheWay_iff (filling_step stepped filling), pc]
  exact .inl

theorem outstanding_transmit {s t : State} {tv : Timeval} {attempt : PublishAttempt}
    (stepped : Step s (.mqttTransmit tv attempt) t) (filling : Filling s)
    (sends : SendsRequest s) : SendsRequest t ↔ FindsFrame s (.mqttTransmit tv attempt) := by
  have later := filling_step stepped filling
  have keeps (here : s.mqttTransmitPc ≠ .countMessages)
      (netTx : t.semaphores.netTx = s.semaphores.netTx)
      (way : OnTheWay s → OnTheWay t ∨ .netTransmitEnd ∈ posted s (.mqttTransmit tv attempt)) :
      SendsRequest t ↔ FindsFrame s (.mqttTransmit tv attempt) :=
    ⟨fun _ counting => absurd counting here,
      fun _ => outstanding_mono stepped (by simp) netTx way sends⟩
  have moves (here : s.mqttTransmitPc ≠ .countMessages)
      (netTx : t.semaphores.netTx = s.semaphores.netTx)
      (waits : t.mqttTransmitPc = .takeNetTx ∨ t.mqttTransmitPc = .delay → ¬ OnTheWay s) :
      SendsRequest t ↔ FindsFrame s (.mqttTransmit tv attempt) := by
    apply keeps here netTx
    intro way
    rw [onTheWay_iff later]
    exact .inl ⟨fun waiting => waits (.inl waiting) way, fun waiting => waits (.inr waiting) way⟩
  cases stepped with
  | takeNetTx here given =>
    simp [SendsRequest, Outstanding, OnTheWay, FindsFrame, here]
  | countNone here empty =>
    simp [SendsRequest, Outstanding, OnTheWay, FindsFrame, here, empty]
  | countSome here waiting =>
    simp [SendsRequest, Outstanding, OnTheWay, FindsFrame, here, waiting]
  | postTransmitEnd here room =>
    exact keeps (by simp [here]) rfl fun _ => .inr (by simp [posted, here])
  | delayed here => exact moves (by simp [here]) rfl fun _ => by simp [OnTheWay, here]
  | dequeueFailed request cntMsg here more empty =>
    exact keeps (by simp [here]) rfl .inl
  | _ => exact moves (by simp_all) rfl (by simp)

theorem sendsRequest_step {s t : State} {a : Action} (stepped : AtomicStep s a t)
    (filling : Filling s) (sends : SendsRequest s) : SendsRequest t ↔ FindsFrame s a := by
  cases stepped with
  | react event rest idle head =>
    exact iff_of_true (sendsRequest_react head sends) trivial
  | resend next room =>
    refine iff_of_true (fun here => ?_) trivial
    simpa [Outstanding, OnTheWay] using sends here
  | other a t other stepped =>
    cases a with
    | control => contradiction
    | mqttTransmit tv attempt => exact outstanding_transmit stepped filling sends
    | canReceive bus =>
      refine iff_of_true ?_ trivial
      apply outstanding_same stepped other _ _ filling sends
      next => cases stepped <;> rfl
      next => cases stepped <;> rfl
    | _ =>
      have same := downlink_sameUplink stepped trivial
      exact iff_of_true (outstanding_same stepped other same.netTx same.mqttTransmitPc filling sends)
        trivial

theorem sendsRequest_iff (actions : List Action) :
    atomicFirmware.Always SendsRequest atomicFirmware.init actions ↔
      atomicFirmware.Along FindsFrame atomicFirmware.init actions := by
  have kept (s : State) (a : Action) (t : State) (stepped : atomicFirmware.step s a = some t)
      (held : Resting s ∧ Filling s) : Resting t ∧ Filling t :=
    ⟨resting_step (atomicStep_listed stepped held.1) held.1,
      atomic_invariant (fun _ _ _ => filling_step) stepped held.2⟩
  have start : Resting initialState ∧ Filling initialState := ⟨.inr rfl, trivial⟩
  have idle : SendsRequest initialState := by simp [SendsRequest, initialState]
  refine System.always_iff_along kept ?_ start idle actions
  intro s a t held sends stepped
  exact sendsRequest_step (atomicStep_listed stepped held.1) held.2 sends

-- The event of the first frame is consumed and its `net_tx` spent before the frame is queued.
def sleepingRun : List Action := atomicStartUp ++ announce ++ controls 1 ++ transmits 2

theorem request_slept : atomicFirmware.Reachable (atomicAfter sleepingRun) ∧
    ¬ SendsRequest (atomicAfter sleepingRun) := by
  refine ⟨⟨sleepingRun, rfl⟩, fun sends => ?_⟩
  rcases sends rfl with taken | way | waiting
  next => cases taken
  next => exact way
  next => cases waiting

end CanMaster
