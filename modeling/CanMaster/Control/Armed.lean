import CanMaster.Control.Atomic
import CanMaster.Control.Restart

set_option autoImplicit false

namespace CanMaster

open Transition

def ControlState.busy : ControlState → Bool
  | .sendRequest | .waitResponse | .responseTransmitted => true
  | _ => false

def TimerArmed (s : State) : Prop :=
  s.semaphores.obdTxWait = true ∨ s.obdWaitPc ≠ .takeObdTxWait ∨
    .bigTimeout ∈ s.controlEvents.items

structure WayOut (s : State) : Prop where
  start : s.cs = .start → .start ∈ s.controlEvents.items ∨ s.pending = [.send .start]
  busy : s.cs.busy = true → TimerArmed s

theorem controlNext_busy (cs : ControlState) (event : ControlEvent)
    (busy : (controlNext cs event).busy = true) :
    (cs = .canRequestWait ∧ event = .canReceived) ∨ (cs.busy = true ∧ event ≠ .bigTimeout) := by
  revert busy
  cases cs <;> cases event <;> decide

theorem wayOut_react {s : State} {event : ControlEvent} {rest : List ControlEvent}
    (idle : s.pending = []) (head : s.controlEvents.items = event :: rest) (out : WayOut s) :
    WayOut (react s event) := by
  have given := react_given s event .obdTxWait
  rw [obdTxWait_givenOn] at given
  simp only [Semaphores.given] at given
  constructor
  next =>
    intro lands
    rw [react_cs] at lands
    rcases controlNext_start s.cs event lands with ⟨here, other⟩ | sends
    next =>
      have waiting := (out.start here).resolve_right (by simp [idle])
      rw [head] at waiting
      left
      simpa [head, Ne.symm other] using waiting
    next =>
      have kept : .send .start ∈ (controlHandler s.cs event).filter ControlOp.isSend :=
        List.mem_filter.mpr ⟨sends, rfl⟩
      right
      rw [react_pending]
      rcases controlHandler_sends s.cs event with none | one
      next => simp [none] at kept
      next => exact one
  next =>
    intro lands
    rw [react_cs] at lands
    unfold TimerArmed
    rw [given, (react_same s event).obdWaitPc]
    rcases controlNext_busy s.cs event lands with begins | ⟨busy, other⟩
    next => exact .inl (.inr begins)
    next =>
      rcases out.busy busy with token | running | posted
      next => exact .inl (.inl token)
      next => exact .inr (.inl running)
      next =>
        rw [head] at posted
        right
        right
        simpa [head, Ne.symm other] using posted

theorem timerArmed_other {s t : State} {a : Action} (stepped : Step s a t)
    (other : a ≠ .control) (armed : TimerArmed s) : TimerArmed t := by
  cases a with
  | obdWait stale =>
    -- Each step of the timer leaves its next sign of life behind.
    cases stepped <;> simp_all [TimerArmed]
  | _ =>
    have same : t.semaphores.obdTxWait = s.semaphores.obdTxWait ∧ t.obdWaitPc = s.obdWaitPc := by
      cases stepped <;> first | contradiction | exact ⟨rfl, rfl⟩
    unfold TimerArmed
    rw [same.1, same.2, other_events stepped other, List.mem_append]
    exact armed.imp id (Or.imp id .inl)

theorem wayOut_step {s t : State} {a : Action} (stepped : AtomicStep s a t) (out : WayOut s) :
    WayOut t := by
  cases stepped with
  | react event rest idle head => exact wayOut_react idle head out
  | resend next room =>
    constructor
    next => exact fun _ => .inl (by simp)
    next => exact fun busy => (out.busy busy).imp id (Or.imp id fun posted => by simp [posted])
  | other a t other stepped =>
    obtain ⟨cs, _, pending⟩ := other_control stepped other
    constructor
    next =>
      rw [cs, pending, other_events stepped other, List.mem_append]
      exact fun here => (out.start here).imp .inl id
    next =>
      rw [cs]
      exact fun busy => timerArmed_other stepped other (out.busy busy)

theorem wayOut_reachable {s : State} (reached : atomicFirmware.Reachable s) : WayOut s := by
  have start : WayOut initialState := ⟨fun _ => .inr rfl, by simp [initialState, ControlState.busy]⟩
  exact atomic_reachable_induction start (fun _ _ _ _ => wayOut_step) reached

def waitingRun : List Action :=
  atomicStartUp ++ arrive ++ controls 1 ++ transmits 10 ++ timers 1 ++ controls 2

theorem waiting_armed : (atomicAfter waitingRun).cs = .waitResponse ∧
    TimerArmed (atomicAfter waitingRun) := by
  have reached : atomicFirmware.Reachable (atomicAfter waitingRun) := ⟨waitingRun, rfl⟩
  exact ⟨rfl, (wayOut_reachable reached).busy rfl⟩

end CanMaster
