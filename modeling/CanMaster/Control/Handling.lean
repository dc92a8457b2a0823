import CanMaster.Firmware.Steps

set_option autoImplicit false

namespace CanMaster

open Transition

/-- Where `control_task` can stand: between two events, or part of the way through what a
handler does. -/
inductive Handling : ControlState → List ControlOp → Prop where
  | idle (cs : ControlState) (live : cs ≠ .stop ∧ cs ≠ .responseTimeout) : Handling cs []
  | restart : Handling .start [.send .start]
  | rearm : Handling .canRequestWait [.send .start]
  | startGive : Handling .start [.give .canRx, .changeState .canRequestWait]
  | startChange : Handling .start [.changeState .canRequestWait]
  | requestNetTx :
      Handling .canRequestWait [.give .netTx, .give .obdTxWait, .changeState .sendRequest]
  | requestObdTxWait : Handling .canRequestWait [.give .obdTxWait, .changeState .sendRequest]
  | requestChange : Handling .canRequestWait [.changeState .sendRequest]
  | sentGive : Handling .sendRequest [.give .netRx, .changeState .waitResponse]
  | sentChange : Handling .sendRequest [.changeState .waitResponse]
  | sendAbort : Handling .sendRequest [.changeState .start, .send .start]
  | answeredGive : Handling .waitResponse [.give .canTx, .changeState .responseTransmitted]
  | answeredChange : Handling .waitResponse [.changeState .responseTransmitted]
  | waitAbort : Handling .waitResponse [.changeState .start, .send .start]
  | transmitted : Handling .responseTransmitted [.changeState .canRequestWait, .send .start]

theorem controlHandler_handling (cs : ControlState) (event : ControlEvent)
    (live : cs ≠ .stop ∧ cs ≠ .responseTimeout) : Handling cs (controlHandler cs event) := by
  cases cs <;> cases event <;> simp at live <;>
    first
      | exact .idle _ (by simp)
      | constructor

theorem handling_live {cs : ControlState} {pending : List ControlOp}
    (handling : Handling cs pending) : cs ≠ .stop ∧ cs ≠ .responseTimeout := by
  cases handling with
  | idle cs live => exact live
  | _ => simp

theorem handling_send {cs : ControlState} {event : ControlEvent} {ops : List ControlOp}
    (handling : Handling cs (.send event :: ops)) :
    ops = [] ∧ event = .start ∧ (cs = .start ∨ cs = .canRequestWait) := by
  cases handling <;> simp

theorem handling_control {s t : State} (stepped : Step s .control t)
    (handling : Handling s.cs s.pending) : Handling t.cs t.pending := by
  have live := handling_live handling
  cases stepped with
  | controlReceive event rest idle head => exact controlHandler_handling s.cs event live
  | controlGive semaphore ops next =>
    generalize s.cs = cs at handling
    rw [next] at handling
    cases handling <;> constructor
  | controlChange newState ops next =>
    generalize s.cs = cs at handling
    rw [next] at handling
    cases handling <;> constructor <;> simp
  | controlSend event ops next room =>
    generalize s.cs = cs at handling live
    rw [next] at handling
    cases handling <;> exact .idle _ live

theorem handling_step {s t : State} {a : Action} (stepped : Step s a t)
    (handling : Handling s.cs s.pending) : Handling t.cs t.pending := by
  by_cases control : a = .control
  · subst control
    exact handling_control stepped handling
  · obtain ⟨cs, _, pending⟩ := other_control stepped control
    rwa [cs, pending]

theorem handling_reachable {s : State} (reached : firmware.Reachable s) :
    Handling s.cs s.pending :=
  System.reachable_invariant .restart (fun _ _ _ stepped => handling_step (step_iff.mp stepped))
    reached

end CanMaster
