import CanMaster.Control.Handling

set_option autoImplicit false

namespace CanMaster

open Transition

-- Whenever `control_task` is to be in START, the `EV_START` that takes it on is on its way.
def Restarts (s : State) : Prop :=
  landing s.cs s.pending = .start →
    .send .start ∈ s.pending ∨ .start ∈ s.controlEvents.items

-- Once START has been left, `can_receive_task` has `can_rx` or can take it.
def Listening (s : State) : Prop :=
  s.canReceivePc = .takeCanRx → landing s.cs s.pending ≠ .start →
    s.semaphores.canRx = true ∨ .give .canRx ∈ s.pending

theorem controlNext_start (cs : ControlState) (event : ControlEvent)
    (lands : controlNext cs event = .start) :
    (cs = .start ∧ event ≠ .start) ∨ .send .start ∈ controlHandler cs event := by
  revert lands
  cases cs <;> cases event <;> decide

theorem controlNext_leaves {cs : ControlState} {event : ControlEvent} (start : cs = .start)
    (leaves : controlNext cs event ≠ .start) : .give .canRx ∈ controlHandler cs event := by
  subst start
  revert leaves
  cases event <;> decide

theorem restarts_control {s t : State} (stepped : Step s .control t)
    (handling : Handling s.cs s.pending) (restarts : Restarts s) : Restarts t := by
  cases stepped with
  | controlReceive event rest idle head =>
    intro lands
    rcases controlNext_start s.cs event lands with ⟨here, other⟩ | sends
    next =>
      have waiting := restarts (by simpa [idle, landing] using here)
      rw [idle, head] at waiting
      right
      simpa [head, Ne.symm other] using waiting
    next => exact .inl sends
  | controlGive semaphore ops next => simpa [Restarts, next, landing] using restarts
  | controlChange newState ops next => simpa [Restarts, next, landing] using restarts
  | controlSend event ops next room =>
    rw [next] at handling
    obtain ⟨rfl, rfl, _⟩ := handling_send handling
    exact fun _ => .inr (by simp)

theorem restarts_step {s t : State} {a : Action} (stepped : Step s a t)
    (handling : Handling s.cs s.pending) (restarts : Restarts s) : Restarts t := by
  by_cases control : a = .control
  next =>
    subst control
    exact restarts_control stepped handling restarts
  next =>
    obtain ⟨cs, _, pending⟩ := other_control stepped control
    unfold Restarts
    rw [cs, pending, other_events stepped control, List.mem_append]
    exact fun lands => (restarts lands).imp id .inl

theorem listening_control {s t : State} (stepped : Step s .control t)
    (handling : Handling s.cs s.pending) (listening : Listening s) : Listening t := by
  cases stepped with
  | controlReceive event rest idle head =>
    intro here leaves
    by_cases start : s.cs = .start
    next => exact .inr (controlNext_leaves start leaves)
    next =>
      have given := listening here (by simpa [idle, landing] using start)
      rw [idle] at given
      exact .inl (given.resolve_right (by simp))
  | controlGive semaphore ops next =>
    intro here leaves
    have given := listening here (by simpa [next, landing] using leaves)
    rw [next, List.mem_cons] at given
    rcases given with taken | now | later
    next => exact .inl (by cases semaphore <;> simp [Semaphores.give, taken])
    next =>
      cases now
      exact .inl rfl
    next => exact .inr later
  | controlChange newState ops next => simpa [Listening, next, landing] using listening
  | controlSend event ops next room =>
    rw [next] at handling
    obtain ⟨rfl, rfl, _⟩ := handling_send handling
    simpa [Listening, next, landing] using listening

theorem listening_step {s t : State} {a : Action} (stepped : Step s a t)
    (handling : Handling s.cs s.pending) (listening : Listening s) : Listening t := by
  cases a with
  | control => exact listening_control stepped handling listening
  | canReceive bus => cases stepped <;> simp_all [Listening]
  | _ =>
    obtain ⟨cs, _, pending⟩ := other_control stepped (by simp)
    have same : t.canReceivePc = s.canReceivePc ∧ t.semaphores.canRx = s.semaphores.canRx := by
      cases stepped <;> exact ⟨rfl, rfl⟩
    unfold Listening
    rwa [cs, pending, same.1, same.2]

theorem restart_reachable {s : State} (reached : firmware.Reachable s) :
    Restarts s ∧ Listening s := by
  have start : Restarts initialState ∧ Listening initialState := by
    simp [Restarts, Listening, initialState, landing]
  have kept (s : State) (a : Action) (t : State) (before : firmware.Reachable s)
      (stepped : firmware.step s a = some t) (held : Restarts s ∧ Listening s) :
      Restarts t ∧ Listening t := by
    have listed := step_iff.mp stepped
    have handling := handling_reachable before
    exact ⟨restarts_step listed handling held.1, listening_step listed handling held.2⟩
  exact System.reachable_induction start kept reached

end CanMaster
