import CanMaster.Control.Handling

set_option autoImplicit false

namespace CanMaster

open Transition

def finishHandler : List ControlOp → State → State
  | .give semaphore :: ops, s =>
      finishHandler ops { s with semaphores := s.semaphores.give semaphore, pending := ops }
  | .changeState newState :: ops, s =>
      finishHandler ops { s with prevState := s.cs, cs := newState, pending := ops }
  | ops, s => { s with pending := ops }

-- The event, what its handler gives and the change of state are one step. An own send is the next.
def atomicStep (s : State) : Action → Option State
  | .control => (controlTask s).map fun t => finishHandler t.pending t
  | a => step s a

def atomicFirmware : System State Action := ⟨initialState, atomicStep⟩

def atomicAfter (actions : List Action) : State :=
  (atomicFirmware.run atomicFirmware.init actions).getD initialState

def atomicStartUp : List Action := controls 2 ++ [.canReceive none]

theorem atomicStep_other {s : State} {a : Action} (other : a ≠ .control) :
    atomicStep s a = step s a := by
  cases a <;> first | contradiction | rfl

theorem finishHandler_reaches (ops : List ControlOp) (s : State) (pending : s.pending = ops) :
    firmware.Reaches s (finishHandler ops s) := by
  induction ops generalizing s with
  | nil =>
    have same : finishHandler [] s = s := by simp [finishHandler, ← pending]
    rw [same]
    exact System.reaches_refl _ _
  | cons op ops ih =>
    cases op with
    | give semaphore => exact .head (step_iff.mpr (.controlGive semaphore ops pending)) (ih _ rfl)
    | changeState newState =>
      exact .head (step_iff.mpr (.controlChange newState ops pending)) (ih _ rfl)
    | send event =>
      have same : finishHandler (.send event :: ops) s = s := by simp [finishHandler, ← pending]
      rw [same]
      exact System.reaches_refl _ _

theorem atomicStep_reaches {s t : State} {a : Action}
    (stepped : atomicFirmware.step s a = some t) : firmware.Reaches s t := by
  by_cases control : a = .control
  · subst control
    obtain ⟨u, first, rfl⟩ := Option.map_eq_some_iff.mp stepped
    have received : firmware.step s .control = some u := first
    exact .head received (finishHandler_reaches u.pending u rfl)
  · have same : firmware.step s a = some t := (atomicStep_other control).symm.trans stepped
    exact System.reaches_step same

theorem atomic_reachable {s : State} (reached : atomicFirmware.Reachable s) :
    firmware.Reachable s :=
  System.reaches_of_steps (fun _ _ _ stepped => atomicStep_reaches stepped) reached

theorem atomic_invariant {inv : State → Prop} (kept : ∀ s a t, Step s a t → inv s → inv t)
    {s t : State} {a : Action} (stepped : atomicFirmware.step s a = some t) (held : inv s) :
    inv t :=
  System.reaches_invariant (fun s a t next => kept s a t (step_iff.mp next))
    (atomicStep_reaches stepped) held

theorem finishHandler_cs (ops : List ControlOp) (s : State) (last : SendsLast ops) :
    (finishHandler ops s).cs = landing s.cs ops := by
  induction ops generalizing s with
  | nil => rfl
  | cons op ops ih =>
    cases op with
    | give semaphore => exact ih _ last
    | changeState newState => exact ih _ last
    | send event =>
      obtain rfl : ops = [] := last
      rfl

theorem finishHandler_given (ops : List ControlOp) (s : State) (semaphore : Semaphore)
    (last : SendsLast ops) :
    (finishHandler ops s).semaphores.given semaphore = true ↔
      s.semaphores.given semaphore = true ∨ .give semaphore ∈ ops := by
  induction ops generalizing s with
  | nil => simp [finishHandler]
  | cons op ops ih =>
    cases op with
    | give other =>
      rw [finishHandler, ih _ last, given_give]
      simp only [List.mem_cons, ControlOp.give.injEq]
      tauto
    | changeState newState => simp [finishHandler, ih _ last]
    | send event =>
      obtain rfl : ops = [] := last
      simp [finishHandler]

theorem finishHandler_pending (ops : List ControlOp) (s : State) (last : SendsLast ops) :
    (finishHandler ops s).pending = ops.filter ControlOp.isSend := by
  induction ops generalizing s with
  | nil => rfl
  | cons op ops ih =>
    cases op with
    | give semaphore => exact ih _ last
    | changeState newState => exact ih _ last
    | send event =>
      obtain rfl : ops = [] := last
      rfl

theorem finishHandler_same (ops : List ControlOp) (s : State) :
    SameTasks s (finishHandler ops s) ∧ (finishHandler ops s).controlEvents = s.controlEvents := by
  induction ops generalizing s with
  | nil => exact ⟨by constructor <;> rfl, rfl⟩
  | cons op ops ih =>
    cases op with
    | give semaphore =>
      have first : SameTasks s
          { s with semaphores := s.semaphores.give semaphore, pending := ops } := by
        constructor <;> rfl
      exact ⟨first.trans (ih _).1, (ih _).2⟩
    | changeState newState =>
      have first : SameTasks s { s with prevState := s.cs, cs := newState, pending := ops } := by
        constructor <;> rfl
      exact ⟨first.trans (ih _).1, (ih _).2⟩
    | send event => exact ⟨by constructor <;> rfl, rfl⟩

def react (s : State) (event : ControlEvent) : State :=
  finishHandler (controlHandler s.cs event)
    { s with controlEvents := s.controlEvents.tail, pending := controlHandler s.cs event }

@[simp] theorem react_cs (s : State) (event : ControlEvent) :
    (react s event).cs = controlNext s.cs event :=
  finishHandler_cs _ _ (controlHandler_sendsLast s.cs event)

theorem react_given (s : State) (event : ControlEvent) (semaphore : Semaphore) :
    (react s event).semaphores.given semaphore = true ↔
      s.semaphores.given semaphore = true ∨ .give semaphore ∈ controlHandler s.cs event :=
  finishHandler_given _ _ semaphore (controlHandler_sendsLast s.cs event)

theorem react_pending (s : State) (event : ControlEvent) :
    (react s event).pending = (controlHandler s.cs event).filter ControlOp.isSend :=
  finishHandler_pending _ _ (controlHandler_sendsLast s.cs event)

@[simp] theorem react_events (s : State) (event : ControlEvent) :
    (react s event).controlEvents = s.controlEvents.tail :=
  (finishHandler_same _ _).2

theorem react_same (s : State) (event : ControlEvent) : SameTasks s (react s event) := by
  have received : SameTasks s
      { s with controlEvents := s.controlEvents.tail, pending := controlHandler s.cs event } := by
    constructor <;> rfl
  exact received.trans (finishHandler_same _ _).1

-- Between two steps nothing is pending but a send of `EV_START`.
def Resting (s : State) : Prop := s.pending = [] ∨ s.pending = [.send .start]

theorem controlHandler_sends (cs : ControlState) (event : ControlEvent) :
    (controlHandler cs event).filter ControlOp.isSend = [] ∨
      (controlHandler cs event).filter ControlOp.isSend = [.send .start] := by
  cases cs <;> cases event <;> decide

inductive AtomicStep (s : State) : Action → State → Prop where
  | react (event : ControlEvent) (rest : List ControlEvent)
      (idle : s.pending = []) (head : s.controlEvents.items = event :: rest) :
      AtomicStep s .control (react s event)
  | resend (next : s.pending = [.send .start])
      (room : s.controlEvents.items.length < controlQueueMax) :
      AtomicStep s .control { s with
        controlEvents := s.controlEvents.push .start room
        pending := [] }
  | other (a : Action) (t : State) (other : a ≠ .control) (stepped : Step s a t) :
      AtomicStep s a t

theorem atomicStep_listed {s t : State} {a : Action} (stepped : atomicFirmware.step s a = some t)
    (resting : Resting s) : AtomicStep s a t := by
  by_cases control : a = .control
  · subst control
    obtain ⟨u, first, rfl⟩ := Option.map_eq_some_iff.mp stepped
    cases controlTask_step first with
    | controlReceive event rest idle head => exact .react event rest idle head
    | controlSend event ops next room =>
      rcases resting with idle | sending
      · simp [idle] at next
      · obtain ⟨rfl, rfl⟩ : event = .start ∧ ops = [] := by simpa [sending, eq_comm] using next
        exact .resend sending room
    | _ => rcases resting with idle | sending <;> simp_all
  · exact .other a t control (step_iff.mp ((atomicStep_other control).symm.trans stepped))

theorem resting_step {s t : State} {a : Action} (stepped : AtomicStep s a t)
    (resting : Resting s) : Resting t := by
  cases stepped with
  | react event rest idle head =>
    unfold Resting
    rw [react_pending]
    exact controlHandler_sends s.cs event
  | resend next room => exact .inl rfl
  | other a t other stepped =>
    unfold Resting
    rwa [(other_control stepped other).2.2]

theorem atomic_induction {γ : Type} {start : γ} {note : γ → State → Action → γ}
    (inv : State → γ → Prop) (initial : inv initialState start)
    (kept : ∀ s g a t, Resting s → AtomicStep s a t → inv s g → inv t (note g s a))
    {s : State} {g : γ} (reached : (atomicFirmware.observed start note).Reachable (s, g)) :
    inv s g := by
  have next (s : State) (a : Action) (t : State) (g : γ)
      (stepped : atomicFirmware.step s a = some t) (held : Resting s ∧ inv s g) :
      Resting t ∧ inv t (note g s a) := by
    have listed := atomicStep_listed stepped held.1
    exact ⟨resting_step listed held.1, kept s g a t held.1 listed held.2⟩
  have first : Resting initialState ∧ inv initialState start := ⟨.inr rfl, initial⟩
  exact (System.observed_invariant first next reached).2

theorem atomic_reachable_induction {inv : State → Prop} (initial : inv initialState)
    (kept : ∀ s a t, Resting s → AtomicStep s a t → inv s → inv t) {s : State}
    (reached : atomicFirmware.Reachable s) : inv s := by
  have next (s : State) (a : Action) (t : State) (stepped : atomicFirmware.step s a = some t)
      (held : Resting s ∧ inv s) : Resting t ∧ inv t := by
    have listed := atomicStep_listed stepped held.1
    exact ⟨resting_step listed held.1, kept s a t held.1 listed held.2⟩
  have first : Resting initialState ∧ inv initialState := ⟨.inr rfl, initial⟩
  exact (System.reachable_invariant first next reached).2

end CanMaster
