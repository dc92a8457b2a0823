import CanMaster.Control.SelfSend

set_option autoImplicit false

namespace CanMaster

open Transition

def ControlStuck (s : State) : Prop := SelfSend s ∧ s.controlEvents.Full

theorem controlStuck_step {s t : State} {a : Action} (stepped : Step s a t)
    (stuck : ControlStuck s) : ControlStuck t := by
  obtain ⟨⟨event, member⟩, full⟩ := stuck
  have noRoom : ¬ s.controlEvents.items.length < controlQueueMax :=
    fun room => BoundedQueue.not_full.mpr room full
  by_cases control : a = .control
  · subst control
    cases stepped with
    | controlReceive event rest idle head => simp [idle] at member
    | controlGive semaphore ops next => exact ⟨⟨event, by simpa [next] using member⟩, full⟩
    | controlChange newState ops next => exact ⟨⟨event, by simpa [next] using member⟩, full⟩
    | controlSend event ops next room => exact absurd room noRoom
  · have events := other_events stepped control
    have bound := t.controlEvents.bound
    refine ⟨⟨event, (other_control stepped control).2.2 ▸ member⟩, ?_⟩
    simp only [BoundedQueue.Full] at full ⊢
    simp only [events, List.length_append] at bound ⊢
    omega

def ControlRun : State → State → Prop :=
  Relation.ReflTransGen fun s t => Step s .control t

theorem ControlRun.reaches {s t : State} (ran : ControlRun s t) : firmware.Reaches s t := by
  induction ran with
  | refl => exact System.reaches_refl _ _
  | tail _ stepped ih => exact ih.trans (System.reaches_step (step_iff.mpr stepped))

theorem ControlRun.invariant {inv : State → Prop}
    (kept : ∀ s t, Step s .control t → inv s → inv t) {s t : State} (ran : ControlRun s t)
    (start : inv s) : inv t := by
  induction ran with
  | refl => exact start
  | tail _ stepped ih => exact kept _ _ stepped ih

theorem ControlRun.sameTasks {s t : State} (ran : ControlRun s t) : SameTasks s t := by
  induction ran with
  | refl => constructor <;> rfl
  | tail _ stepped ih => exact ih.trans (control_sameTasks stepped)

def Settled (s : State) : Prop := s.pending = [] ∧ s.controlEvents.items = []

-- Every handler costs less than the event it consumes, where its own `EV_START` is the cheapest event
-- and RESPONSE_TRANSMITTED, which answers every event with one, is a debt.
def eventCost : ControlEvent → Nat
  | .start => 3
  | _ => 10

def opCost : ControlOp → Nat
  | .send _ => 4
  | _ => 1

def stateCost : ControlState → Nat
  | .responseTransmitted => 3
  | _ => 0

def controlCost (s : State) : Nat :=
  (s.controlEvents.items.map eventCost).sum + (s.pending.map opCost).sum +
    stateCost (landing s.cs s.pending)

theorem controlHandler_cost (cs : ControlState) (event : ControlEvent) :
    ((controlHandler cs event).map opCost).sum + stateCost (controlNext cs event) <
      eventCost event + stateCost cs := by
  cases cs <;> cases event <;> decide

theorem control_cost {s t : State} (stepped : Step s .control t)
    (handling : Handling s.cs s.pending) : controlCost t < controlCost s := by
  cases stepped with
  | controlReceive event rest idle head =>
    have cheaper := controlHandler_cost s.cs event
    simp only [controlNext] at cheaper
    simp only [controlCost, BoundedQueue.tail_items, head, idle, List.tail_cons, List.map_cons,
      List.sum_cons, List.map_nil, List.sum_nil, landing]
    omega
  | controlGive semaphore ops next =>
    simp only [controlCost, next, List.map_cons, List.sum_cons, opCost, landing]
    omega
  | controlChange newState ops next =>
    simp only [controlCost, next, List.map_cons, List.sum_cons, opCost, landing]
    omega
  | controlSend event ops next room =>
    rw [next] at handling
    obtain ⟨rfl, rfl, _⟩ := handling_send handling
    simp only [controlCost, next, BoundedQueue.push_items, List.map_append, List.sum_append,
      List.map_cons, List.map_nil, List.sum_cons, List.sum_nil, opCost, eventCost, landing]
    omega

structure ControlAlive (s : State) : Prop where
  handling : Handling s.cs s.pending
  free : ¬ ControlStuck s

theorem controlAlive_of_idle {s : State} (handling : Handling s.cs s.pending)
    (idle : s.pending = []) : ControlAlive s := by
  refine ⟨handling, ?_⟩
  rintro ⟨⟨event, member⟩, _⟩
  simp [idle] at member

theorem control_progress (s : State) (alive : ControlAlive s) (unsettled : ¬ Settled s) :
    ∃ t, Step s .control t ∧ ControlAlive t ∧ controlCost t < controlCost s := by
  suffices progress : ∃ t, Step s .control t ∧ ¬ ControlStuck t by
    obtain ⟨t, stepped, free⟩ := progress
    exact ⟨t, stepped, ⟨handling_control stepped alive.handling, free⟩,
      control_cost stepped alive.handling⟩
  have free := alive.free
  cases pending : s.pending with
  | nil =>
    cases head : s.controlEvents.items with
    | nil => exact absurd ⟨pending, head⟩ unsettled
    | cons event rest =>
      refine ⟨_, .controlReceive event rest pending head, ?_⟩
      rintro ⟨_, full⟩
      have bound := s.controlEvents.bound
      simp only [BoundedQueue.Full, BoundedQueue.tail_items, head, List.tail_cons] at full
      simp only [head, List.length_cons] at bound
      omega
  | cons op ops =>
    cases op with
    | give semaphore =>
      refine ⟨_, .controlGive semaphore ops pending, ?_⟩
      rintro ⟨⟨event, member⟩, full⟩
      exact free ⟨⟨event, by simp [pending, member]⟩, full⟩
    | changeState newState =>
      refine ⟨_, .controlChange newState ops pending, ?_⟩
      rintro ⟨⟨event, member⟩, full⟩
      exact free ⟨⟨event, by simp [pending, member]⟩, full⟩
    | send event =>
      have room : s.controlEvents.items.length < controlQueueMax :=
        BoundedQueue.not_full.mp fun full => free ⟨⟨event, by simp [pending]⟩, full⟩
      refine ⟨_, .controlSend event ops pending room, ?_⟩
      have handling := alive.handling
      rw [pending] at handling
      rintro ⟨⟨later, member⟩, _⟩
      simp [(handling_send handling).1] at member

theorem control_settles {s : State} (alive : ControlAlive s) :
    ∃ t, ControlRun s t ∧ ControlAlive t ∧ Settled t :=
  System.exists_goal_of_potential controlCost control_progress alive

def ConsumedIn (state : ControlState) (event : ControlEvent) :
    ControlState → List ControlEvent → Prop
  | _, [] => False
  | cs, head :: rest => (cs = state ∧ head = event) ∨ ConsumedIn state event (controlNext cs head) rest

instance decidableConsumedIn (state : ControlState) (event : ControlEvent) :
    (cs : ControlState) → (events : List ControlEvent) →
      Decidable (ConsumedIn state event cs events)
  | _, [] => inferInstanceAs (Decidable False)
  | cs, head :: rest =>
      @instDecidableOr _ _ inferInstance
        (decidableConsumedIn state event (controlNext cs head) rest)

theorem consumedIn_append (state : ControlState) (event : ControlEvent) (cs : ControlState)
    (events later : List ControlEvent) :
    ConsumedIn state event cs (events ++ later) ↔
      ConsumedIn state event cs events ∨
        ConsumedIn state event (events.foldl controlNext cs) later := by
  induction events generalizing cs with
  | nil => simp [ConsumedIn]
  | cons head rest ih => simp [ConsumedIn, ih, or_assoc]

theorem not_consumedIn {state : ControlState} {event : ControlEvent} (cs : ControlState)
    {events : List ControlEvent} (fresh : event ∉ events) :
    ¬ ConsumedIn state event cs events := by
  induction events generalizing cs with
  | nil => exact id
  | cons head rest ih =>
    rw [List.mem_cons, not_or] at fresh
    rintro (⟨_, same⟩ | later)
    next => exact fresh.1 same.symm
    next => exact ih (controlNext cs head) fresh.2 later

-- The state in which `control_task` will be once it has consumed what waits for it now.
def consumedState (s : State) : ControlState :=
  s.controlEvents.items.foldl controlNext (landing s.cs s.pending)

theorem consumedState_control {s t : State} (stepped : Step s .control t)
    (handling : Handling s.cs s.pending) :
    consumedState t = consumedState s ∨
      consumedState t = controlNext (consumedState s) .start := by
  cases stepped with
  | controlReceive event rest idle head =>
    left
    simp [consumedState, idle, head, landing, controlNext]
  | controlGive semaphore ops next =>
    left
    simp [consumedState, next, landing]
  | controlChange newState ops next =>
    left
    simp [consumedState, next, landing]
  | controlSend event ops next room =>
    right
    rw [next] at handling
    obtain ⟨rfl, rfl, _⟩ := handling_send handling
    simp [consumedState, next, landing]

theorem consumedState_other {s t : State} {a : Action} (stepped : Step s a t)
    (other : a ≠ .control) :
    consumedState t = (posted s a).foldl controlNext (consumedState s) := by
  obtain ⟨cs, _, pending⟩ := other_control stepped other
  simp only [consumedState, cs, pending, other_events stepped other, List.foldl_append]

theorem consumedState_settled {s : State} (settled : Settled s) : consumedState s = s.cs := by
  simp [consumedState, settled.1, settled.2, landing]

-- The semaphore is given, or the handler at work will give it, or one of the events that
-- already wait in `controlEvents` will be consumed in the state that gives it.
def GiveDue (semaphore : Semaphore) (state : ControlState) (event : ControlEvent) (s : State) :
    Prop :=
  s.semaphores.given semaphore = true ∨ .give semaphore ∈ s.pending ∨
    ConsumedIn state event (landing s.cs s.pending) s.controlEvents.items

instance (semaphore : Semaphore) (state : ControlState) (event : ControlEvent) (s : State) :
    Decidable (GiveDue semaphore state event s) :=
  inferInstanceAs (Decidable (_ ∨ _ ∨ _))

theorem giveDue_settled {semaphore : Semaphore} {state : ControlState} {event : ControlEvent}
    {s : State} (settled : Settled s) :
    GiveDue semaphore state event s ↔ s.semaphores.given semaphore = true := by
  simp [GiveDue, settled.1, settled.2, ConsumedIn]

theorem giveDue_control {semaphore : Semaphore} {state : ControlState} {event : ControlEvent}
    (givenOn : GivenOn semaphore state event) (foreign : event ≠ .start) {s t : State}
    (stepped : Step s .control t) (handling : Handling s.cs s.pending) :
    GiveDue semaphore state event t ↔ GiveDue semaphore state event s := by
  cases stepped with
  | controlReceive received rest idle head =>
    simp [GiveDue, idle, head, landing, ConsumedIn, givenOn s.cs received, controlNext]
  | controlGive other ops next =>
    simp only [GiveDue, next, landing, given_give, List.mem_cons, ControlOp.give.injEq,
      eq_comm (a := other)]
    tauto
  | controlChange newState ops next => simp [GiveDue, next, landing]
  | controlSend sent ops next room =>
    rw [next] at handling
    obtain ⟨rfl, rfl, _⟩ := handling_send handling
    have fresh : ¬ ConsumedIn state event (s.controlEvents.items.foldl controlNext s.cs) [.start] :=
      not_consumedIn _ (by simpa using foreign)
    simp [GiveDue, next, landing, consumedIn_append, fresh]

theorem giveDue_other {semaphore : Semaphore} {state : ControlState} {event : ControlEvent}
    {s t : State} {a : Action} (stepped : Step s a t) (other : a ≠ .control)
    (same : t.semaphores.given semaphore = s.semaphores.given semaphore)
    (fresh : event ∉ posted s a) :
    GiveDue semaphore state event t ↔ GiveDue semaphore state event s := by
  obtain ⟨cs, _, pending⟩ := other_control stepped other
  simp only [GiveDue, same, cs, pending, other_events stepped other, consumedIn_append,
    not_consumedIn _ fresh, or_false]

theorem giveDue_run {semaphore : Semaphore} {state : ControlState} {event : ControlEvent}
    (givenOn : GivenOn semaphore state event) (foreign : event ≠ .start) {s t : State}
    (ran : ControlRun s t) (handling : Handling s.cs s.pending)
    (due : GiveDue semaphore state event s) : GiveDue semaphore state event t := by
  have next (u v : State) (stepped : Step u .control v)
      (held : Handling u.cs u.pending ∧ GiveDue semaphore state event u) :
      Handling v.cs v.pending ∧ GiveDue semaphore state event v :=
    ⟨handling_control stepped held.1,
      (giveDue_control givenOn foreign stepped held.1).mpr held.2⟩
  exact (ran.invariant next ⟨handling, due⟩).2

theorem control_gives {semaphore : Semaphore} {state : ControlState} {event : ControlEvent}
    (givenOn : GivenOn semaphore state event) (foreign : event ≠ .start) {s : State}
    (alive : ControlAlive s) (due : GiveDue semaphore state event s) :
    ∃ t, ControlRun s t ∧ ControlAlive t ∧ Settled t ∧ t.semaphores.given semaphore = true := by
  obtain ⟨t, ran, kept, settled⟩ := control_settles alive
  have still := giveDue_run givenOn foreign ran alive.handling due
  exact ⟨t, ran, kept, settled, (giveDue_settled settled).mp still⟩

end CanMaster
