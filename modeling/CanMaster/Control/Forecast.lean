import CanMaster.Shared.Mailbox
import CanMaster.Control.SelfSend

set_option autoImplicit false

namespace CanMaster

open Transition Mailbox

/-- The state of `control_task`, the number of times that it has entered SEND_REQUEST, and the
cycles in which it has received an `EV_BIG_TIMEOUT`. -/
structure Phase where
  cs : ControlState
  cycle : Nat
  timedOut : List Nat
  deriving DecidableEq

def entries (ops : List ControlOp) : Nat := ops.count (.changeState .sendRequest)

def Phase.next (phase : Phase) (event : ControlEvent) : Phase where
  cs := controlNext phase.cs event
  cycle := phase.cycle + entries (controlHandler phase.cs event)
  timedOut := if event = .bigTimeout then phase.cycle :: phase.timedOut else phase.timedOut

/-- The history of the cycles, with a tag for each waiting event of one kind and the phase in
which it was to be received when it was posted. -/
structure Line (τ : Type) where
  cycle : Nat
  timedOut : List Nat
  waiting : List (τ × Phase)

variable {τ : Type}

-- Where the handler at work will leave `control_task`.
def Line.phase (line : Line τ) (s : State) : Phase :=
  ⟨landing s.cs s.pending, line.cycle + entries s.pending, line.timedOut⟩

-- Where the events that wait now will leave it.
def Line.outlook (line : Line τ) (s : State) : Phase :=
  s.controlEvents.items.foldl Phase.next (line.phase s)

def noteLine (kind : ControlEvent) (tag : τ) (line : Line τ) (s : State) : Action → Line τ
  | .control =>
      match s.pending with
      | [] =>
          { line with
            timedOut :=
              if s.controlEvents.items.head? = some .bigTimeout then line.cycle :: line.timedOut
              else line.timedOut
            waiting :=
              if s.controlEvents.items.head? = some kind then line.waiting.tail
              else line.waiting }
      | .changeState .sendRequest :: _ => { line with cycle := line.cycle + 1 }
      | _ => line
  | a =>
      { line with
        waiting := line.waiting ++ if kind ∈ posted s a then [(tag, line.outlook s)] else [] }

def Foretold (kind : ControlEvent) (s : State) (line : Line τ) : Prop :=
  Foretells Phase.next kind (line.phase s) s.controlEvents.items line.waiting

theorem foretold_receive {kind : ControlEvent} {s : State} {line : Line τ} {event : ControlEvent}
    {rest : List ControlEvent} (tag : τ) (foretold : Foretold kind s line) (idle : s.pending = [])
    (head : s.controlEvents.items = event :: rest) :
    Foretold kind
      { s with controlEvents := s.controlEvents.tail, pending := controlHandler s.cs event }
      (noteLine kind tag line s .control) := by
  have moved : (noteLine kind tag line s .control).phase
      { s with controlEvents := s.controlEvents.tail, pending := controlHandler s.cs event } =
        (line.phase s).next event := by
    by_cases timeout : event = .bigTimeout <;>
      simp [Line.phase, Phase.next, noteLine, idle, head, timeout, landing, entries, controlNext]
  unfold Foretold at foretold ⊢
  rw [moved, BoundedQueue.tail_items, head, List.tail_cons]
  rw [head] at foretold
  by_cases same : event = kind
  next =>
    subst same
    obtain ⟨first, later, waiting, still⟩ := foretold.take
    simpa [noteLine, idle, head, waiting] using still
  next => simpa [noteLine, idle, head, same] using foretold.skip same

theorem foretold_control {kind : ControlEvent} {s t : State} {line : Line τ} (tag : τ)
    (foreign : kind ≠ .start) (stepped : Step s .control t) (handling : Handling s.cs s.pending)
    (foretold : Foretold kind s line) : Foretold kind t (noteLine kind tag line s .control) := by
  cases stepped with
  | controlReceive event rest idle head => exact foretold_receive tag foretold idle head
  | controlGive semaphore ops next =>
    unfold Foretold at foretold ⊢
    simpa [noteLine, next, Line.phase, landing, entries] using foretold
  | controlChange newState ops next =>
    unfold Foretold at foretold ⊢
    cases newState <;>
      simpa [noteLine, next, Line.phase, landing, entries, Nat.add_assoc, Nat.add_comm 1]
        using foretold
  | controlSend event ops next room =>
    rw [next] at handling
    obtain ⟨rfl, rfl, _⟩ := handling_send handling
    have fresh : kind ∉ [ControlEvent.start] := by simpa using foreign
    have later := foretold.other fresh
    unfold Foretold
    simpa [noteLine, next, Line.phase, landing, entries] using later

theorem posted_eq {event : ControlEvent} {s : State} {a : Action} (posts : event ∈ posted s a) :
    posted s a = [event] := by
  obtain ⟨other, one⟩ := List.length_eq_one_iff.mp
    (Nat.le_antisymm (posted_length s a) (List.length_pos_of_mem posts))
  rw [one, List.mem_singleton] at posts
  rw [one, posts]

theorem foretold_other {kind : ControlEvent} {s t : State} {a : Action} {line : Line τ} (tag : τ)
    (stepped : Step s a t) (other : a ≠ .control) (foretold : Foretold kind s line) :
    Foretold kind t (noteLine kind tag line s a) := by
  obtain ⟨cs, _, pending⟩ := other_control stepped other
  have noted : noteLine kind tag line s a = { line with
      waiting := line.waiting ++ if kind ∈ posted s a then [(tag, line.outlook s)] else [] } := by
    cases a <;> first | contradiction | rfl
  have phase : ({ line with
      waiting := line.waiting ++ if kind ∈ posted s a then [(tag, line.outlook s)] else [] } :
      Line τ).phase t = line.phase s := by
    simp only [Line.phase, cs, pending]
  rw [noted]
  unfold Foretold at foretold ⊢
  rw [phase, other_events stepped other]
  by_cases posts : kind ∈ posted s a
  next =>
    rw [posted_eq posts]
    simpa [Line.outlook] using foretold.post tag
  next => simpa [posts] using foretold.other posts

theorem foretold_step {kind : ControlEvent} {s t : State} {a : Action} {line : Line τ} (tag : τ)
    (foreign : kind ≠ .start) (stepped : Step s a t) (handling : Handling s.cs s.pending)
    (foretold : Foretold kind s line) : Foretold kind t (noteLine kind tag line s a) := by
  by_cases control : a = .control
  next =>
    subst control
    exact foretold_control tag foreign stepped handling foretold
  next => exact foretold_other tag stepped control foretold

theorem mem_noteLine {kind : ControlEvent} {tag : τ} {line : Line τ} {s : State} {a : Action}
    {entry : τ × Phase} (member : entry ∈ (noteLine kind tag line s a).waiting) :
    entry ∈ line.waiting ∨ entry = (tag, line.outlook s) ∧ kind ∈ posted s a := by
  cases a with
  | control =>
    left
    simp only [noteLine] at member
    split at member
    next =>
      simp only at member
      split at member
      next => exact List.mem_of_mem_tail member
      next => exact member
    next => exact member
    next => exact member
  | _ =>
    simp only [noteLine, List.mem_append] at member
    rcases member with earlier | fresh
    next => exact .inl earlier
    next =>
      split at fresh
      next posts =>
        rw [List.mem_singleton] at fresh
        exact .inr ⟨fresh, posts⟩
      next => cases fresh

/-- `control_task` receives an event in the phase that was foretold when it was posted. -/
theorem foretold_head {kind : ControlEvent} {s : State} {line : Line τ}
    (foretold : Foretold kind s line) (idle : s.pending = [])
    (head : s.controlEvents.items.head? = some kind) :
    ∃ tag later, line.waiting = (tag, ⟨s.cs, line.cycle, line.timedOut⟩) :: later := by
  obtain ⟨rest, items⟩ : ∃ rest, s.controlEvents.items = kind :: rest := by
    simpa [List.head?_eq_some_iff] using head
  have now : line.phase s = ⟨s.cs, line.cycle, line.timedOut⟩ := by
    simp [Line.phase, idle, landing, entries]
  unfold Foretold at foretold
  rw [items, now] at foretold
  obtain ⟨tag, later, waiting, _⟩ := foretold.take
  exact ⟨tag, later, waiting⟩

structure Promised (kind : ControlEvent) (meets : τ → Phase → Prop) (s : State) (line : Line τ) :
    Prop where
  handling : Handling s.cs s.pending
  foretold : Foretold kind s line
  posts : ∀ entry ∈ line.waiting, meets entry.1 entry.2

theorem promised_step {kind : ControlEvent} {meets : τ → Phase → Prop} {s t : State} {a : Action}
    {line : Line τ} {tag : τ} (foreign : kind ≠ .start) (stepped : Step s a t)
    (posts : kind ∈ posted s a → meets tag (line.outlook s))
    (promised : Promised kind meets s line) :
    Promised kind meets t (noteLine kind tag line s a) where
  handling := handling_step stepped promised.handling
  foretold := foretold_step tag foreign stepped promised.handling promised.foretold
  posts := by
    intro entry member
    rcases mem_noteLine member with earlier | ⟨rfl, posted⟩
    next => exact promised.posts entry earlier
    next => exact posts posted

theorem promised_head {kind : ControlEvent} {meets : τ → Phase → Prop} {s : State} {line : Line τ}
    (promised : Promised kind meets s line) (idle : s.pending = [])
    (head : s.controlEvents.items.head? = some kind) :
    ∃ tag later, line.waiting = (tag, ⟨s.cs, line.cycle, line.timedOut⟩) :: later ∧
      meets tag ⟨s.cs, line.cycle, line.timedOut⟩ := by
  obtain ⟨tag, later, waiting⟩ := foretold_head promised.foretold idle head
  have first : (tag, ⟨s.cs, line.cycle, line.timedOut⟩) ∈ line.waiting := by simp [waiting]
  exact ⟨tag, later, waiting, promised.posts _ first⟩

end CanMaster
