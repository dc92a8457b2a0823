import CanMaster.Uplink.Filling

set_option autoImplicit false

namespace CanMaster

open Transition

def InRequest : MqttTransmitPc → Prop
  | .openRequest | .drain _ _ | .recount _ => True
  | _ => False

def noteSeen (seen : Nat) (s : State) : Action → Nat
  | .mqttTransmit _ _ =>
      match s.mqttTransmitPc with
      | .openRequest | .recount _ => s.rxCanQueue.items.length
      | _ => seen
  | _ => seen

def seenHistory : System (State × Nat) Action := firmware.observed 0 noteSeen

def transmitSteps : Action → Nat
  | .mqttTransmit _ _ => 1
  | _ => 0

def roundFor : Action → Nat
  | .canReceive bus => 2 * bus.toList.length
  | _ => 0

-- A frame that is received and not yet in `rxCanQueue`, where its send may be blocked.
def undelivered : CanReceivePc → Nat
  | .sendEvent _ | .sendFrame _ => 1
  | _ => 0

-- The steps that are left of the function if no frame arrives.
def drainSteps (waiting : Nat) : MqttTransmitPc → Nat
  | .openRequest | .recount _ => 2 * waiting + 2
  | .drain _ cntMsg => if cntMsg = 0 then 1 else 2 * waiting + 1
  | _ => 0

-- The count is no more than waits, since no other task receives from the queue.
structure Tallied (s : State) (seen : Nat) : Prop where
  counted : ∀ request cntMsg, s.mqttTransmitPc = .drain request cntMsg →
    cntMsg ≤ s.rxCanQueue.items.length ∧ seen = cntMsg
  closed : ∀ request, s.mqttTransmitPc = .publish request → seen = 0

theorem tallied_other {s t : State} {a : Action} {seen : Nat}
    (grown : s.rxCanQueue.items.length ≤ t.rxCanQueue.items.length)
    (same : t.mqttTransmitPc = s.mqttTransmitPc) (noted : noteSeen seen s a = seen)
    (tallied : Tallied s seen) : Tallied t (noteSeen seen s a) := by
  rw [noted]
  constructor
  next =>
    intro request cntMsg here
    obtain ⟨counted, saw⟩ := tallied.counted request cntMsg (same ▸ here)
    exact ⟨counted.trans grown, saw⟩
  next =>
    intro request here
    exact tallied.closed request (same ▸ here)

theorem tallied_transmit {s t : State} {tv : Timeval} {attempt : PublishAttempt} {seen : Nat}
    (stepped : Step s (.mqttTransmit tv attempt) t) (tallied : Tallied s seen) :
    Tallied t (noteSeen seen s (.mqttTransmit tv attempt)) := by
  cases stepped with
  | openEmpty here empty => constructor <;> simp [noteSeen, here, empty]
  | openRequest here waiting =>
    constructor <;> simp [noteSeen, here]
  | dequeueRx request cntMsg frame rest here more head => constructor <;> simp
  | dequeueFailed request cntMsg here more empty => simpa [noteSeen, here] using tallied
  | closeRequest request here =>
    have saw := (tallied.counted request 0 here).2
    constructor <;> simp [noteSeen, here, saw]
  | recount request here =>
    constructor <;> simp [noteSeen, here]
  | _ => constructor <;> simp

theorem tallied_step (s : State) (a : Action) (t : State) (seen : Nat)
    (stepped : firmware.step s a = some t) (tallied : Tallied s seen) :
    Tallied t (noteSeen seen s a) := by
  have listed := step_iff.mp stepped
  cases a with
  | mqttTransmit tv attempt => exact tallied_transmit listed tallied
  | canReceive bus =>
    have grown : s.rxCanQueue.items.length ≤ t.rxCanQueue.items.length := by
      cases listed <;> simp
    have same : t.mqttTransmitPc = s.mqttTransmitPc := by cases listed <;> rfl
    exact tallied_other grown same rfl tallied
  | control =>
    have same := control_sameTasks listed
    exact tallied_other (by rw [same.rxCanQueue]) same.mqttTransmitPc rfl tallied
  | _ =>
    have same := downlink_sameUplink listed trivial
    exact tallied_other (by rw [same.rxCanQueue]) same.mqttTransmitPc rfl tallied

-- The branch that would read an empty queue is never taken.
theorem Tallied.waits {s : State} {seen : Nat} (tallied : Tallied s seen)
    {request : MasterRequest} {cntMsg : Nat} (here : s.mqttTransmitPc = .drain request cntMsg)
    (more : 0 < cntMsg) : s.rxCanQueue.items ≠ [] := by
  have counted := (tallied.counted request cntMsg here).1
  exact List.length_pos_iff.mp (Nat.lt_of_lt_of_le more counted)

abbrev drainLeft (s : State) : Nat :=
  drainSteps s.rxCanQueue.items.length s.mqttTransmitPc + 2 * undelivered s.canReceivePc

theorem drainSteps_mono {fewer more : Nat} (grown : fewer ≤ more) (pc : MqttTransmitPc) :
    drainSteps more pc ≤ drainSteps fewer pc + 2 * (more - fewer) := by
  cases pc with
  | drain request cntMsg =>
    simp only [drainSteps]
    split <;> omega
  | _ => simp only [drainSteps]; omega

theorem drain_transmit {s t : State} {tv : Timeval} {attempt : PublishAttempt} {seen : Nat}
    (stepped : Step s (.mqttTransmit tv attempt) t) (inside : InRequest s.mqttTransmitPc)
    (tallied : Tallied s seen) :
    (∃ request, t.mqttTransmitPc = .publish request) ∨
      InRequest t.mqttTransmitPc ∧ drainLeft t + 1 ≤ drainLeft s := by
  cases stepped with
  | openEmpty here empty => exact .inl ⟨_, rfl⟩
  | openRequest here waiting =>
    have some : ¬ s.rxCanQueue.items.length = 0 := by simpa using waiting
    refine .inr ⟨trivial, ?_⟩
    simp only [drainLeft, drainSteps, here, some, if_false]
    omega
  | dequeueRx request cntMsg frame rest here more head =>
    refine .inr ⟨trivial, ?_⟩
    simp only [drainLeft, drainSteps, here, Nat.ne_of_gt more, if_false, BoundedQueue.tail_items,
      head, List.tail_cons, List.length_cons]
    omega
  | dequeueFailed request cntMsg here more empty => exact absurd empty (tallied.waits here more)
  | closeRequest request here => exact .inl ⟨_, rfl⟩
  | recount request here =>
    refine .inr ⟨trivial, ?_⟩
    simp only [drainLeft, drainSteps, here]
    split <;> omega
  | takeNetTx here given => simp [here, InRequest] at inside
  | countNone here empty => simp [here, InRequest] at inside
  | countSome here waiting => simp [here, InRequest] at inside
  | postTransmitStart here room => simp [here, InRequest] at inside
  | publish request here => simp [here, InRequest] at inside
  | postTransmitEnd here room => simp [here, InRequest] at inside
  | delayed here => simp [here, InRequest] at inside

theorem drain_receive {s t : State} {bus : Option BusFrame} (stepped : Step s (.canReceive bus) t) :
    t.mqttTransmitPc = s.mqttTransmitPc ∧
      drainLeft t ≤ drainLeft s + roundFor (.canReceive bus) := by
  cases stepped with
  | takeCanRx here given => simp [drainLeft, undelivered, here]
  | receiveFailed here => simp
  | receiveFrame bus here => simp [drainLeft, undelivered, here, roundFor]
  | postCanReceived frame here room => simp [drainLeft, undelivered, here]
  | enqueueRx frame here room =>
    have grown := drainSteps_mono (Nat.le_add_right s.rxCanQueue.items.length 1) s.mqttTransmitPc
    refine ⟨rfl, ?_⟩
    simp only [drainLeft, undelivered, here, BoundedQueue.push_items, List.length_append,
      List.length_singleton]
    omega

theorem drain_pays {s t : State} {a : Action} {seen : Nat}
    (stepped : Step s a t) (inside : InRequest s.mqttTransmitPc) (tallied : Tallied s seen) :
    (∃ request, t.mqttTransmitPc = .publish request) ∨
      InRequest t.mqttTransmitPc ∧
        drainLeft t + transmitSteps a ≤ drainLeft s + roundFor a := by
  cases a with
  | mqttTransmit tv attempt => exact drain_transmit stepped inside tallied
  | canReceive bus =>
    obtain ⟨same, left⟩ := drain_receive stepped
    exact .inr ⟨same ▸ inside, left⟩
  | control =>
    have same := control_sameTasks stepped
    refine .inr ⟨same.mqttTransmitPc ▸ inside, ?_⟩
    simp [drainLeft, same.rxCanQueue, same.mqttTransmitPc, same.canReceivePc, transmitSteps]
  | _ =>
    have same := downlink_sameUplink stepped trivial
    refine .inr ⟨same.mqttTransmitPc ▸ inside, ?_⟩
    simp [drainLeft, same.rxCanQueue, same.mqttTransmitPc, same.canReceivePc, transmitSteps]

theorem drain_enabled {s : State} (inside : InRequest s.mqttTransmitPc) (tv : Timeval)
    (attempt : PublishAttempt) : (step s (.mqttTransmit tv attempt)).isSome = true := by
  cases here : s.mqttTransmitPc with
  | openRequest =>
    simp only [step, mqttTransmitTask, here]
    split <;> rfl
  | drain request cntMsg =>
    simp only [step, mqttTransmitTask, here]
    split
    next =>
      split <;> rfl
    next => rfl
  | recount request => simp [step, mqttTransmitTask, here]
  | _ => simp [here, InRequest] at inside

/-- What holds of a run from `s` to `t` that begins with the function: the wrong read is not
taken, no step of the function waits, and after a bounded number of its steps it has left the
loop on a count of zero. -/
structure DrainEnds (s : State) (seen : Nat) (actions : List Action) (t : State) : Prop where
  reads : ∀ request cntMsg, t.mqttTransmitPc = .drain request cntMsg → 0 < cntMsg →
    t.rxCanQueue.items ≠ []
  enabled : InRequest t.mqttTransmitPc → ∀ tv attempt,
    (step t (.mqttTransmit tv attempt)).isSome = true
  ends : 2 * (s.rxCanQueue.items.length + undelivered s.canReceivePc) +
      (actions.map roundFor).sum + 2 < (actions.map transmitSteps).sum →
    ∃ first rest u request, actions = first ++ rest ∧
      seenHistory.run (s, seen) first = some (u, 0) ∧ u.mqttTransmitPc = .publish request

theorem drain_ends {s t : State} {seen last : Nat} {actions : List Action}
    (begins : s.mqttTransmitPc = .openRequest)
    (ran : seenHistory.run (s, seen) actions = some (t, last)) :
    DrainEnds s seen actions t := by
  have kept (p : State × Nat) (a : Action) (q : State × Nat)
      (stepped : seenHistory.step p a = some q) (held : Tallied p.1 p.2) : Tallied q.1 q.2 :=
    System.observed_kept tallied_step p a q stepped held
  have start : Tallied s seen := by constructor <;> simp [begins]
  have tallied {u : State} {now : Nat} {first : List Action}
      (reached : seenHistory.run (s, seen) first = some (u, now)) : Tallied u now :=
    System.run_invariant kept reached start
  constructor
  next => exact fun request cntMsg here more => (tallied ran).waits here more
  next => exact drain_enabled
  next =>
    intro many
    have pays (p : State × Nat) (a : Action) (q : State × Nat)
        (stepped : seenHistory.step p a = some q)
        (inv : InRequest p.1.mqttTransmitPc ∧ Tallied p.1 p.2) :
        (∃ request, q.1.mqttTransmitPc = .publish request) ∨
          (InRequest q.1.mqttTransmitPc ∧ Tallied q.1 q.2) ∧
            drainLeft q.1 + transmitSteps a ≤ drainLeft p.1 + roundFor a := by
      have next := step_iff.mp (System.observed_step.mp stepped).1
      rcases drain_pays next inv.1 inv.2 with closed | ⟨inside, paid⟩
      · exact .inl closed
      · exact .inr ⟨⟨inside, kept p a q stepped inv.2⟩, paid⟩
    have inside : InRequest (s, seen).1.mqttTransmitPc := by simp [begins, InRequest]
    rcases System.run_potential pays ran ⟨inside, start⟩ with
      ⟨first, rest, ⟨u, now⟩, split, reached, request, closed⟩ | paid
    · obtain rfl : now = 0 := (tallied reached).closed request closed
      exact ⟨first, rest, u, request, split, reached, closed⟩
    · simp only [drainLeft, drainSteps, begins] at paid
      omega

def drainRun : List Action := startUp ++ arrive ++ controls 4 ++ transmits 3

def drainedRun : List Action :=
  transmits 1 ++ arrive ++ transmits 7

theorem drained_ends : ∃ first rest u request, drainedRun = first ++ rest ∧
    seenHistory.run (after drainRun, 0) first = some (u, 0) ∧
      u.mqttTransmitPc = .publish request := by
  have ran : (seenHistory.run (after drainRun, 0) drainedRun).isSome = true := rfl
  obtain ⟨⟨t, last⟩, ended⟩ := Option.isSome_iff_exists.mp ran
  exact (drain_ends rfl ended).ends (by decide)

end CanMaster
