import CanMaster.Control.Handling

set_option autoImplicit false

namespace CanMaster

open Transition

-- From the receive of the event that calls for it to its end, the send is in `pending`.
def SelfSend (s : State) : Prop := ∃ event, .send event ∈ s.pending

def SelfSendRoom (s : State) : Prop := SelfSend s → ¬ s.controlEvents.Full

-- No other task takes the last free slot of the queue while the send is still to come.
def LeavesRoom (s : State) (a : Action) : Prop :=
  SelfSend s → posted s a ≠ [] → s.controlEvents.items.length + 1 < controlQueueMax

theorem posted_length (s : State) (a : Action) : (posted s a).length ≤ 1 := by
  cases a with
  | control => simp [posted]
  | _ => simp only [posted]; split <;> simp

theorem other_room {s t : State} {a : Action} (stepped : Step s a t) (other : a ≠ .control)
    (room : SelfSendRoom s) : SelfSendRoom t ↔ LeavesRoom s a := by
  have length : t.controlEvents.items.length =
      s.controlEvents.items.length + (posted s a).length := by
    rw [other_events stepped other, List.length_append]
  have sends : SelfSend t ↔ SelfSend s := by
    simp [SelfSend, (other_control stepped other).2.2]
  have single := posted_length s a
  simp only [SelfSendRoom, LeavesRoom, sends, BoundedQueue.not_full, length] at room ⊢
  constructor
  · intro kept self posts
    have := List.length_pos_iff.mpr posts
    have := kept self
    omega
  · intro leaves self
    by_cases posts : posted s a = []
    · simpa [posts] using room self
    · have := leaves self posts
      omega

theorem control_room {s t : State} (stepped : Step s .control t)
    (handling : Handling s.cs s.pending) (room : SelfSendRoom s) : SelfSendRoom t := by
  cases stepped with
  | controlReceive event rest idle head =>
    intro _
    have bound := s.controlEvents.bound
    simp only [head, List.length_cons] at bound
    simp only [BoundedQueue.not_full, BoundedQueue.tail_items, head, List.tail_cons]
    omega
  | controlGive semaphore ops next =>
    rintro ⟨event, member⟩
    exact room ⟨event, by simp [next, member]⟩
  | controlChange newState ops next =>
    rintro ⟨event, member⟩
    exact room ⟨event, by simp [next, member]⟩
  | controlSend event ops next here =>
    rw [next] at handling
    rintro ⟨event, member⟩
    simp [(handling_send handling).1] at member

theorem selfSend_room_iff (actions : List Action) :
    firmware.Always SelfSendRoom firmware.init actions ↔
      firmware.Along LeavesRoom firmware.init actions := by
  refine System.always_iff_along
    (fun s a t stepped handling => handling_step (step_iff.mp stepped) handling)
    ?_ .restart ?_ actions
  · intro s a t handling room stepped
    have listed := step_iff.mp stepped
    by_cases control : a = .control
    · subst control
      have kept := control_room listed handling room
      have free : LeavesRoom s .control := fun _ posts => absurd rfl posts
      exact ⟨fun _ => free, fun _ => kept⟩
    · exact other_room listed control room
  · intro _
    simp [BoundedQueue.not_full, firmware, initialState]

-- The timeout is at the head of a full queue. Once `control_task` has received it, the
-- announcement of one more frame takes its slot.
def overflowRun : List Action :=
  startUp ++ announce ++ controls 4 ++ timers 5 ++ [.canReceive none] ++
    (List.replicate 9 arrive).flatten ++ [.canReceive (some blankBus)] ++ controls 1 ++
    [.canReceive none] ++ controls 1

theorem selfSend_overflow : firmware.Reachable (after overflowRun) ∧
    (after overflowRun).prevState = .sendRequest ∧ (after overflowRun).cs = .start ∧
    (after overflowRun).pending = [.send .start] ∧ (after overflowRun).controlEvents.Full :=
  ⟨⟨overflowRun, rfl⟩, rfl, rfl, rfl, rfl⟩

end CanMaster
