import CanMaster.Control.Settling

set_option autoImplicit false

namespace CanMaster

open Transition

def ServeRun : State → State → Prop :=
  Relation.ReflTransGen fun s t => Step s .control t ∨ Step s anyTransmit t

theorem ServeRun.reaches {s t : State} (ran : ServeRun s t) : firmware.Reaches s t := by
  induction ran with
  | refl => exact System.reaches_refl _ _
  | tail _ stepped ih =>
    rcases stepped with control | transmit
    next => exact ih.trans (System.reaches_step (step_iff.mpr control))
    next => exact ih.trans (System.reaches_step (step_iff.mpr transmit))

theorem controlAlive_transmit {s t : State} (stepped : Step s anyTransmit t)
    (handling : Handling s.cs s.pending) (idle : s.pending = []) : ControlAlive t := by
  apply controlAlive_of_idle (handling_step stepped handling)
  rw [(other_control stepped (by simp [anyTransmit])).2.2, idle]

theorem eventCost_le (event : ControlEvent) : eventCost event ≤ 10 := by
  cases event <;> decide

theorem controlCost_other {s t : State} {a : Action} (stepped : Step s a t)
    (other : a ≠ .control) : controlCost t ≤ controlCost s + 10 := by
  obtain ⟨cs, _, pending⟩ := other_control stepped other
  have one : ((posted s a).map eventCost).sum ≤ 10 := by
    have single := posted_length s a
    cases events : posted s a with
    | nil => simp
    | cons event rest =>
      obtain rfl : rest = [] := by
        rw [events, List.length_cons] at single
        exact List.length_eq_zero_iff.mp (by omega)
      simpa using eventCost_le event
  simp only [controlCost, cs, pending, other_events stepped other, List.map_append,
    List.sum_append]
  omega

theorem serves {inv goal : State → Prop} (rank : State → Nat)
    (control : ∀ s t, Step s .control t → Handling s.cs s.pending → inv s →
      inv t ∧ rank t = rank s)
    (transmit : ∀ s, Handling s.cs s.pending → Settled s → inv s → ¬ goal s →
      ∃ t, Step s anyTransmit t ∧ inv t ∧ rank t < rank s)
    {s : State} (alive : ControlAlive s) (start : inv s) :
    ∃ t, ServeRun s t ∧ ControlAlive t ∧ inv t ∧ goal t := by
  have progress (s : State) (held : ControlAlive s ∧ inv s) (open_goal : ¬ goal s) :
      ∃ t, (Step s .control t ∨ Step s anyTransmit t) ∧ (ControlAlive t ∧ inv t) ∧
        11 * rank t + controlCost t < 11 * rank s + controlCost s := by
    obtain ⟨alive, kept⟩ := held
    by_cases settled : Settled s
    next =>
      obtain ⟨t, stepped, later, lower⟩ := transmit s alive.handling settled kept open_goal
      have cost := controlCost_other stepped (by simp [anyTransmit])
      refine ⟨t, .inr stepped, ⟨controlAlive_transmit stepped alive.handling settled.1, later⟩, ?_⟩
      omega
    next =>
      obtain ⟨t, stepped, later, lower⟩ := control_progress s alive settled
      obtain ⟨still, same⟩ := control s t stepped alive.handling kept
      refine ⟨t, .inl stepped, ⟨later, still⟩, ?_⟩
      omega
  obtain ⟨t, ran, held, reached⟩ := System.exists_goal_of_potential
    (fun s => 11 * rank s + controlCost s) progress ⟨alive, start⟩
  exact ⟨t, ran, held.1, held.2, reached⟩

end CanMaster
