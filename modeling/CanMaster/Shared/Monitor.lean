import CanMaster.Shared.Transition

set_option autoImplicit false

namespace Transition

variable {σ τ α β : Type}

/-- Whatever leads from the first state of the system to the second is read by the monitor, and
the relation holds again. -/
def Drives (N : System τ β) (trace : σ → List β) (R : σ → τ → Prop) (s t : σ) : Prop :=
  ∀ n, R s n → ∃ extra m, trace t = trace s ++ extra ∧ N.run n extra = some m ∧ R t m

namespace Drives

variable {N : System τ β} {trace : σ → List β} {R : σ → τ → Prop} {s t u : σ}

theorem refl (s : σ) : Drives N trace R s s :=
  fun n related => ⟨[], n, (List.append_nil _).symm, rfl, related⟩

theorem trans (first : Drives N trace R s t) (second : Drives N trace R t u) :
    Drives N trace R s u := by
  intro n related
  obtain ⟨extra, m, grown, ran, between⟩ := first n related
  obtain ⟨more, k, grownMore, ranMore, after⟩ := second m between
  exact ⟨extra ++ more, k, by rw [grownMore, grown, List.append_assoc],
    by rw [System.run_append, ran]; exact ranMore, after⟩

theorem unseen (same : trace t = trace s) (kept : ∀ n, R s n → R t n) : Drives N trace R s t :=
  fun n related => ⟨[], n, by rw [same, List.append_nil], rfl, kept n related⟩

theorem seen (occurrence : β) (grown : trace t = trace s ++ [occurrence])
    (allowed : ∀ n, R s n → ∃ m, N.step n occurrence = some m ∧ R t m) :
    Drives N trace R s t := by
  intro n related
  obtain ⟨m, stepped, after⟩ := allowed n related
  exact ⟨[occurrence], m, grown, by simp [stepped], after⟩

def Accepted (N : System τ β) (trace : σ → List β) (R : σ → τ → Prop) (s : σ) : Prop :=
  ∃ m, N.run N.init (trace s) = some m ∧ R s m

theorem accepted_step (accepted : Accepted N trace R s) (drives : Drives N trace R s t) :
    Accepted N trace R t := by
  obtain ⟨m, ran, related⟩ := accepted
  obtain ⟨extra, k, grown, ranMore, after⟩ := drives m related
  exact ⟨k, by rw [grown, System.run_append, ran]; exact ranMore, after⟩

variable (N trace R) in
theorem reachable {M : System σ α} (start : trace M.init = []) (related : R M.init N.init)
    (drives : ∀ s a t, M.step s a = some t → Drives N trace R s t) (reached : M.Reachable s) :
    Accepted N trace R s := by
  have begins : Accepted N trace R M.init := ⟨N.init, by rw [start]; rfl, related⟩
  exact System.reachable_invariant begins
    (fun s a t stepped accepted => accepted_step accepted (drives s a t stepped)) reached

end Drives

end Transition
