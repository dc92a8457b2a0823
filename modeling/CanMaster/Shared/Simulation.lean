import CanMaster.Shared.Transition

set_option autoImplicit false

namespace Transition

variable {σ τ α β : Type}

/-- What the steps of a run are seen as, one after the other. -/
def System.trail (M : System σ α) (does : σ → α → List β) : σ → List α → List β
  | _, [] => []
  | s, a :: rest => does s a ++ ((M.step s a).map fun t => M.trail does t rest).getD []

structure Simulation (M : System σ α) (N : System τ β) (inv : σ → Prop) (view : σ → τ)
    (does : σ → α → List β) : Prop where
  same : view M.init = N.init
  begins : inv M.init
  step : ∀ s a t, M.step s a = some t → inv s →
    inv t ∧ N.run (view s) (does s a) = some (view t)

namespace Simulation

variable {M : System σ α} {N : System τ β} {inv : σ → Prop} {view : σ → τ}
  {does : σ → α → List β}

theorem run_from (simulation : Simulation M N inv view does) {s t : σ} {actions : List α}
    (held : inv s) (ran : M.run s actions = some t) :
    N.run (view s) (M.trail does s actions) = some (view t) := by
  induction actions generalizing s with
  | nil =>
    cases ran
    rfl
  | cons a rest ih =>
    obtain ⟨next, stepped, continued⟩ := Option.bind_eq_some_iff.mp ran
    obtain ⟨kept, first⟩ := simulation.step s a next stepped held
    have later := ih kept continued
    simp only [System.trail, stepped, Option.map_some, Option.getD_some]
    rw [System.run_append, first]
    exact later

theorem run (simulation : Simulation M N inv view does) {t : σ} {actions : List α}
    (ran : M.run M.init actions = some t) :
    N.run N.init (M.trail does M.init actions) = some (view t) := by
  rw [← simulation.same]
  exact simulation.run_from simulation.begins ran

theorem reachable (simulation : Simulation M N inv view does) {s : σ} (reached : M.Reachable s) :
    N.Reachable (view s) := by
  obtain ⟨actions, ran⟩ := reached
  exact ⟨_, simulation.run ran⟩

end Simulation

end Transition
