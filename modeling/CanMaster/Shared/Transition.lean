import Mathlib.Algebra.GroupWithZero.Nat
import Mathlib.Logic.Relation
import Mathlib.Data.Option.Basic

set_option autoImplicit false

namespace Transition

-- A step is undefined where its action is not enabled: a blocked operation has no step.
structure System (σ α : Type) where
  init : σ
  step : σ → α → Option σ

namespace System

variable {σ α γ : Type} (M : System σ α)

def run : σ → List α → Option σ
  | s, [] => some s
  | s, a :: rest => (M.step s a).bind fun t => run t rest

@[simp] theorem run_nil (s : σ) : M.run s [] = some s := rfl

@[simp] theorem run_cons (s : σ) (a : α) (rest : List α) :
    M.run s (a :: rest) = (M.step s a).bind fun t => M.run t rest := rfl

theorem run_append (s : σ) (first second : List α) :
    M.run s (first ++ second) = (M.run s first).bind fun t => M.run t second := by
  induction first generalizing s with
  | nil => rfl
  | cons a rest ih => simp [ih, Option.bind_assoc]

def Reaches (s t : σ) : Prop := ∃ actions, M.run s actions = some t

def Reachable (s : σ) : Prop := M.Reaches M.init s

theorem reaches_refl (s : σ) : M.Reaches s s := ⟨[], rfl⟩

theorem Reaches.trans {M : System σ α} {s t u : σ} (first : M.Reaches s t)
    (second : M.Reaches t u) : M.Reaches s u := by
  obtain ⟨before, ran⟩ := first
  obtain ⟨after, continued⟩ := second
  exact ⟨before ++ after, by simp [run_append, ran, continued]⟩

theorem reaches_step {M : System σ α} {s t : σ} {a : α} (stepped : M.step s a = some t) :
    M.Reaches s t :=
  ⟨[a], by simp [stepped]⟩

theorem Reaches.head {M : System σ α} {s t u : σ} {a : α} (stepped : M.step s a = some t)
    (rest : M.Reaches t u) : M.Reaches s u :=
  (reaches_step stepped).trans rest

theorem Reachable.step {M : System σ α} {s t : σ} {a : α} (reached : M.Reachable s)
    (stepped : M.step s a = some t) : M.Reachable t :=
  Reaches.trans reached (reaches_step stepped)

-- The induction of every invariant and of every trap that no continuation leaves.
theorem run_invariant {M : System σ α} {inv : σ → Prop}
    (kept : ∀ s a t, M.step s a = some t → inv s → inv t) {s t : σ} {actions : List α}
    (ran : M.run s actions = some t) (start : inv s) : inv t := by
  induction actions generalizing s with
  | nil => simp_all
  | cons a rest ih =>
    obtain ⟨next, stepped, continued⟩ := Option.bind_eq_some_iff.mp ran
    exact ih continued (kept s a next stepped start)

theorem reaches_invariant {M : System σ α} {inv : σ → Prop}
    (kept : ∀ s a t, M.step s a = some t → inv s → inv t) {s t : σ}
    (reaches : M.Reaches s t) (start : inv s) : inv t :=
  run_invariant kept reaches.choose_spec start

theorem reachable_invariant {M : System σ α} {inv : σ → Prop} (start : inv M.init)
    (kept : ∀ s a t, M.step s a = some t → inv s → inv t) {s : σ}
    (reached : M.Reachable s) : inv s :=
  reaches_invariant kept reached start

-- The form for an invariant that needs earlier invariants of the reachable states.
theorem reachable_induction {M : System σ α} {inv : σ → Prop} (start : inv M.init)
    (kept : ∀ s a t, M.Reachable s → M.step s a = some t → inv s → inv t) {s : σ}
    (reached : M.Reachable s) : inv s := by
  have both : ∀ s a t, M.step s a = some t → M.Reachable s ∧ inv s → M.Reachable t ∧ inv t :=
    fun s a t stepped held => ⟨held.1.step stepped, kept s a t held.1 stepped held.2⟩
  have initial : M.Reachable M.init ∧ inv M.init := ⟨M.reaches_refl _, start⟩
  exact (reachable_invariant initial both reached).2

-- Both look at the steps that are taken: a run ends where its next action is not enabled.
def Always (P : σ → Prop) : σ → List α → Prop
  | s, [] => P s
  | s, a :: rest => P s ∧ ∀ t, M.step s a = some t → Always P t rest

def Along (C : σ → α → Prop) : σ → List α → Prop
  | _, [] => True
  | s, a :: rest => ∀ t, M.step s a = some t → C s a ∧ Along C t rest

theorem Always.head {M : System σ α} {P : σ → Prop} {s : σ} {actions : List α}
    (always : M.Always P s actions) : P s := by
  cases actions with
  | nil => exact always
  | cons => exact always.1

instance decidableAlong {C : σ → α → Prop} [∀ s a, Decidable (C s a)] :
    (s : σ) → (actions : List α) → Decidable (M.Along C s actions)
  | _, [] => .isTrue trivial
  | s, a :: rest =>
      match stepped : M.step s a with
      | none => .isTrue (by simp [Along, stepped])
      | some t =>
          have := decidableAlong (C := C) t rest
          decidable_of_iff (C s a ∧ M.Along C t rest) (by simp [Along, stepped])

theorem always_of_along {M : System σ α} {inv P : σ → Prop} {C : σ → α → Prop}
    (kept : ∀ s a t, M.step s a = some t → C s a → inv s → inv t) (sound : ∀ s, inv s → P s)
    {s : σ} (start : inv s) {actions : List α} (along : M.Along C s actions) :
    M.Always P s actions := by
  induction actions generalizing s with
  | nil => exact sound s start
  | cons a rest ih =>
    refine ⟨sound s start, fun t stepped => ?_⟩
    obtain ⟨meets, later⟩ := along t stepped
    exact ih (kept s a t stepped meets start) later

/-- Where `C` says of every step whether it keeps `P`, a run keeps `P` in each of its
states exactly when each of its steps meets `C`. -/
theorem always_iff_along {M : System σ α} {inv P : σ → Prop} {C : σ → α → Prop}
    (kept : ∀ s a t, M.step s a = some t → inv s → inv t)
    (exact : ∀ s a t, inv s → P s → M.step s a = some t → (P t ↔ C s a))
    {s : σ} (start : inv s) (holds : P s) (actions : List α) :
    M.Always P s actions ↔ M.Along C s actions := by
  induction actions generalizing s with
  | nil => simp [Always, Along, holds]
  | cons a rest ih =>
    simp only [Always, Along, holds, true_and]
    refine forall₂_congr fun t stepped => ?_
    have here := exact s a t start holds stepped
    have later := ih (kept s a t stepped start)
    constructor
    · intro always
      exact ⟨here.mp always.head, (later always.head).mp always⟩
    · rintro ⟨meets, along⟩
      exact (later (here.mpr meets)).mpr along

-- A history is a value beside the state that each step updates and no step reads.
def observed (start : γ) (note : γ → σ → α → γ) : System (σ × γ) α where
  init := (M.init, start)
  step p a := (M.step p.1 a).map fun t => (t, note p.2 p.1 a)

theorem observed_step {M : System σ α} {start : γ} {note : γ → σ → α → γ} {p q : σ × γ} {a : α} :
    (M.observed start note).step p a = some q ↔
      M.step p.1 a = some q.1 ∧ note p.2 p.1 a = q.2 := by
  simp only [observed, Option.map_eq_some_iff, Prod.ext_iff]
  constructor
  · rintro ⟨t, stepped, rfl, noted⟩
    exact ⟨stepped, noted⟩
  · rintro ⟨stepped, noted⟩
    exact ⟨q.1, stepped, rfl, noted⟩

theorem observed_kept {M : System σ α} {start : γ} {note : γ → σ → α → γ} {inv : σ → γ → Prop}
    (kept : ∀ s a t history, M.step s a = some t → inv s history → inv t (note history s a))
    (p : σ × γ) (a : α) (q : σ × γ) (stepped : (M.observed start note).step p a = some q)
    (held : inv p.1 p.2) : inv q.1 q.2 := by
  obtain ⟨inner, noted⟩ := observed_step.mp stepped
  rw [← noted]
  exact kept p.1 a q.1 p.2 inner held

theorem observed_invariant {M : System σ α} {start : γ} {note : γ → σ → α → γ}
    {inv : σ → γ → Prop} (begins : inv M.init start)
    (kept : ∀ s a t history, M.step s a = some t → inv s history → inv t (note history s a))
    {s : σ} {history : γ} (reached : (M.observed start note).Reachable (s, history)) :
    inv s history := by
  have first : inv (M.observed start note).init.1 (M.observed start note).init.2 := begins
  exact reachable_invariant first (observed_kept kept) reached

theorem observed_always_iff {M : System σ α} {start : γ} {note : γ → σ → α → γ}
    {inv : σ → γ → Prop} {P : σ × γ → Prop} {C : σ × γ → α → Prop}
    (kept : ∀ s a t history, M.step s a = some t → inv s history → inv t (note history s a))
    (exact : ∀ s a t history, inv s history → P (s, history) → M.step s a = some t →
      (P (t, note history s a) ↔ C (s, history) a))
    (begins : inv M.init start) (holds : P (M.init, start)) (actions : List α) :
    (M.observed start note).Always P (M.init, start) actions ↔
      (M.observed start note).Along C (M.init, start) actions := by
  have meets (p : σ × γ) (a : α) (q : σ × γ) (held : inv p.1 p.2) (here : P p)
      (stepped : (M.observed start note).step p a = some q) : P q ↔ C p a := by
    obtain ⟨inner, noted⟩ := observed_step.mp stepped
    have later := exact p.1 a q.1 p.2 held here inner
    rwa [noted] at later
  have first : inv (M.init, start).1 (M.init, start).2 := begins
  exact always_iff_along (observed_kept kept) meets first holds actions

-- A history that also notes what is known of a step beside the action that it takes.
def labelled {β : Type} (start : γ) (note : γ → σ → α → β → γ) : System (σ × γ) (α × β) where
  init := (M.init, start)
  step p a := (M.step p.1 a.1).map fun t => (t, note p.2 p.1 a.1 a.2)

theorem labelled_step {β : Type} {M : System σ α} {start : γ} {note : γ → σ → α → β → γ}
    {p q : σ × γ} {a : α × β} :
    (M.labelled start note).step p a = some q ↔
      M.step p.1 a.1 = some q.1 ∧ note p.2 p.1 a.1 a.2 = q.2 := by
  let named : System σ (α × β) := ⟨M.init, fun s a => M.step s a.1⟩
  have observes : M.labelled start note =
      named.observed start fun history s a => note history s a.1 a.2 := rfl
  rw [observes, observed_step]

theorem labelled_invariant {β : Type} {M : System σ α} {start : γ} {note : γ → σ → α → β → γ}
    {inv : σ → γ → Prop} (begins : inv M.init start)
    (kept : ∀ s a t history label, M.step s a = some t → inv s history →
      inv t (note history s a label))
    {s : σ} {history : γ} (reached : (M.labelled start note).Reachable (s, history)) :
    inv s history := by
  let named : System σ (α × β) := ⟨M.init, fun s a => M.step s a.1⟩
  have observes : M.labelled start note =
      named.observed start fun history s a => note history s a.1 a.2 := rfl
  have first : inv named.init start := begins
  rw [observes] at reached
  exact observed_invariant first (fun s a t history => kept s a.1 t history a.2) reached

theorem exists_goal_of_potential {R : σ → σ → Prop} {inv goal : σ → Prop} (potential : σ → Nat)
    (progress : ∀ s, inv s → ¬ goal s → ∃ t, R s t ∧ inv t ∧ potential t < potential s)
    {s : σ} (start : inv s) : ∃ t, Relation.ReflTransGen R s t ∧ inv t ∧ goal t := by
  induction bound : potential s using Nat.strongRecOn generalizing s with
  | ind n ih =>
    by_cases met : goal s
    · exact ⟨s, .refl, start, met⟩
    · obtain ⟨t, stepped, kept, lower⟩ := progress s start met
      obtain ⟨u, later, held, reached⟩ := ih (potential t) (bound ▸ lower) kept rfl
      exact ⟨u, .head stepped later, held, reached⟩

-- Each step pays its cost out of the potential and what it brings in, until a step leaves.
theorem run_potential {M : System σ α} {inv leaves : σ → Prop} {potential : σ → Nat}
    {cost income : α → Nat}
    (pays : ∀ s a t, M.step s a = some t → inv s →
      leaves t ∨ inv t ∧ potential t + cost a ≤ potential s + income a)
    {s t : σ} {actions : List α} (ran : M.run s actions = some t) (start : inv s) :
    (∃ first rest u, actions = first ++ rest ∧ M.run s first = some u ∧ leaves u) ∨
      potential t + (actions.map cost).sum ≤ potential s + (actions.map income).sum := by
  induction actions generalizing s with
  | nil =>
    cases ran
    exact .inr (Nat.le_refl _)
  | cons a rest ih =>
    obtain ⟨next, stepped, continued⟩ := Option.bind_eq_some_iff.mp ran
    rcases pays s a next stepped start with left | ⟨kept, paid⟩
    · exact .inl ⟨[a], rest, next, rfl, by simp [stepped], left⟩
    · rcases ih continued kept with ⟨first, last, u, rfl, reached, left⟩ | later
      · exact .inl ⟨a :: first, last, u, rfl, by simp [stepped, reached], left⟩
      · right
        simp only [List.map_cons, List.sum_cons]
        omega

theorem reaches_of_steps {M N : System σ α}
    (refines : ∀ s a t, N.step s a = some t → M.Reaches s t) {s t : σ}
    (reaches : N.Reaches s t) : M.Reaches s t := by
  obtain ⟨actions, ran⟩ := reaches
  induction actions generalizing s with
  | nil => cases ran; exact M.reaches_refl _
  | cons a rest ih =>
    obtain ⟨next, stepped, continued⟩ := Option.bind_eq_some_iff.mp ran
    exact (refines s a next stepped).trans (ih continued)

end System

end Transition
