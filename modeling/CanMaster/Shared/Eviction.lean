import Mathlib.Algebra.GroupWithZero.Nat
import Mathlib.Data.List.Basic

set_option autoImplicit false

namespace Eviction

variable {α : Type} (size : α → Nat) (held : α → Bool)

def total (xs : List α) : Nat := (xs.map size).sum

-- The list without the first `k` elements that are not held.
def dropFree : Nat → List α → List α
  | 0, xs => xs
  | _ + 1, [] => []
  | k + 1, x :: xs => if held x then x :: dropFree (k + 1) xs else dropFree k xs

/-- What remains when no more is given up than the bound asks for. -/
structure Evicted (bound : Nat) (xs ys : List α) : Prop where
  least : ∃ k, ys = dropFree held k xs ∧ ∀ j < k, bound < total size (dropFree held j xs)
  enough : total size ys ≤ bound ∨ ∀ y ∈ ys, held y = true

variable {size held}

@[simp] theorem dropFree_zero (xs : List α) : dropFree held 0 xs = xs := by
  cases xs <;> rfl

@[simp] theorem dropFree_nil (k : Nat) : dropFree held k [] = [] := by
  cases k <;> rfl

theorem dropFree_succ (k : Nat) (xs : List α) :
    dropFree held (k + 1) xs = dropFree held k (xs.eraseP fun x => !held x) := by
  induction xs with
  | nil => simp
  | cons x xs ih =>
    cases holds : held x with
    | false => simp [dropFree, holds]
    | true =>
      cases k with
      | zero => simpa [dropFree, holds] using ih
      | succ k => simp [dropFree, holds, ih]

theorem dropFree_sublist (k : Nat) (xs : List α) : (dropFree held k xs).Sublist xs := by
  induction xs generalizing k with
  | nil => simp
  | cons x xs ih =>
    cases k with
    | zero => simp
    | succ k =>
      cases holds : held x with
      | false => simpa [dropFree, holds] using (ih k).cons x
      | true => simpa [dropFree, holds] using (ih (k + 1)).cons_cons x

theorem dropFree_of_free {xs : List α} (free : ∀ x ∈ xs, held x = false) (k : Nat) :
    dropFree held k xs = xs.drop k := by
  induction xs generalizing k with
  | nil => simp
  | cons x xs ih =>
    cases k with
    | zero => simp
    | succ k =>
      have here := free x List.mem_cons_self
      simp only [dropFree, here, Bool.false_eq_true, if_false, List.drop_succ_cons]
      exact ih (fun y inside => free y (List.mem_cons_of_mem x inside)) k

theorem evicted_stop {bound : Nat} {xs : List α}
    (enough : total size xs ≤ bound ∨ ∀ x ∈ xs, held x = true) : Evicted size held bound xs xs :=
  ⟨⟨0, by simp, fun j before => absurd before (Nat.not_lt_zero j)⟩, enough⟩

theorem Evicted.step {bound : Nat} {xs ys : List α} (full : bound < total size xs)
    (later : Evicted size held bound (xs.eraseP fun x => !held x) ys) :
    Evicted size held bound xs ys := by
  obtain ⟨⟨k, rest, more⟩, enough⟩ := later
  refine ⟨⟨k + 1, by rw [rest, dropFree_succ], fun j before => ?_⟩, enough⟩
  cases j with
  | zero => simpa using full
  | succ j =>
    rw [dropFree_succ]
    exact more j (by omega)

theorem Evicted.sublist {bound : Nat} {xs ys : List α} (evicted : Evicted size held bound xs ys) :
    ys.Sublist xs := by
  obtain ⟨⟨k, rest, -⟩, -⟩ := evicted
  rw [rest]
  exact dropFree_sublist k xs

end Eviction
