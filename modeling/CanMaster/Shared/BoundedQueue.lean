import Mathlib.Data.Nat.SuccPred

set_option autoImplicit false

structure BoundedQueue (α : Type) (capacity : Nat) where
  items : List α
  bound : items.length ≤ capacity

namespace BoundedQueue

variable {α : Type} {capacity : Nat}

@[ext] theorem ext {q r : BoundedQueue α capacity} (same : q.items = r.items) : q = r := by
  cases q
  cases r
  simp_all

def empty : BoundedQueue α capacity := ⟨[], Nat.zero_le _⟩

def Full (q : BoundedQueue α capacity) : Prop := q.items.length = capacity

instance (q : BoundedQueue α capacity) : Decidable q.Full :=
  inferInstanceAs (Decidable (_ = _))

def push (q : BoundedQueue α capacity) (x : α) (room : q.items.length < capacity) :
    BoundedQueue α capacity :=
  ⟨q.items ++ [x], by simp; omega⟩

def tail (q : BoundedQueue α capacity) : BoundedQueue α capacity :=
  ⟨q.items.tail, by have := q.bound; simp; omega⟩

-- A send to a full queue does not return, so it is undefined here.
def send (q : BoundedQueue α capacity) (x : α) : Option (BoundedQueue α capacity) :=
  if room : q.items.length < capacity then some (q.push x room) else none

def receive (q : BoundedQueue α capacity) : Option (α × BoundedQueue α capacity) :=
  q.items.head?.map fun x => (x, q.tail)

@[simp] theorem empty_items : (empty : BoundedQueue α capacity).items = [] := rfl

@[simp] theorem push_items (q : BoundedQueue α capacity) (x : α)
    (room : q.items.length < capacity) : (q.push x room).items = q.items ++ [x] := rfl

@[simp] theorem tail_items (q : BoundedQueue α capacity) : q.tail.items = q.items.tail := rfl

theorem not_full {q : BoundedQueue α capacity} : ¬ q.Full ↔ q.items.length < capacity := by
  have := q.bound
  unfold Full
  omega

theorem send_eq_some {q r : BoundedQueue α capacity} {x : α} :
    q.send x = some r ↔ ∃ room : q.items.length < capacity, r = q.push x room := by
  by_cases room : q.items.length < capacity <;> simp [send, room, eq_comm]

theorem receive_eq_some {q r : BoundedQueue α capacity} {x : α} :
    q.receive = some (x, r) ↔ (∃ rest, q.items = x :: rest) ∧ r = q.tail := by
  cases h : q.items <;> simp [receive, h, eq_comm]

end BoundedQueue
