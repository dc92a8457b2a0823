import Mathlib.Data.List.Basic

set_option autoImplicit false

structure Buffer (capacity : Nat) where
  bytes : List UInt8
  size : bytes.length = capacity

namespace Buffer

variable {capacity : Nat}

def blank : Buffer capacity := ⟨List.replicate capacity 0, List.length_replicate⟩

def get (b : Buffer capacity) (i : Nat) : UInt8 := b.bytes.getD i 0

def slice (b : Buffer capacity) (start stop : Nat) : List UInt8 :=
  (b.bytes.drop start).take (stop - start)

def write (b : Buffer capacity) (start : Nat) (data : List UInt8) : Buffer capacity :=
  if room : start + data.length ≤ capacity then
    ⟨b.bytes.take start ++ data ++ b.bytes.drop (start + data.length), by simp [b.size]; omega⟩
  else b

theorem write_bytes {b : Buffer capacity} {start : Nat} {data : List UInt8}
    (room : start + data.length ≤ capacity) :
    (b.write start data).bytes =
      b.bytes.take start ++ data ++ b.bytes.drop (start + data.length) := by
  rw [write, dif_pos room]

theorem slice_length {b : Buffer capacity} {start stop : Nat} (inside : stop ≤ capacity) :
    (b.slice start stop).length = stop - start := by
  simp only [slice, List.length_take, List.length_drop, b.size]
  omega

theorem slice_append (b : Buffer capacity) {start middle stop : Nat} (first : start ≤ middle)
    (second : middle ≤ stop) : b.slice start middle ++ b.slice middle stop = b.slice start stop := by
  have split : stop - start = (middle - start) + (stop - middle) := by omega
  have there : start + (middle - start) = middle := by omega
  simp only [slice]
  rw [split, List.take_add, List.drop_drop, there]

theorem slice_write_same {b : Buffer capacity} {start : Nat} {data : List UInt8}
    (room : start + data.length ≤ capacity) :
    (b.write start data).slice start (start + data.length) = data := by
  have before : (b.bytes.take start).length = start := by
    rw [List.length_take, b.size]
    omega
  rw [slice, write_bytes room, List.append_assoc, List.drop_left' before]
  simp

theorem slice_write_before {b : Buffer capacity} {start first last : Nat} {data : List UInt8}
    (before : last ≤ start) : (b.write start data).slice first last = b.slice first last := by
  by_cases room : start + data.length ≤ capacity
  next =>
    have long : (b.bytes.take start).length = start := by
      rw [List.length_take, b.size]
      omega
    by_cases inside : first ≤ last
    next =>
      have apart : first ≤ (b.bytes.take start).length := by omega
      rw [slice, slice, write_bytes room, List.append_assoc, List.drop_append_of_le_length apart,
        List.take_append_of_le_length (by rw [List.length_drop]; omega), List.drop_take,
        List.take_take]
      congr 1
      omega
    next =>
      have none : last - first = 0 := by omega
      simp [slice, none]
  next => rw [write, dif_neg room]

theorem slice_write_after {b : Buffer capacity} {start first last : Nat} {data : List UInt8}
    (after : start + data.length ≤ first) :
    (b.write start data).slice first last = b.slice first last := by
  by_cases room : start + data.length ≤ capacity
  next =>
    have long : (b.bytes.take start ++ data).length = start + data.length := by
      rw [List.length_append, List.length_take, b.size]
      omega
    rw [slice, slice, write_bytes room, List.drop_append, List.drop_eq_nil_of_le (by omega),
      List.nil_append, List.drop_drop, long]
    congr 2
    omega
  next => rw [write, dif_neg room]

theorem slice_write_back {b : Buffer capacity} {start first : Nat} {data : List UInt8}
    (room : start + data.length ≤ capacity) (before : first ≤ start) :
    (b.write start data).slice first (start + data.length) = b.slice first start ++ data := by
  rw [← slice_append _ before (Nat.le_add_right _ _), slice_write_before (Nat.le_refl _),
    slice_write_same room]

theorem slice_write_front {b : Buffer capacity} {start last : Nat} {data : List UInt8}
    (room : start + data.length ≤ capacity) (after : start + data.length ≤ last) :
    (b.write start data).slice start last = data ++ b.slice (start + data.length) last := by
  rw [← slice_append _ (Nat.le_add_right _ _) after, slice_write_same room,
    slice_write_after (Nat.le_refl _)]

theorem get_of_slice {b : Buffer capacity} {start stop : Nat} {front rest : List UInt8}
    {byte : UInt8} (content : b.slice start stop = front ++ byte :: rest) :
    b.get (start + front.length) = byte := by
  have here : (b.slice start stop)[front.length]? = some byte := by simp [content]
  have inside : front.length < stop - start := by
    by_contra outside
    have long : (b.slice start stop).length ≤ stop - start := by
      simp only [slice, List.length_take]
      omega
    rw [content, List.length_append, List.length_cons] at long
    omega
  rw [slice, List.getElem?_take_of_lt inside, List.getElem?_drop] at here
  rw [get, List.getD_eq_getElem?_getD, here, Option.getD_some]

end Buffer
