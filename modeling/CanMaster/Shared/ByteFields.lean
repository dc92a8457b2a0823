import Mathlib.Algebra.GroupWithZero.Nat
import Mathlib.Data.List.Basic

set_option autoImplicit false

namespace ByteFields

def bigEndian (n : Nat) : List UInt8 := [UInt8.ofNat (n / 256), UInt8.ofNat n]

def readBigEndian (high low : UInt8) : Nat := high.toNat <<< 8 ||| low.toNat

@[simp] theorem bigEndian_length (n : Nat) : (bigEndian n).length = 2 := rfl

theorem readBigEndian_eq (high low : UInt8) :
    readBigEndian high low = 256 * high.toNat + low.toNat := by
  have small : low.toNat < 2 ^ 8 := low.toNat_lt
  rw [readBigEndian, Nat.shiftLeft_eq, Nat.mul_comm, ← Nat.two_pow_add_eq_or_of_lt small]

theorem readBigEndian_bigEndian {n : Nat} (small : n < 65536) :
    readBigEndian (UInt8.ofNat (n / 256)) (UInt8.ofNat n) = n := by
  rw [readBigEndian_eq, UInt8.toNat_ofNat', UInt8.toNat_ofNat']
  omega

def field (string : List UInt8) : List UInt8 := bigEndian string.length ++ string

def takeField : List UInt8 → Option (List UInt8 × List UInt8)
  | high :: low :: rest =>
      let length := readBigEndian high low
      if length ≤ rest.length then some (rest.take length, rest.drop length) else none
  | _ => none

@[simp] theorem field_length (string : List UInt8) : (field string).length = string.length + 2 := by
  simp [field, Nat.add_comm]

theorem takeField_field {string : List UInt8} (small : string.length < 65536)
    (rest : List UInt8) : takeField (field string ++ rest) = some (string, rest) := by
  simp only [field, bigEndian, List.cons_append, List.nil_append, takeField,
    readBigEndian_bigEndian small]
  simp

def marked (byte : UInt8) : Bool := byte &&& 0x80 ≠ 0

def group (byte : UInt8) : Nat := (byte &&& 0x7f).toNat

theorem group_eq (byte : UInt8) : group byte = byte.toNat % 128 := by
  rw [group, UInt8.toNat_and]
  exact Nat.and_two_pow_sub_one_eq_mod byte.toNat 7

theorem marked_eq (byte : UInt8) : marked byte = decide (128 ≤ byte.toNat) := by
  have every : ∀ n : Fin 256, marked (UInt8.ofNat n) = decide (128 ≤ (n : Nat)) := by
    decide +kernel
  have here := every ⟨byte.toNat, byte.toNat_lt⟩
  rwa [UInt8.ofNat_toNat] at here

def lengthBytes (n : Nat) : List UInt8 :=
  if n < 128 then [UInt8.ofNat n] else UInt8.ofNat (n % 128 + 128) :: lengthBytes (n / 128)
termination_by n
decreasing_by omega

def readLength : List UInt8 → Option (Nat × Nat)
  | [] => none
  | byte :: rest =>
      if marked byte then (readLength rest).map fun (n, k) => (group byte + 128 * n, k + 1)
      else some (group byte, 1)

theorem readLength_lengthBytes (n : Nat) (rest : List UInt8) :
    readLength (lengthBytes n ++ rest) = some (n, (lengthBytes n).length) := by
  induction n using Nat.strongRecOn with
  | ind n ih =>
    rw [lengthBytes]
    split
    next small =>
      have byte : (UInt8.ofNat n).toNat = n := by
        rw [UInt8.toNat_ofNat']
        omega
      have unmarked : ¬ 128 ≤ n := by omega
      simp only [List.cons_append, List.nil_append, readLength, marked_eq, group_eq, byte,
        unmarked, decide_false, Bool.false_eq_true, if_false, Nat.mod_eq_of_lt small,
        List.length_singleton]
    next large =>
      have byte : (UInt8.ofNat (n % 128 + 128)).toNat = n % 128 + 128 := by
        rw [UInt8.toNat_ofNat']
        omega
      simp only [List.cons_append, readLength, marked_eq, group_eq, byte,
        ih (n / 128) (by omega), List.length_cons]
      simp only [Nat.le_add_left, decide_true, if_true, Option.map_some, Option.some.injEq,
        Prod.mk.injEq, and_true]
      omega

theorem lengthBytes_length_pos (n : Nat) : 0 < (lengthBytes n).length := by
  rw [lengthBytes]
  split <;> simp

end ByteFields
