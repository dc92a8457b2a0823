import Mathlib.Algebra.Ring.Int.Defs
import CanMaster.Shared.Eviction

set_option autoImplicit false

namespace EspMqtt

open Eviction

-- The outbox is a list of these, oldest first. An allocation that fails is left out.
structure OutboxItem where
  buffer : List UInt8
  msgId : Nat
  msgType : Nat
  tick : Int32
  pending : Bool

def OutboxItem.len (item : OutboxItem) : Nat := item.buffer.length

abbrev Outbox : Type := List OutboxItem

-- Only the low half of a tick is kept.
def outboxEnqueue (outbox : Outbox) (data : List UInt8) (msgId msgType : Nat) (tick : Int) :
    Outbox :=
  outbox ++ [⟨data, msgId, msgType, Int32.ofInt tick, false⟩]

def outboxDequeue (outbox : Outbox) : Option OutboxItem := outbox.find? fun item => !item.pending

-- `none` stands for a failure.
def outboxDelete (msgId msgType : Nat) : Outbox → Option Outbox
  | [] => none
  | item :: rest =>
      if item.msgId = msgId ∧ item.msgType = msgType then some rest
      else (outboxDelete msgId msgType rest).map (item :: ·)

def outboxSetPending (msgId : Nat) : Outbox → Option Outbox
  | [] => none
  | item :: rest =>
      if item.msgId = msgId then some ({ item with pending := true } :: rest)
      else (outboxSetPending msgId rest).map (item :: ·)

def OutboxItem.expired (item : OutboxItem) (currentTick timeout : Int32) : Bool :=
  timeout < currentTick - item.tick

def outboxDeleteExpired (outbox : Outbox) (currentTick : Int) (timeout : Int32) : Outbox :=
  outbox.filter fun item => !item.expired (Int32.ofInt currentTick) timeout

def outboxGetSize : Outbox → Nat
  | [] => 0
  | item :: rest => item.len + outboxGetSize rest

theorem dequeued_shorter {outbox : Outbox} {item : OutboxItem}
    (found : outboxDequeue outbox = some item) :
    (outbox.eraseP fun item => !item.pending).length < outbox.length := by
  have inside := List.mem_of_find?_eq_some found
  have free := List.find?_some (p := fun item : OutboxItem => !item.pending) found
  have shorter := List.length_eraseP_of_mem (p := fun item => !item.pending) inside free
  have positive := List.length_pos_of_mem inside
  omega

-- The item that is removed is the first one that is not pending.
def outboxCleanup (maxSize : Nat) (outbox : Outbox) : Bool × Outbox :=
  if outboxGetSize outbox ≤ maxSize then (true, outbox)
  else
    match _found : outboxDequeue outbox with
    | none => (false, outbox)
    | some _ => outboxCleanup maxSize (outbox.eraseP fun item => !item.pending)
termination_by outbox.length
decreasing_by exact dequeued_shorter _found

def OutboxItem.Matches (item : OutboxItem) (msgId msgType : Nat) : Prop :=
  item.msgId = msgId ∧ item.msgType = msgType

theorem outboxDelete_some {msgId msgType : Nat} {outbox rest : Outbox}
    (deleted : outboxDelete msgId msgType outbox = some rest) :
    ∃ before item after, outbox = before ++ item :: after ∧ rest = before ++ after ∧
      item.Matches msgId msgType ∧ ∀ other ∈ before, ¬ other.Matches msgId msgType := by
  induction outbox generalizing rest with
  | nil => cases deleted
  | cons first outbox ih =>
    simp only [outboxDelete] at deleted
    split at deleted
    next found =>
      cases deleted
      exact ⟨[], first, outbox, rfl, rfl, found, by simp⟩
    next other =>
      obtain ⟨left, later, rfl⟩ := Option.map_eq_some_iff.mp deleted
      obtain ⟨before, item, after, rfl, rfl, found, none⟩ := ih later
      refine ⟨first :: before, item, after, rfl, rfl, found, ?_⟩
      rintro kept (_ | inside)
      · exact other
      · exact none kept (by assumption)

/-- The ticks are counted past what an `int` holds, but an age below `2^31` ms is told right. -/
theorem expired_iff {item : OutboxItem} {put now : Int} (kept : item.tick = Int32.ofInt put)
    (forward : put ≤ now) (recent : now - put < 2 ^ 31) (timeout : Int32) :
    item.expired (Int32.ofInt now) timeout = true ↔ timeout.toInt < now - put := by
  have age : (Int32.ofInt now - item.tick).toInt = now - put := by
    rw [kept, ← Int32.ofInt_sub, Int32.toInt_ofInt]
    have wraps : (Int32.size : Int) = 2 ^ 32 := rfl
    exact Int.bmod_eq_of_le (by omega) (by omega)
  rw [OutboxItem.expired, decide_eq_true_eq, Int32.lt_iff_toInt_lt, age]

-- The tick of the item is the last one before it wraps.
example : OutboxItem.expired ⟨[1], 7, 3, Int32.ofInt 2147483647, false⟩ (Int32.ofInt 2147513648)
    30000 = true :=
  (expired_iff rfl (by decide) (by decide) 30000).mpr (by decide)

theorem outboxGetSize_total (outbox : Outbox) :
    outboxGetSize outbox = total OutboxItem.len outbox := by
  induction outbox with
  | nil => rfl
  | cons item rest ih => simp [outboxGetSize, total, ih]

theorem outboxDequeue_none {outbox : Outbox} (none : outboxDequeue outbox = none) :
    ∀ item ∈ outbox, item.pending = true := by
  simpa [outboxDequeue] using none

theorem outboxCleanup_evicted (maxSize : Nat) (outbox : Outbox) :
    Evicted OutboxItem.len OutboxItem.pending maxSize outbox (outboxCleanup maxSize outbox).2 ∧
      ((outboxCleanup maxSize outbox).1 = true ↔
        outboxGetSize (outboxCleanup maxSize outbox).2 ≤ maxSize) := by
  induction outbox using outboxCleanup.induct maxSize with
  | case1 outbox fits =>
    rw [outboxCleanup, if_pos fits]
    exact ⟨evicted_stop (.inl (by rwa [← outboxGetSize_total])), by simpa using fits⟩
  | case2 outbox full none =>
    rw [outboxCleanup, if_neg full]
    split
    next => exact ⟨evicted_stop (.inr (outboxDequeue_none none)), by simpa using full⟩
    next item found => simp [none] at found
  | case3 outbox full item found ih =>
    rw [outboxCleanup, if_neg full]
    split
    next none => simp [found] at none
    next =>
      rw [outboxGetSize_total] at full
      exact ⟨.step (Nat.lt_of_not_le full) ih.1, ih.2⟩

theorem outboxCleanup_newest (maxSize : Nat) {outbox : Outbox}
    (free : ∀ item ∈ outbox, item.pending = false) :
    ∃ k, outboxCleanup maxSize outbox = (true, outbox.drop k) ∧
      outboxGetSize (outbox.drop k) ≤ maxSize ∧
      ∀ j < k, maxSize < outboxGetSize (outbox.drop j) := by
  obtain ⟨⟨⟨k, rest, more⟩, enough⟩, status⟩ := outboxCleanup_evicted maxSize outbox
  rw [dropFree_of_free free] at rest
  have fits : outboxGetSize (outbox.drop k) ≤ maxSize := by
    rw [← rest]
    rcases enough with small | held
    · rwa [outboxGetSize_total]
    · have nothing : (outboxCleanup maxSize outbox).2 = [] := by
        apply List.eq_nil_iff_forall_not_mem.mpr
        intro item inside
        have pending := held item inside
        rw [rest] at inside
        rw [free item (List.mem_of_mem_drop inside)] at pending
        cases pending
      rw [nothing]
      exact Nat.zero_le _
  refine ⟨k, Prod.ext (status.mpr (by rwa [rest])) rest, fits, fun j before => ?_⟩
  have large := more j before
  rwa [dropFree_of_free free, ← outboxGetSize_total] at large

end EspMqtt
