import CanMaster.Firmware.Steps
import CanMaster.Payload.Commands

set_option autoImplicit false

namespace CanMaster

open Transition

def frameIndices (msg : CanMessage) : List Nat := List.range msg.dataLengthCode.toNat

def decodeIndices (command : Json) : List Nat :=
  let canData := command.getObjectItem "can_data"
  if Json.isArray canData = Json.cJSONTrue then
    List.range (canData.elim [] Json.children).length
  else []

-- The indices that the loops of a step use: of the copy, of the encoding and of the decoding.
def indicesUsed (s : State) : Action → List Nat
  | .canReceive (some bus) => if s.canReceivePc = .receive then frameIndices bus.rxMsg else []
  | .mqttTransmit _ _ =>
      match s.mqttTransmitPc, s.rxCanQueue.items with
      | .drain _ (_ + 1), frame :: _ => frameIndices frame.msg
      | _, _ => []
  | .mqttClient (some jdata) _ =>
      if s.mqttPending = [] then (responseCommands jdata).flatMap decodeIndices else []
  | _ => []

def noteIndices (indices : List Nat) (s : State) (a : Action) : List Nat :=
  indices ++ indicesUsed s a

def indicesHistory : System (State × List Nat) Action := firmware.observed [] noteIndices

def InBounds (p : State × List Nat) : Prop := ∀ i ∈ p.2, i < 8

def ClassicalLength (p : State × List Nat) (a : Action) : Prop :=
  ∀ bus, a = .canReceive (some bus) → p.1.canReceivePc = .receive → bus.rxMsg.dataLengthCode ≤ 8

theorem frameIndices_lt_iff (msg : CanMessage) :
    (∀ i ∈ frameIndices msg, i < 8) ↔ msg.dataLengthCode ≤ 8 := by
  rw [UInt8.le_iff_toNat_le, frameIndices]
  simp only [List.mem_range]
  constructor
  next =>
    intro inside
    by_contra longer
    exact absurd (inside 8 (by simpa using longer)) (by decide)
  next =>
    intro short i before
    exact Nat.lt_of_lt_of_le before short

theorem decodeIndices_nil (command : Json) : decodeIndices command = [] := by
  simp [decodeIndices, Json.isArray_ne_cJSONTrue]

def copied : CanReceivePc → List CanMsgTimestamped
  | .sendEvent frame | .sendFrame frame => [frame]
  | _ => []

def Short (s : State) : Prop :=
  ∀ frame ∈ copied s.canReceivePc ++ s.rxCanQueue.items, frame.msg.dataLengthCode ≤ 8

def ShortIn (s : State) (indices : List Nat) : Prop := InBounds (s, indices) → Short s

theorem short_step {s t : State} {a : Action} (stepped : Step s a t)
    (classical : ∀ bus, a = .canReceive (some bus) → s.canReceivePc = .receive →
      bus.rxMsg.dataLengthCode ≤ 8)
    (short : Short s) : Short t := by
  unfold Short at short ⊢
  cases stepped with
  | takeCanRx here given => simpa [copied, here] using short
  | receiveFrame bus here =>
    have length := classical bus rfl here
    simp only [copied, here, List.nil_append] at short
    simpa [copied, stamp, length] using short
  | postCanReceived frame here room => simpa [copied, here] using short
  | enqueueRx frame here room =>
    simp only [copied, here, List.singleton_append, List.forall_mem_cons] at short
    simp only [copied, List.nil_append, BoundedQueue.push_items, List.forall_mem_append,
      List.forall_mem_singleton]
    exact ⟨short.2, short.1⟩
  | dequeueRx request cntMsg frame rest here more head =>
    rw [head, List.forall_mem_append, List.forall_mem_cons] at short
    rw [BoundedQueue.tail_items, head, List.tail_cons, List.forall_mem_append]
    exact ⟨short.1, short.2.2⟩
  | _ => exact short

theorem indicesUsed_lt_iff {s t : State} {a : Action} {indices : List Nat}
    (stepped : Step s a t) (short : Short s) :
    (∀ i ∈ indicesUsed s a, i < 8) ↔ ClassicalLength (s, indices) a := by
  cases a with
  | canReceive bus =>
    cases bus with
    | none => simp [indicesUsed, ClassicalLength]
    | some bus =>
      by_cases here : s.canReceivePc = .receive
      next => simp [indicesUsed, ClassicalLength, here, frameIndices_lt_iff]
      next => simp [indicesUsed, ClassicalLength, here]
  | mqttTransmit tv attempt =>
    have always : ClassicalLength (s, indices) (.mqttTransmit tv attempt) := by
      rintro bus ⟨⟩
    refine iff_of_true ?_ always
    simp only [indicesUsed]
    split
    next frame rest _ head =>
      refine (frameIndices_lt_iff frame.msg).mpr (short frame ?_)
      simp [head]
    next => simp
  | mqttClient jdata stale =>
    have none : indicesUsed s (.mqttClient jdata stale) = [] := by
      cases jdata with
      | none => rfl
      | some jdata => simp [indicesUsed, decodeIndices_nil]
    simp [none, ClassicalLength]
  | _ => simp [indicesUsed, ClassicalLength]

theorem shortIn_step (s : State) (a : Action) (t : State) (indices : List Nat)
    (stepped : firmware.step s a = some t) (held : ShortIn s indices) :
    ShortIn t (noteIndices indices s a) := by
  intro bounded
  obtain ⟨before, now⟩ := List.forall_mem_append.mp bounded
  have short := held before
  have listed := step_iff.mp stepped
  have classical : ClassicalLength (s, indices) a := (indicesUsed_lt_iff listed short).mp now
  exact short_step listed classical short

theorem inBounds_iff (actions : List Action) :
    indicesHistory.Always InBounds indicesHistory.init actions ↔
      indicesHistory.Along ClassicalLength indicesHistory.init actions := by
  have start : ShortIn initialState [] := fun _ => by simp [Short, copied, initialState]
  have exact (s : State) (a : Action) (t : State) (indices : List Nat)
      (held : ShortIn s indices) (bounded : InBounds (s, indices))
      (stepped : firmware.step s a = some t) :
      InBounds (t, noteIndices indices s a) ↔ ClassicalLength (s, indices) a := by
    rw [← indicesUsed_lt_iff (step_iff.mp stepped) (held bounded)]
    simp only [InBounds, noteIndices, List.forall_mem_append]
    exact and_iff_right bounded
  exact System.observed_always_iff shortIn_step exact start (by simp [InBounds]) actions

-- A classical frame whose raw length field is fifteen.
def longBus : BusFrame :=
  ⟨⟨canMsgFlagNone, 2014, 15, Vector.replicate 8 0⟩, ⟨0, 0⟩, blankFrame⟩

def longRun : List Action :=
  startUp ++ [.canReceive (some longBus), .canReceive none, .canReceive none] ++ controls 4 ++
    transmits 5

theorem long_out_of_bounds : ∃ indices, indicesHistory.Reachable (after longRun, indices) ∧
    indices = List.range 15 ++ List.range 15 ∧ ¬ InBounds (after longRun, indices) :=
  ⟨_, ⟨longRun, rfl⟩, rfl, fun bounded => absurd (bounded 14 (by decide)) (by decide)⟩

end CanMaster
