import Mathlib.Data.List.Basic
import CanMaster.Payload.StaleBuffer

set_option autoImplicit false

namespace CanMaster

open Json

def Consecutive (total : Nat) : Nat → List MqttEvent → Prop
  | _, [] => True
  | offset, event :: rest =>
      event.currentDataOffset = offset ∧ event.totalDataLen = total ∧
        Consecutive total (offset + event.bytes.length) rest

/-- A response document and the data events in which the client delivers it. -/
structure Delivery (cJSONParse : List UInt8 → Option Json) where
  payload : List UInt8
  document : Json
  parsed : cJSONParse (cString payload) = some document
  events : List MqttEvent
  nonempty : events ≠ []
  pieces : events.flatMap MqttEvent.bytes = payload
  consecutive : Consecutive payload.length 0 events

variable {cJSONParse : List UInt8 → Option Json}

-- All that the calls of `mqtt_receive` do, one call for each event. The local of each call
-- holds the same bytes.
def Delivery.ops (delivery : Delivery cJSONParse) (canM : CanMsgTimestamped) : List MqttOp :=
  delivery.events.flatMap (mqttReceive cJSONParse canM)

def AppliedOnce (delivery : Delivery cJSONParse) (canM : CanMsgTimestamped) : Prop :=
  delivery.ops canM =
    (requestCanSend canM delivery.document).frames.map .sendFrame ++ [.sendNetReceived]

def Delivery.accepted (delivery : Delivery cJSONParse) : List Json :=
  delivery.events.filterMap (MqttEvent.parsed cJSONParse)

def Lists (document tree : Json) : Prop :=
  Complete (responseCommands tree) ∧
    sentRecords (responseCommands tree) = sentRecords (responseCommands document)

theorem ops_eq (delivery : Delivery cJSONParse) (canM : CanMsgTimestamped) :
    delivery.ops canM = delivery.accepted.flatMap (answerOps canM) := by
  unfold Delivery.ops Delivery.accepted
  induction delivery.events with
  | nil => rfl
  | cons event rest ih =>
    rw [List.flatMap_cons, ih, mqttReceive_eq]
    cases parsed : event.parsed cJSONParse with
    | none => simp [parsed, mqttApply]
    | some jdata => simp [parsed, mqttApply_some]

def MqttOp.ends : MqttOp → Bool
  | .sendFrame _ => false
  | .sendNetReceived | .fault => true

theorem sendFrames_ends (frames : List CanMsgTimestamped) :
    (frames.map MqttOp.sendFrame).countP MqttOp.ends = 0 := by
  rw [List.countP_map]
  exact List.countP_eq_zero.mpr fun _ _ => by simp [MqttOp.ends]

theorem answerOps_ends (canM : CanMsgTimestamped) (jdata : Json) :
    (answerOps canM jdata).countP MqttOp.ends = 1 := by
  unfold answerOps
  rw [List.countP_append, sendFrames_ends]
  split <;> rfl

theorem flatMap_ends (canM : CanMsgTimestamped) (trees : List Json) :
    (trees.flatMap (answerOps canM)).countP MqttOp.ends = trees.length := by
  induction trees with
  | nil => rfl
  | cons tree rest ih =>
    rw [List.flatMap_cons, List.countP_append, answerOps_ends, ih, List.length_cons]
    omega

theorem sendFrames_injective (canM : CanMsgTimestamped) :
    Function.Injective fun records : List CommandRecord =>
      (records.map (CommandRecord.frame canM)).map MqttOp.sendFrame := by
  intro one other same
  have constructor : Function.Injective MqttOp.sendFrame := fun _ _ => MqttOp.sendFrame.inj
  have frames := List.map_injective_iff.mpr constructor same
  exact List.map_injective_iff.mpr (frame_injective canM) frames

theorem answerOps_eq_iff (canM : CanMsgTimestamped) (document tree : Json) :
    answerOps canM tree =
        (requestCanSend canM document).frames.map .sendFrame ++ [.sendNetReceived] ↔
      Lists document tree := by
  unfold answerOps Lists
  rw [requestCanSend_frames, ← requestCanSend_finished canM]
  constructor
  next =>
    intro same
    obtain ⟨frames, last⟩ := List.append_inj' same rfl
    refine ⟨?_, sendFrames_injective canM frames⟩
    by_contra unfinished
    simp [unfinished] at last
  next =>
    rintro ⟨finished, records⟩
    rw [finished, records, if_pos rfl]

theorem applied_once_iff (delivery : Delivery cJSONParse) (canM : CanMsgTimestamped) :
    AppliedOnce delivery canM ↔ ∃ tree, delivery.accepted = [tree] ∧
      Lists delivery.document tree := by
  unfold AppliedOnce
  rw [ops_eq]
  constructor
  next =>
    intro applied
    have ends := flatMap_ends canM delivery.accepted
    rw [applied, List.countP_append, sendFrames_ends] at ends
    obtain ⟨tree, single⟩ := List.length_eq_one_iff.mp ends.symm
    refine ⟨tree, single, ?_⟩
    rw [single, List.flatMap_singleton] at applied
    exact (answerOps_eq_iff canM _ tree).mp applied
  next =>
    rintro ⟨tree, single, lists⟩
    rw [single, List.flatMap_singleton]
    exact (answerOps_eq_iff canM _ tree).mpr lists

-- An event with a null pointer brings nothing and is passed over.
def MqttEvent.shows (event : MqttEvent) : Bool := event.data.isSome

theorem shown_bytes (events : List MqttEvent) :
    (events.filter MqttEvent.shows).flatMap MqttEvent.bytes = events.flatMap MqttEvent.bytes := by
  induction events with
  | nil => rfl
  | cons event rest ih =>
    cases data : event.data <;> simp [MqttEvent.shows, MqttEvent.bytes, data, ih]

theorem shown_accepted (delivery : Delivery cJSONParse) :
    (delivery.events.filter MqttEvent.shows).filterMap (MqttEvent.parsed cJSONParse) =
      delivery.accepted := by
  unfold Delivery.accepted
  induction delivery.events with
  | nil => rfl
  | cons event rest ih =>
    cases shows : event.shows with
    | true => simp [shows, List.filterMap_cons, ih]
    | false =>
      have null : event.data = none := by simpa [MqttEvent.shows] using shows
      simp [shows, MqttEvent.parsed, MqttEvent.text, null, ih]

theorem whole_lists (stops : StopsAtValue cJSONParse) (delivery : Delivery cJSONParse)
    (complete : Complete (responseCommands delivery.document)) {event : MqttEvent}
    (whole : delivery.events.filter MqttEvent.shows = [event]) :
    ∃ tree, delivery.accepted = [tree] ∧ Lists delivery.document tree := by
  have bytes : event.bytes = delivery.payload := by
    rw [← delivery.pieces, ← shown_bytes, whole]
    exact (List.append_nil _).symm
  have shows : event.shows = true := List.of_mem_filter (whole ▸ List.mem_singleton_self event)
  obtain ⟨data, here⟩ := Option.isSome_iff_exists.mp shows
  obtain ⟨more, longer⟩ := cString_extends data event.behind
  have text : event.text = some (cString delivery.payload ++ more) := by
    rw [MqttEvent.text, here, Option.map_some, longer, ← bytes, MqttEvent.bytes, here,
      Option.getD_some]
  have accepted : delivery.accepted = (cJSONParse (cString delivery.payload ++ more)).toList := by
    rw [← shown_accepted, whole]
    cases parsed : cJSONParse (cString delivery.payload ++ more) <;>
      simp [MqttEvent.parsed, text, parsed]
  rcases stops _ more _ delivery.parsed with same | ⟨value, other, number, later⟩
  next => exact ⟨delivery.document, by rw [accepted, same]; rfl, complete, rfl⟩
  next =>
    refine ⟨.number other, by rw [accepted, later]; rfl, ?_, ?_⟩
    · simp [Complete, responseCommands, Json.getObjectItem]
    · simp [number, responseCommands, Json.getObjectItem]

-- The response is cut between its last bracket and its last brace.
theorem pieces_ignored : ∃ delivery : Delivery Json.read,
    delivery.payload = oneResponse ∧ delivery.events.length = 2 ∧
      delivery.ops blankFrame = [] ∧ ¬ AppliedOnce delivery blankFrame := by
  have accepted : (Json.read (cString oneResponse)).isSome = true := by decide +kernel
  obtain ⟨document, parsed⟩ := Option.isSome_iff_exists.mp accepted
  let first : MqttEvent := ⟨some cutResponse, [0], 0, oneResponse.length⟩
  let second : MqttEvent := ⟨some [125], [0], cutResponse.length, oneResponse.length⟩
  let delivery : Delivery Json.read :=
    { payload := oneResponse
      document := document
      parsed := parsed
      events := [first, second]
      nonempty := by simp
      pieces := rfl
      consecutive := ⟨rfl, rfl, rfl, rfl, trivial⟩ }
  have ignored : delivery.ops blankFrame = [] := by
    have rejected : first.parsed Json.read = none ∧ second.parsed Json.read = none := by
      decide +kernel
    simp [Delivery.ops, delivery, mqttReceive_eq, rejected, mqttApply]
  refine ⟨delivery, rfl, rfl, ignored, fun applied => ?_⟩
  rw [AppliedOnce, ignored] at applied
  simp at applied

end CanMaster
