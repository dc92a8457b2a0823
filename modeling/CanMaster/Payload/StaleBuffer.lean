import CanMaster.Shared.JsonReader
import CanMaster.Payload.Commands

set_option autoImplicit false

namespace CanMaster

open Json

-- Events with the same payload have the same effects, whatever lies behind it.
def BufferIndependent (cJSONParse : List UInt8 → Option Json) (canM : CanMsgTimestamped)
    (data : Option (List UInt8)) : Prop :=
  ∀ first second : MqttEvent, first.data = data → second.data = data →
    mqttReceive cJSONParse canM first = mqttReceive cJSONParse canM second

-- The parser rejects the payload where it is terminated, and accepts it with more bytes behind.
def Truncated (cJSONParse : List UInt8 → Option Json) : Option (List UInt8) → Prop
  | none => False
  | some data =>
      cJSONParse (cString data) = none ∧
        ∃ behind, (cJSONParse (cString (data ++ behind))).isSome = true

theorem cString_append (data behind : List UInt8) :
    cString (data ++ behind) = if 0 ∈ data then cString data else data ++ cString behind := by
  unfold cString
  induction data with
  | nil => simp
  | cons byte rest ih =>
    by_cases zero : byte = 0
    next => simp [zero]
    next =>
      have other : ¬ 0 = byte := Ne.symm zero
      by_cases later : 0 ∈ rest <;> simp_all

theorem cString_extends (data behind : List UInt8) :
    ∃ more, cString (data ++ behind) = cString data ++ more := by
  rw [cString_append]
  by_cases zero : 0 ∈ data
  next => exact ⟨[], by simp [zero]⟩
  next =>
    have whole : cString data = data := by
      have same := cString_append data []
      simpa [zero, cString] using same
    exact ⟨cString behind, by simp [zero, whole]⟩

theorem mqttApply_number (canM : CanMsgTimestamped) (value : ℚ) :
    mqttApply canM (some (.number value)) = [.sendNetReceived] := rfl

theorem accepted_independent {cJSONParse : List UInt8 → Option Json}
    (stops : StopsAtValue cJSONParse) (canM : CanMsgTimestamped) {event : MqttEvent}
    {data : List UInt8} {jdata : Json} (here : event.data = some data)
    (accepted : cJSONParse (cString data) = some jdata) :
    mqttReceive cJSONParse canM event = mqttApply canM (some jdata) := by
  obtain ⟨more, text⟩ := cString_extends data event.behind
  rw [mqttReceive_eq, MqttEvent.parsed, MqttEvent.text, here, Option.map_some, Option.bind_some, text]
  rcases stops _ more jdata accepted with same | ⟨whole, longer, rfl, number⟩
  next => rw [same]
  next => rw [number, mqttApply_number, mqttApply_number]

theorem mqttApply_ne_nil (canM : CanMsgTimestamped) (jdata : Json) :
    mqttApply canM (some jdata) ≠ [] := by
  simp [mqttApply_some, answerOps]

theorem terminated_independent {cJSONParse : List UInt8 → Option Json}
    (stops : StopsAtValue cJSONParse) (canM : CanMsgTimestamped) {data : List UInt8}
    (untruncated : ¬ Truncated cJSONParse (some data)) :
    BufferIndependent cJSONParse canM (some data) := by
  intro first second firstData secondData
  cases alone : cJSONParse (cString data) with
  | some jdata =>
    rw [accepted_independent stops canM firstData alone,
      accepted_independent stops canM secondData alone]
  | none =>
    have rejected (behind : List UInt8) : cJSONParse (cString (data ++ behind)) = none := by
      by_contra accepted
      exact untruncated ⟨alone, behind, Option.isSome_iff_ne_none.mpr accepted⟩
    simp [mqttReceive, MqttEvent.text, firstData, secondData, rejected]

theorem bufferIndependent_iff {cJSONParse : List UInt8 → Option Json}
    (stops : StopsAtValue cJSONParse) (canM : CanMsgTimestamped) (data : Option (List UInt8)) :
    BufferIndependent cJSONParse canM data ↔ ¬ Truncated cJSONParse data := by
  cases data with
  | none =>
    -- The callback does not look behind a null pointer.
    refine iff_of_true (fun first second firstData secondData => ?_) not_false
    simp [mqttReceive, MqttEvent.text, firstData, secondData]
  | some data =>
    refine ⟨?_, terminated_independent stops canM⟩
    rintro independent ⟨rejected, behind, accepted⟩
    obtain ⟨jdata, parsed⟩ := Option.isSome_iff_exists.mp accepted
    have same := independent ⟨some data, [], 0, data.length⟩ ⟨some data, behind, 0, data.length⟩
      rfl rfl
    simp only [mqttReceive, MqttEvent.text, Option.map_some, List.append_nil, rejected,
      parsed] at same
    exact mqttApply_ne_nil canM jdata same.symm

def ascii (text : String) : List UInt8 := text.toList.map fun char => UInt8.ofNat char.toNat

-- {"commands":[{"type":"canpackage","id":1,"address":2024,"datalength":0}]} and what of it
-- lies before the last brace.
def cutResponse : List UInt8 :=
  ascii "\x7b\"commands\":[\x7b\"type\":\"canpackage\",\"id\":1,\"address\":2024,\"datalength\":0\x7d]"

def oneResponse : List UInt8 := cutResponse ++ [125]

theorem oneResponse_independent :
    BufferIndependent Json.read blankFrame (some oneResponse) := by
  apply (bufferIndependent_iff read_stops _ _).mpr
  rintro ⟨rejected, _⟩
  have accepted : (Json.read (cString oneResponse)).isSome = true := by decide +kernel
  simp [rejected] at accepted

theorem cutResponse_depends : ∃ first second : MqttEvent,
    first.data = some cutResponse ∧ second.data = some cutResponse ∧
    mqttReceive Json.read blankFrame first = [] ∧
    mqttReceive Json.read blankFrame second =
      [.sendFrame ⟨1, 0, ⟨0, 2024, 0, Vector.replicate 8 0⟩⟩, .sendNetReceived] := by
  refine ⟨⟨some cutResponse, [0], 0, cutResponse.length⟩,
    ⟨some cutResponse, [125, 0], 0, cutResponse.length⟩, rfl, rfl, ?_, ?_⟩
  next => decide +kernel
  next => decide +kernel

end CanMaster
