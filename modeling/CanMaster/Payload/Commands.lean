import CanMaster.Firmware.MqttEvents

set_option autoImplicit false

namespace CanMaster

structure CommandRecord where
  id : UInt32
  identifier : UInt32
  dataLengthCode : UInt8
  deriving DecidableEq

def commandRecord (command : Json) : Option CommandRecord := do
  let _ ← command.getObjectItem "type"
  let id ← command.getObjectItem "id"
  let address ← command.getObjectItem "address"
  let datalength ← command.getObjectItem "datalength"
  return ⟨UInt32.ofInt id.valueint, UInt32.ofInt address.valueint, UInt8.ofInt datalength.valueint⟩

def CommandRecord.frame (canM : CanMsgTimestamped) (record : CommandRecord) : CanMsgTimestamped :=
  { canM with
    id := record.id
    msg :=
      { canM.msg with
        identifier := record.identifier
        dataLengthCode := record.dataLengthCode } }

theorem frame_frame (canM : CanMsgTimestamped) (earlier record : CommandRecord) :
    record.frame (earlier.frame canM) = record.frame canM := rfl

theorem frame_injective (canM : CanMsgTimestamped) :
    Function.Injective (CommandRecord.frame canM) := by
  intro one other same
  cases one
  cases other
  simpa [CommandRecord.frame] using same

def responseCommands (jdata : Json) : List Json :=
  match jdata.getObjectItem "commands" with
  | some (.array items) => items
  | _ => []

def sentRecords : List Json → List CommandRecord
  | [] => []
  | command :: rest =>
      match commandRecord command with
      | none => []
      | some record => record :: sentRecords rest

def Complete (commands : List Json) : Prop := ∀ command ∈ commands, commandRecord command ≠ none

theorem decodeCommand_eq (canM : CanMsgTimestamped) (command : Json) :
    decodeCommand canM command = (commandRecord command).map (CommandRecord.frame canM) := by
  unfold decodeCommand commandRecord
  simp only [Json.isArray_ne_cJSONTrue, if_false]
  cases command.getObjectItem "type" <;> cases command.getObjectItem "id" <;>
    cases command.getObjectItem "address" <;> cases command.getObjectItem "datalength" <;> rfl

theorem sendCommands_frames (canM : CanMsgTimestamped) (commands : List Json) :
    (sendCommands canM commands).frames = (sentRecords commands).map (CommandRecord.frame canM) := by
  induction commands generalizing canM with
  | nil => rfl
  | cons command rest ih =>
    cases found : commandRecord command with
    | none => simp [sendCommands, sentRecords, decodeCommand_eq, found]
    | some record =>
      have next : CommandRecord.frame (record.frame canM) = CommandRecord.frame canM :=
        funext (frame_frame canM record)
      simp only [sendCommands, sentRecords, decodeCommand_eq, found, Option.map_some, ih, next,
        List.map_cons]

theorem sendCommands_finished (canM : CanMsgTimestamped) (commands : List Json) :
    (sendCommands canM commands).finished = true ↔ Complete commands := by
  induction commands generalizing canM with
  | nil => simp [sendCommands, Complete]
  | cons command rest ih =>
    cases found : commandRecord command with
    | none => simp [sendCommands, Complete, decodeCommand_eq, found]
    | some record =>
      have later := ih (record.frame canM)
      simp only [Complete] at later
      simp [sendCommands, Complete, decodeCommand_eq, found, later]

theorem requestCanSend_eq (canM : CanMsgTimestamped) (jdata : Json) :
    requestCanSend canM jdata = sendCommands canM (responseCommands jdata) := by
  unfold requestCanSend responseCommands
  cases jdata.getObjectItem "commands" with
  | none => rfl
  | some commands => cases commands <;> rfl

theorem requestCanSend_frames (canM : CanMsgTimestamped) (jdata : Json) :
    (requestCanSend canM jdata).frames =
      (sentRecords (responseCommands jdata)).map (CommandRecord.frame canM) := by
  rw [requestCanSend_eq, sendCommands_frames]

theorem requestCanSend_finished (canM : CanMsgTimestamped) (jdata : Json) :
    (requestCanSend canM jdata).finished = true ↔ Complete (responseCommands jdata) := by
  rw [requestCanSend_eq, sendCommands_finished]

def answerOps (canM : CanMsgTimestamped) (jdata : Json) : List MqttOp :=
  ((sentRecords (responseCommands jdata)).map (CommandRecord.frame canM)).map .sendFrame ++
    [if (requestCanSend canM jdata).finished then .sendNetReceived else .fault]

theorem mqttApply_some (canM : CanMsgTimestamped) (jdata : Json) :
    mqttApply canM (some jdata) = answerOps canM jdata := by
  simp only [mqttApply, answerOps, requestCanSend_frames]

end CanMaster
