import CanMaster.Firmware.MqttMsg
import CanMaster.Firmware.Steps

set_option autoImplicit false

namespace CanMaster

open Transition Json

/-- The text has at least the keys, the values and the punctuation of compact JSON. -/
def AtLeastCompact (cJSONPrint : Json → String) : Prop :=
  ∀ request, (print false 0 (masterRequestJson request)).length ≤
    (cJSONPrint (masterRequestJson request)).length

def LaidOut (cJSONPrint : Json → String) : Prop :=
  ∀ request, (cJSONPrint (masterRequestJson request)).length =
    (print true 0 (masterRequestJson request)).length

example : print true 0 (masterRequestJson
      (some ⟨0, 3, 1, [⟨0, 2, ⟨0, 20, 2, Vector.replicate 8 1⟩⟩]⟩)) =
    "\x7b\n\t\"transaction\":\t\x7b\n\t\t\"id\":\t0,\n\t\t\"starttime\":\t\"3d\",\n" ++
      "\t\t\"waitresponce\":\t1000,\n\t\t\"dataamount\":\t1\n\t\x7d,\n" ++
      "\t\"commands\":\t[\x7b\n\t\t\t\"id\":\t0,\n\t\t\t\"type\":\t\"canpackage\",\n" ++
      "\t\t\t\"timestamp\":\t\"2d\",\n\t\t\t\"address\":\t20,\n\t\t\t\"datalength\":\t2,\n" ++
      "\t\t\t\"can_data\":\t[1, 1],\n\t\t\t\"waitforanswer\":\tfalse,\n" ++
      "\t\t\t\"timeout\":\t0\n\t\t\x7d]\n\x7d" := by
  decide +kernel

-- The decimal digits of the fields, and two characters between two items of a list.
def canDataSize (msg : CanMessage) : Nat :=
  ((List.range msg.dataLengthCode.toNat).map fun j => digits (msg.data[j]?.getD 0).toNat).sum +
    2 * (msg.dataLengthCode.toNat - 1)

def commandSize (frame : CanMsgTimestamped) : Nat :=
  159 + digits frame.id.toNat + digits frame.timestamp.toNat +
    digits frame.msg.identifier.toNat + digits frame.msg.dataLengthCode.toNat +
    canDataSize frame.msg

def requestSize (request : MasterRequest) : Nat :=
  112 + digits request.cntTransaction.toNat + digits request.starttime.toNat +
    digits request.dataamount + (request.commands.map commandSize).sum +
    2 * (request.commands.length - 1)

theorem uintText_length (value : UInt32) : (uintText value).length = digits value.toNat + 1 := by
  have letter : ("d" : String).length = 1 := rfl
  rw [uintText, String.length_append, toString_length, letter]

theorem canDataJson_length (depth : Nat) (msg : CanMessage) :
    (print true depth (canDataJson msg)).length = canDataSize msg + 2 := by
  simp only [canDataJson, print_array_length, List.map_map, Function.comp_def,
    print_number_length, List.length_map, List.length_range, canDataSize]

section Lengths

private theorem id_length : ("id" : String).length = 2 := rfl

private theorem type_length : ("type" : String).length = 4 := rfl

private theorem canpackage_length : ("canpackage" : String).length = 10 := rfl

private theorem timestamp_length : ("timestamp" : String).length = 9 := rfl

private theorem address_length : ("address" : String).length = 7 := rfl

private theorem datalength_length : ("datalength" : String).length = 10 := rfl

private theorem canData_length : ("can_data" : String).length = 8 := rfl

private theorem waitforanswer_length : ("waitforanswer" : String).length = 13 := rfl

private theorem timeout_length : ("timeout" : String).length = 7 := rfl

private theorem false_length (format : Bool) (depth : Nat) :
    (print format depth (.bool false)).length = 5 := by
  simp only [print]
  rfl

theorem commandJson_length (frame : CanMsgTimestamped) :
    (print true 2 (commandJson frame)).length = commandSize frame := by
  have zero : (print true 3 (.number 0)).length = 1 := rfl
  simp only [commandJson, print_object_length, printMembers_length, List.map_cons, List.map_nil,
    List.sum_cons, List.sum_nil, List.length_cons, List.length_nil, print_number_length,
    print_string_length, false_length, zero, canDataJson_length, uintText_length, id_length,
    type_length, canpackage_length, timestamp_length, address_length, datalength_length,
    canData_length, waitforanswer_length, timeout_length, commandSize]
  omega

theorem transactionJson_length (request : MasterRequest) :
    (print true 1 (transactionJson request)).length =
      75 + digits request.cntTransaction.toNat + digits request.starttime.toNat +
        digits request.dataamount := by
  have thousand : (print true 2 (.number 1000)).length = 4 := rfl
  have starttime : ("starttime" : String).length = 9 := rfl
  have waitresponce : ("waitresponce" : String).length = 12 := rfl
  have dataamount : ("dataamount" : String).length = 10 := rfl
  simp only [transactionJson, print_object_length, printMembers_length, List.map_cons,
    List.map_nil, List.sum_cons, List.sum_nil, List.length_cons, List.length_nil,
    print_number_length, print_string_length, thousand, uintText_length, id_length, starttime,
    waitresponce, dataamount]
  omega

theorem masterRequestJson_length (request : MasterRequest) :
    (print true 0 (masterRequestJson (some request))).length = requestSize request := by
  have transaction : ("transaction" : String).length = 11 := rfl
  have commands : ("commands" : String).length = 8 := rfl
  have sizes : (fun frame => (print true 2 (commandJson frame)).length) = commandSize :=
    funext commandJson_length
  simp only [masterRequestJson, print_object_length, printMembers_length, List.map_cons,
    List.map_nil, List.sum_cons, List.sum_nil, List.length_cons, List.length_nil, Nat.zero_add,
    Nat.reduceAdd, transactionJson_length, print_array_length, List.map_map, Function.comp_def,
    sizes, List.length_map, transaction, commands, requestSize]
  omega

-- The keys and the two constant texts of a command alone are more than a hundred characters.
theorem commandJson_length_ge (format : Bool) (depth : Nat) (frame : CanMsgTimestamped) :
    102 ≤ (print format depth (commandJson frame)).length := by
  refine le_trans ?_ (print_object_length_ge format depth _)
  have package : (print format (depth + 1) (.string "canpackage")).length = 12 := quoted_length _
  have time : 3 ≤ (print format (depth + 1) (.string (uintText frame.timestamp))).length := by
    rw [print, quoted_length, uintText_length]
    omega
  have data : 2 ≤ (print format (depth + 1) (canDataJson frame.msg)).length := by
    have left : ("[" : String).length = 1 := rfl
    have right : ("]" : String).length = 1 := rfl
    simp only [canDataJson, print, String.length_append, left, right]
    omega
  simp only [List.map_cons, List.map_nil, List.sum_cons, List.sum_nil, package, false_length,
    id_length, type_length, timestamp_length, address_length, datalength_length, canData_length,
    waitforanswer_length, timeout_length]
  omega

end Lengths

theorem request_fits_iff {cJSONPrint : Json → String} (laidOut : LaidOut cJSONPrint)
    (request : MasterRequest) :
    (requestMessage cJSONPrint (some request)).isSome = true ↔ requestSize request ≤ 1010 := by
  rw [requestMessage_isSome, laidOut, masterRequestJson_length]

theorem commandsJson_length_ge (format : Bool) (depth : Nat) (frames : List CanMsgTimestamped) :
    102 * frames.length ≤ (print format depth (.array (frames.map commandJson))).length := by
  refine le_trans ?_ (print_array_length_ge format depth _)
  induction frames with
  | nil => exact Nat.zero_le _
  | cons frame rest ih =>
    have first := commandJson_length_ge format (depth + 1) frame
    simp only [List.map_cons, List.sum_cons, List.length_cons]
    omega

theorem ten_unfit {cJSONPrint : Json → String} (atLeast : AtLeastCompact cJSONPrint)
    {request : MasterRequest} (ten : 10 ≤ request.commands.length) :
    requestMessage cJSONPrint (some request) = none := by
  have commands := commandsJson_length_ge false 1 request.commands
  have compact := print_object_length_ge false 0 [("transaction", transactionJson request),
    ("commands", .array (request.commands.map commandJson))]
  have printed := atLeast (some request)
  simp only [List.map_cons, List.map_nil, List.sum_cons, List.sum_nil, Nat.zero_add] at compact
  simp only [masterRequestJson] at printed
  have unfit : ¬ (requestMessage cJSONPrint (some request)).isSome = true := by
    rw [requestMessage_isSome, masterRequestJson]
    omega
  simpa using unfit

def sampleFrame (i : Nat) : CanMsgTimestamped :=
  ⟨UInt32.ofNat i, 2682417719, ⟨canMsgFlagNone, 2014, 8, Vector.replicate 8 (UInt8.ofNat i)⟩⟩

def sampleRequest (count : Nat) : MasterRequest :=
  ⟨0, 2683303892, count, (List.range count).map sampleFrame⟩

theorem shortSample_fits :
    (requestMessage (print true 0) (some (sampleRequest 4))).isSome = true :=
  (request_fits_iff (fun _ => rfl) (sampleRequest 4)).mpr (by decide +kernel)

def sampleBus (i : Nat) : BusFrame := ⟨(sampleFrame i).msg, ⟨2682417, 719000⟩, blankFrame⟩

-- Ten frames arrive before `mqtt_transmit_task` is at work.
def sampleRun : List Action :=
  startUp ++
    (List.range 10).flatMap (fun i =>
      [.canReceive (some (sampleBus i)), .canReceive none, .canReceive none]) ++
    controls 4 ++ List.replicate 25 (.mqttTransmit ⟨2683303, 892000⟩ ⟨true, true, 1, 1⟩)

theorem sample_unfit :
    firmware.Reachable (after sampleRun) ∧
      (after sampleRun).mqttTransmitPc = .publish (some (sampleRequest 10)) ∧
      ∀ cJSONPrint, AtLeastCompact cJSONPrint →
        requestMessage cJSONPrint (some (sampleRequest 10)) = none := by
  have runs : (firmware.run firmware.init sampleRun).isSome = true := by decide +kernel
  obtain ⟨s, ran⟩ := Option.isSome_iff_exists.mp runs
  have reached : firmware.Reachable (after sampleRun) := ⟨sampleRun, by simp [after, ran]⟩
  exact ⟨reached, by decide +kernel, fun _ atLeast => ten_unfit atLeast (by decide)⟩

end CanMaster
