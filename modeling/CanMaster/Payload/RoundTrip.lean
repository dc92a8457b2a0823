import Mathlib.Data.List.Forall2
import Mathlib.Data.UInt
import CanMaster.Payload.Commands

set_option autoImplicit false

namespace CanMaster

structure InRange (frame : CanMsgTimestamped) : Prop where
  id : frame.id < 256
  identifier : frame.msg.identifier < 2 ^ 29
  dataLengthCode : frame.msg.dataLengthCode ≤ 8

structure SameFrame (sent original : CanMsgTimestamped) : Prop where
  id : sent.id = original.id
  identifier : sent.msg.identifier = original.msg.identifier
  dataLengthCode : sent.msg.dataLengthCode = original.msg.dataLengthCode
  data : ∀ i (_ : i < 8), i < original.msg.dataLengthCode.toNat →
    sent.msg.data[i] = original.msg.data[i]

/-- The frames sent for a master request that comes back unchanged are the frames that it was
built from. -/
def RoundTrips (canM : CanMsgTimestamped) (request : Option MasterRequest) : Prop :=
  List.Forall₂ SameFrame (requestCanSend canM (masterRequestJson request)).frames
    (requestFrames request)

def frameRecord (frame : CanMsgTimestamped) : CommandRecord :=
  ⟨frame.id, frame.msg.identifier, frame.msg.dataLengthCode⟩

theorem ofInt_toNat32 (value : UInt32) : UInt32.ofInt (value.toNat : Int) = value := by
  apply UInt32.toNat_inj.mp
  have bound := value.toNat_lt
  simp only [UInt32.ofInt, UInt32.toNat_ofNat']
  omega

theorem ofInt_toNat8 (value : UInt8) : UInt8.ofInt (value.toNat : Int) = value := by
  apply UInt8.toNat_inj.mp
  have bound := value.toNat_lt
  simp only [UInt8.ofInt, UInt8.toNat_ofNat']
  omega

structure Unsaturated (frame : CanMsgTimestamped) : Prop where
  id : frame.id.toNat < 2 ^ 31
  identifier : frame.msg.identifier.toNat < 2 ^ 31

theorem InRange.unsaturated {frame : CanMsgTimestamped} (inRange : InRange frame) :
    Unsaturated frame := by
  constructor
  next =>
    have small : frame.id.toNat < 256 := inRange.id
    omega
  next =>
    have small : frame.msg.identifier.toNat < 2 ^ 29 := inRange.identifier
    omega

theorem commandRecord_commandJson {frame : CanMsgTimestamped} (unsaturated : Unsaturated frame) :
    commandRecord (commandJson frame) = some (frameRecord frame) := by
  have dataLengthCode : frame.msg.dataLengthCode.toNat < 2 ^ 31 := by
    have small := frame.msg.dataLengthCode.toNat_lt
    omega
  have fields : commandRecord (commandJson frame) = some
      ⟨UInt32.ofInt (Json.number frame.id.toNat).valueint,
        UInt32.ofInt (Json.number frame.msg.identifier.toNat).valueint,
        UInt8.ofInt (Json.number frame.msg.dataLengthCode.toNat).valueint⟩ := by
    simp [commandRecord, commandJson, Json.getObjectItem, Json.sameKey]
  rw [fields, Json.valueint_ofNat unsaturated.id, Json.valueint_ofNat unsaturated.identifier,
    Json.valueint_ofNat dataLengthCode, ofInt_toNat32, ofInt_toNat32, ofInt_toNat8, frameRecord]

theorem sentRecords_commandJson {frames : List CanMsgTimestamped}
    (unsaturated : ∀ frame ∈ frames, Unsaturated frame) :
    sentRecords (frames.map commandJson) = frames.map frameRecord := by
  induction frames with
  | nil => rfl
  | cons frame rest ih =>
    have first := commandRecord_commandJson (unsaturated frame (by simp))
    have later := ih fun other member => unsaturated other (by simp [member])
    simp only [List.map_cons, sentRecords, first, later]

theorem responseCommands_masterRequestJson (request : Option MasterRequest) :
    responseCommands (masterRequestJson request) = (requestFrames request).map commandJson := by
  cases request with
  | none => rfl
  | some request =>
    simp [responseCommands, masterRequestJson, Json.getObjectItem, Json.sameKey, requestFrames]

theorem sameFrame_iff (canM frame : CanMsgTimestamped) :
    SameFrame ((frameRecord frame).frame canM) frame ↔
      ∀ i (_ : i < 8), i < frame.msg.dataLengthCode.toNat →
        canM.msg.data[i] = frame.msg.data[i] :=
  ⟨fun same => same.data, fun data => ⟨rfl, rfl, rfl, data⟩⟩

theorem roundTrips_iff_stale {request : Option MasterRequest}
    (inRange : ∀ frame ∈ requestFrames request, InRange frame) (canM : CanMsgTimestamped) :
    RoundTrips canM request ↔
      ∀ frame ∈ requestFrames request, ∀ i (_ : i < 8),
        i < frame.msg.dataLengthCode.toNat → canM.msg.data[i] = frame.msg.data[i] := by
  have records := sentRecords_commandJson fun frame member => (inRange frame member).unsaturated
  unfold RoundTrips
  rw [requestCanSend_frames, responseCommands_masterRequestJson, records, List.map_map,
    List.forall₂_map_left_iff, List.forall₂_same]
  simp only [Function.comp_apply, sameFrame_iff]

theorem byte_add_one_ne (byte : UInt8) : byte + 1 ≠ byte := by
  intro same
  have values := congrArg UInt8.toNat same
  have bound := byte.toNat_lt
  simp only [UInt8.toNat_add, UInt8.toNat_one] at values
  omega

theorem roundTrips_iff {request : Option MasterRequest}
    (inRange : ∀ frame ∈ requestFrames request, InRange frame) :
    (∀ canM, RoundTrips canM request) ↔
      ∀ frame ∈ requestFrames request, frame.msg.dataLengthCode = 0 := by
  simp only [roundTrips_iff_stale inRange]
  constructor
  next =>
    intro survives frame member
    by_contra carries
    have first : 0 < frame.msg.dataLengthCode.toNat := by
      have positive := mt UInt8.toNat_inj.mp carries
      simp only [UInt8.toNat_zero] at positive
      omega
    let stale : CanMsgTimestamped :=
      { frame with msg := { frame.msg with data := frame.msg.data.map (· + 1) } }
    have same := survives stale frame member 0 (by decide) first
    simp only [stale, Vector.getElem_map] at same
    exact byte_add_one_ne _ same
  next =>
    intro empty canM frame member i _ inside
    simp [empty frame member] at inside

def emptyFrame (identifier : UInt32) : CanMsgTimestamped :=
  ⟨0, 0, ⟨canMsgFlagNone, identifier, 0, Vector.replicate 8 0⟩⟩

theorem emptyFrames_roundTrip :
    RoundTrips blankFrame (some ⟨0, 0, 2, [emptyFrame 0x7E8, emptyFrame 0x7DF]⟩) := by
  refine (roundTrips_iff fun frame member => ?_).mpr ?_ blankFrame
  next =>
    rcases List.mem_pair.mp member with rfl | rfl <;> constructor <;> decide
  next =>
    intro frame member
    rcases List.mem_pair.mp member with rfl | rfl <;> rfl

def oneByteFrame : CanMsgTimestamped :=
  ⟨0, 0, ⟨canMsgFlagNone, 0x7E8, 1, Vector.replicate 8 1⟩⟩

theorem oneByte_lost : InRange oneByteFrame ∧
    ¬ RoundTrips blankFrame (some ⟨0, 0, 1, [oneByteFrame]⟩) := by
  have inRange : InRange oneByteFrame := by constructor <;> decide
  refine ⟨inRange, fun survives => ?_⟩
  have same := (roundTrips_iff_stale (by simpa [requestFrames] using inRange) _).mp survives
    oneByteFrame (by simp [requestFrames]) 0 (by decide) (by decide)
  exact absurd same (by decide)

end CanMaster
