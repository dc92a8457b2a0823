import CanMaster.Payload.RoundTrip
import CanMaster.Firmware.Steps

set_option autoImplicit false

namespace CanMaster

open Transition

def canMsgFlagExtd : UInt32 := 1

def hasFlag (flag : UInt32) (msg : CanMessage) : Bool := msg.flags &&& flag != 0

theorem hasFlag_none (flag : UInt32) {msg : CanMessage} (none : msg.flags = canMsgFlagNone) :
    hasFlag flag msg = false := by
  simp [hasFlag, none, canMsgFlagNone]

def echo (frames : List CanMsgTimestamped) : Json :=
  .object [("commands", .array (frames.map commandJson))]

/-- The frame handed to `can_transmit` for a frame of the bus: a standard data frame, so a flag
of that one is kept exactly when it was not set. -/
structure HandedAs (arrived : CanMessage) (handed : CanMsgTimestamped) : Prop where
  identifier : handed.msg.identifier = arrived.identifier
  flags : handed.msg.flags = canMsgFlagNone
  format : ∀ flag, hasFlag flag handed.msg = hasFlag flag arrived ↔ hasFlag flag arrived = false

def HandsOver (arrived : CanMessage) (sent : CanMsgTimestamped) : Prop :=
  ∀ s t accepted, s.canTransmitPc = .receive → s.txCanQueue.items.head? = some sent →
    firmware.step s (.canTransmit accepted) = some t →
      ∃ handed, t.canTransmitPc = .transmit handed ∧ HandedAs arrived handed

theorem stamp_unsaturated (cntRxCan : UInt8) {bus : BusFrame}
    (inRange : bus.rxMsg.identifier < 2 ^ 29) : Unsaturated (stamp cntRxCan bus) := by
  constructor
  next =>
    have small := cntRxCan.toNat_lt
    simp only [stamp, UInt8.toNat_toUInt32]
    omega
  next =>
    have small : bus.rxMsg.identifier.toNat < 2 ^ 29 := inRange
    simp only [stamp]
    omega

theorem echo_frames {frames : List CanMsgTimestamped} (canM : CanMsgTimestamped)
    (unsaturated : ∀ frame ∈ frames, Unsaturated frame) :
    (requestCanSend canM (echo frames)).frames =
      frames.map fun frame => (frameRecord frame).frame canM := by
  have commands : responseCommands (echo frames) = frames.map commandJson := by
    simp [responseCommands, echo, Json.getObjectItem, Json.sameKey]
  rw [requestCanSend_frames, commands, sentRecords_commandJson unsaturated, List.map_map]
  rfl

theorem handsOver_record (cntRxCan : UInt8) (bus : BusFrame) (canM : CanMsgTimestamped) :
    HandsOver bus.rxMsg ((frameRecord (stamp cntRxCan bus)).frame canM) := by
  intro s t accepted here head stepped
  cases step_iff.mp stepped with
  | dequeueTx frame rest _ items =>
    obtain rfl : frame = (frameRecord (stamp cntRxCan bus)).frame canM := by
      simpa [items] using head
    refine ⟨_, rfl, rfl, rfl, fun flag => ?_⟩
    rw [hasFlag_none flag rfl, eq_comm]
  | _ => simp_all

theorem transmit_standard {s : State} (reached : firmware.Reachable s) (frame : CanMsgTimestamped)
    (handing : s.canTransmitPc = .transmit frame) : frame.msg.flags = canMsgFlagNone := by
  have kept (s : State) (a : Action) (t : State) (stepped : firmware.step s a = some t)
      (held : ∀ frame, s.canTransmitPc = .transmit frame → frame.msg.flags = canMsgFlagNone) :
      ∀ frame, t.canTransmitPc = .transmit frame → frame.msg.flags = canMsgFlagNone := by
    intro frame handing
    cases step_iff.mp stepped with
    | dequeueTx queued rest here head =>
      cases handing
      rfl
    | takeCanTx here given => cases handing
    | transmitted other here => cases handing
    | postCanTransmitted here room => cases handing
    | _ => exact held frame handing
  have start (frame : CanMsgTimestamped) (handing : initialState.canTransmitPc = .transmit frame) :
      frame.msg.flags = canMsgFlagNone := by
    cases handing
  exact System.reachable_invariant start kept reached frame handing

theorem handed_standard {arrivals : List (UInt8 × BusFrame)} (canM : CanMsgTimestamped)
    (inRange : ∀ arrival ∈ arrivals, arrival.2.rxMsg.identifier < 2 ^ 29) {s : State}
    (reached : firmware.Reachable s) :
    List.Forall₂ (fun arrival sent => HandsOver arrival.2.rxMsg sent) arrivals
        (requestCanSend canM (echo (arrivals.map fun arrival => stamp arrival.1 arrival.2))).frames ∧
      ∀ frame, s.canTransmitPc = .transmit frame → frame.msg.flags = canMsgFlagNone := by
  refine ⟨?_, transmit_standard reached⟩
  rw [echo_frames]
  next =>
    rw [List.map_map, List.forall₂_map_right_iff, List.forall₂_same]
    exact fun arrival _ => handsOver_record arrival.1 arrival.2 canM
  next =>
    intro frame member
    obtain ⟨arrival, listed, rfl⟩ := List.mem_map.mp member
    exact stamp_unsaturated arrival.1 (inRange arrival listed)

def extendedBus : BusFrame :=
  ⟨⟨canMsgFlagExtd, 0x800, 0, Vector.replicate 8 0⟩, ⟨0, 0⟩, blankFrame⟩

-- The frame is echoed by the server in the cycle that it began.
def echoedRun : List Action :=
  startUp ++ [.canReceive (some extendedBus), .canReceive none, .canReceive none] ++ controls 4 ++
    transmits 10 ++ controls 4 ++
    List.replicate 3 (.mqttClient (some (echo [stamp 0 extendedBus])) blankFrame) ++
    controls 3 ++ List.replicate 2 (.canTransmit true)

theorem echoed_standard : (requestCanSend blankFrame (echo [stamp 0 extendedBus])).frames ≠ [] ∧
    ∀ frame, (after echoedRun).canTransmitPc = .transmit frame →
      frame.msg.flags = canMsgFlagNone := by
  have inRange : ∀ arrival ∈ [((0 : UInt8), extendedBus)],
      arrival.2.rxMsg.identifier < 2 ^ 29 := by
    intro arrival listed
    obtain rfl := List.mem_singleton.mp listed
    decide
  have reached : firmware.Reachable (after echoedRun) := ⟨echoedRun, rfl⟩
  obtain ⟨listed, flags⟩ := handed_standard blankFrame inRange reached
  refine ⟨fun none => ?_, flags⟩
  rw [List.map_singleton, none] at listed
  cases listed

theorem extended_lost : firmware.Reachable (after echoedRun) ∧
    ∃ frame, (after echoedRun).canTransmitPc = .transmit frame ∧
      frame.msg.identifier = 0x800 ∧ hasFlag canMsgFlagExtd extendedBus.rxMsg = true ∧
      hasFlag canMsgFlagExtd frame.msg = false :=
  ⟨⟨echoedRun, rfl⟩, _, rfl, rfl, rfl, rfl⟩

end CanMaster
