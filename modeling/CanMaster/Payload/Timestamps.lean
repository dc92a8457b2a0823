import Mathlib.Algebra.Ring.Int.Defs
import CanMaster.Firmware.Steps

set_option autoImplicit false

namespace CanMaster

open Transition

def readStamp (text : String) : Option Nat :=
  let digits := text.toList.dropLast
  if text.toList.getLast? = some 'd' ∧ digits ≠ [] ∧ digits.all Char.isDigit = true then
    some (Nat.ofDigitChars 10 digits 0)
  else none

def milliseconds (tv : Timeval) : Int :=
  (tv.tvSec.toInt * 1000000 + tv.tvUsec.toInt) / 1000

structure ClockReading (tv : Timeval) : Prop where
  nonneg : 0 ≤ tv.tvUsec.toInt
  small : tv.tvUsec.toInt < 1000000

def textItem (tree : Json) (key : String) : Option String :=
  match tree.getObjectItem key with
  | some (.string valuestring) => some valuestring
  | _ => none

/-- The texts are read as numbers of 32 bits whose difference is that of the readings, and are
the same for the same reading. -/
structure KeepsDifference (first second : Timeval) (text text' : String) : Prop where
  difference : ∃ d d' : Nat, readStamp text = some d ∧ readStamp text' = some d' ∧
    d < 2 ^ 32 ∧ d' < 2 ^ 32 ∧
    ((d' : Int) - d) % 2 ^ 32 = (milliseconds second - milliseconds first) % 2 ^ 32
  same : first = second → text = text'

theorem readStamp_uintText (value : UInt32) : readStamp (uintText value) = some value.toNat := by
  have text : (uintText value).toList = Nat.toDigits 10 value.toNat ++ ['d'] := by
    rw [uintText, String.toList_append, Nat.toString_eq_repr, Nat.toList_repr]
    rfl
  have decimal : (Nat.toDigits 10 value.toNat).all Char.isDigit = true :=
    List.all_eq_true.mpr fun _ => Nat.isDigit_of_mem_toDigits (by decide) (by decide)
  simp [readStamp, text, Nat.toDigits_ne_nil, decimal]

theorem ofInt_toUInt32 (value : Int) :
    ((Int32.ofInt value).toUInt32.toNat : Int) = value % 2 ^ 32 := by
  have narrowed : (Int32.ofInt value).toUInt32.toNat = (value % 2 ^ 32).toNat :=
    BitVec.toNat_ofInt value
  omega

theorem getTimestamp_toNat {tv : Timeval} (reading : ClockReading tv) :
    ((getTimestamp tv).toUInt32.toNat : Int) = milliseconds tv % 2 ^ 32 := by
  have nonneg := reading.nonneg
  rw [getTimestamp, ofInt_toUInt32, Int.tdiv_eq_ediv_of_nonneg nonneg, milliseconds]
  omega

theorem keepsDifference_texts {first second : Timeval} (one : ClockReading first)
    (other : ClockReading second) :
    KeepsDifference first second (uintText (getTimestamp first).toUInt32)
      (uintText (getTimestamp second).toUInt32) := by
  constructor
  next =>
    refine ⟨_, _, readStamp_uintText _, readStamp_uintText _, UInt32.toNat_lt _,
      UInt32.toNat_lt _, ?_⟩
    rw [getTimestamp_toNat one, getTimestamp_toNat other]
    omega
  next =>
    rintro rfl
    rfl

theorem timestamp_text (frame : CanMsgTimestamped) :
    textItem (commandJson frame) "timestamp" = some (uintText frame.timestamp) := by
  simp [textItem, commandJson, Json.getObjectItem, Json.sameKey]

theorem starttime_text (request : MasterRequest) :
    textItem (transactionJson request) "starttime" = some (uintText request.starttime) := by
  simp [textItem, transactionJson, Json.getObjectItem, Json.sameKey]

theorem timestamps_exact {s t u v : State} {bus : BusFrame} {frame : CanMsgTimestamped}
    {tv : Timeval} {attempt : PublishAttempt} {request : MasterRequest} {cntMsg : Nat}
    (recorded : ClockReading bus.tv) (started : ClockReading tv)
    (receives : s.canReceivePc = .receive)
    (received : firmware.step s (.canReceive (some bus)) = some t)
    (stamped : t.canReceivePc = .sendEvent frame)
    (opens : u.mqttTransmitPc = .openRequest)
    (stepped : firmware.step u (.mqttTransmit tv attempt) = some v)
    (opened : v.mqttTransmitPc = .drain request cntMsg) :
    ∃ text text', textItem (commandJson frame) "timestamp" = some text ∧
      textItem (transactionJson request) "starttime" = some text' ∧
      KeepsDifference bus.tv tv text text' := by
  have stampedOn : frame.timestamp = (getTimestamp bus.tv).toUInt32 := by
    cases step_iff.mp received with
    | receiveFrame _ here =>
      cases stamped
      rfl
    | _ => simp_all
  have openedOn : request.starttime = (getTimestamp tv).toUInt32 := by
    cases step_iff.mp stepped with
    | openRequest here waiting =>
      cases opened
      rfl
    | _ => simp_all
  refine ⟨_, _, timestamp_text frame, starttime_text request, ?_⟩
  rw [stampedOn, openedOn]
  exact keepsDifference_texts recorded started

-- The last millisecond before the stamp wraps, and the first one after it.
def wrapBus : BusFrame := ⟨blankFrame.msg, ⟨4294967, 295000⟩, blankFrame⟩

def wrapped : Timeval := ⟨4294967, 296500⟩

def openingRun : List Action := startUp ++ arrive ++ controls 4 ++ transmits 3

theorem wrapped_exact : ∃ text text',
    textItem (commandJson (stamp 0 wrapBus)) "timestamp" = some text ∧
      textItem (transactionJson ⟨0, 0, 1, []⟩) "starttime" = some text' ∧
      KeepsDifference wrapBus.tv wrapped text text' := by
  have recorded : ClockReading wrapBus.tv := by constructor <;> decide
  have started : ClockReading wrapped := by constructor <;> decide
  have received : firmware.step (after startUp) (.canReceive (some wrapBus)) =
      some (after (startUp ++ [.canReceive (some wrapBus)])) := rfl
  have stepped : firmware.step (after openingRun) (.mqttTransmit wrapped ⟨true, true, 1, 1⟩) =
      some (after (openingRun ++ [.mqttTransmit wrapped ⟨true, true, 1, 1⟩])) := rfl
  exact timestamps_exact recorded started rfl received rfl rfl stepped rfl

end CanMaster
