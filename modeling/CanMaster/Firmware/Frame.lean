import Mathlib.Logic.Basic

set_option autoImplicit false

namespace CanMaster

structure CanMessage where
  flags : UInt32
  identifier : UInt32
  dataLengthCode : UInt8
  data : Vector UInt8 8
  deriving DecidableEq

structure CanMsgTimestamped where
  id : UInt32
  timestamp : UInt32
  msg : CanMessage
  deriving DecidableEq

def canMsgFlagNone : UInt32 := 0

def blankFrame : CanMsgTimestamped := ⟨0, 0, ⟨canMsgFlagNone, 0, 0, Vector.replicate 8 0⟩⟩

structure Timeval where
  tvSec : Int32
  tvUsec : Int32

-- The sum is formed in 64 bits and narrowed by the return.
def getTimestamp (tv : Timeval) : Int32 :=
  Int32.ofInt (tv.tvSec.toInt * 1000 + tv.tvUsec.toInt.tdiv 1000)

-- An index past the array writes outside the frame and changes none of its bytes.
def copyData (source target : Vector UInt8 8) (count : Nat) : Vector UInt8 8 :=
  (List.range count).foldl (fun data i => data.setIfInBounds i (source[i]?.getD 0)) target

/-- What one return of `can_receive` brings: the driver's frame, the clock at that moment
and the contents that the task's uninitialised local happens to have. -/
structure BusFrame where
  rxMsg : CanMessage
  tv : Timeval
  stale : CanMsgTimestamped

def stamp (cntRxCan : UInt8) (bus : BusFrame) : CanMsgTimestamped where
  id := cntRxCan.toUInt32
  timestamp := (getTimestamp bus.tv).toUInt32
  msg :=
    { bus.stale.msg with
      identifier := bus.rxMsg.identifier
      dataLengthCode := bus.rxMsg.dataLengthCode
      data := copyData bus.rxMsg.data bus.stale.msg.data bus.rxMsg.dataLengthCode.toNat }

-- The local of `obd_wait_task` leaves its id and its timestamp unset.
def responsePending (stale : CanMsgTimestamped) : CanMsgTimestamped :=
  { stale with
    msg :=
      { flags := canMsgFlagNone
        identifier := 0x7E8
        dataLengthCode := 8
        data := #v[0x78, 0, 0, 0, 0, 0, 0, 0] } }

end CanMaster
