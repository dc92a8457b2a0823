import CanMaster.Shared.Json
import CanMaster.Firmware.Frame

set_option autoImplicit false

namespace CanMaster

-- The format `%ud` is a decimal number and a letter.
def uintText (value : UInt32) : String := toString value.toNat ++ "d"

/-- A master request under construction: the fields read when it was opened and the frames
drained into its commands so far. -/
structure MasterRequest where
  cntTransaction : UInt16
  starttime : UInt32
  dataamount : Nat
  commands : List CanMsgTimestamped
  deriving DecidableEq

def requestFrames (request : Option MasterRequest) : List CanMsgTimestamped :=
  request.elim [] MasterRequest.commands

def transactionJson (request : MasterRequest) : Json :=
  .object [
    ("id", .number request.cntTransaction.toNat),
    ("starttime", .string (uintText request.starttime)),
    ("waitresponce", .number 1000),
    ("dataamount", .number request.dataamount)]

def canDataJson (msg : CanMessage) : Json :=
  .array ((List.range msg.dataLengthCode.toNat).map fun j =>
    .number (msg.data[j]?.getD 0).toNat)

def commandJson (frame : CanMsgTimestamped) : Json :=
  .object [
    ("id", .number frame.id.toNat),
    ("type", .string "canpackage"),
    ("timestamp", .string (uintText frame.timestamp)),
    ("address", .number frame.msg.identifier.toNat),
    ("datalength", .number frame.msg.dataLengthCode.toNat),
    ("can_data", canDataJson frame.msg),
    ("waitforanswer", .bool false),
    ("timeout", .number 0)]

-- A request opened on an empty queue is the empty object.
def masterRequestJson : Option MasterRequest → Json
  | none => .object []
  | some request =>
      .object [
        ("transaction", transactionJson request),
        ("commands", .array (request.commands.map commandJson))]

-- The copy loop writes the integer view of each array item, narrowed to a byte.
def copyNumbers (items : List Json) (data : Vector UInt8 8) : Vector UInt8 8 :=
  items.zipIdx.foldl (fun data item => data.setIfInBounds item.2 (UInt8.ofInt item.1.valueint)) data

-- A field of a missing item is read through a null pointer, which is `none` here.
def decodeCommand (canM : CanMsgTimestamped) (command : Json) : Option CanMsgTimestamped := do
  let _ ← command.getObjectItem "type"
  let id ← command.getObjectItem "id"
  let address ← command.getObjectItem "address"
  let datalength ← command.getObjectItem "datalength"
  let canData := command.getObjectItem "can_data"
  let data :=
    if Json.isArray canData = Json.cJSONTrue then
      copyNumbers (canData.elim [] Json.children) canM.msg.data
    else canM.msg.data
  return {
    canM with
    id := UInt32.ofInt id.valueint
    msg :=
      { canM.msg with
        identifier := UInt32.ofInt address.valueint
        dataLengthCode := UInt8.ofInt datalength.valueint
        data := data } }

/-- The frames sent to `txCanQueue`, and whether the function reached its end. -/
structure Transmission where
  frames : List CanMsgTimestamped
  finished : Bool
  deriving DecidableEq

-- The local frame keeps what the previous command left in it.
def sendCommands : CanMsgTimestamped → List Json → Transmission
  | _, [] => ⟨[], true⟩
  | canM, command :: rest =>
      match decodeCommand canM command with
      | none => ⟨[], false⟩
      | some sent =>
          let later := sendCommands sent rest
          ⟨sent :: later.frames, later.finished⟩

def requestCanSend (canM : CanMsgTimestamped) (jdata : Json) : Transmission :=
  let commands := jdata.getObjectItem "commands"
  if Json.isArray commands = 1 then
    sendCommands canM (commands.elim [] Json.children)
  else ⟨[], true⟩

end CanMaster
