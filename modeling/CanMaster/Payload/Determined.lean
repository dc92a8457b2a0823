import CanMaster.Payload.Malformed

set_option autoImplicit false

namespace CanMaster

def isNumber : Option Json → Prop
  | some (.number _) => True
  | _ => False

def isString : Option Json → Prop
  | some (.string _) => True
  | _ => False

structure ProperCommand (command : Json) : Prop where
  type : isString (command.getObjectItem "type")
  id : isNumber (command.getObjectItem "id")
  address : isNumber (command.getObjectItem "address")
  datalength : isNumber (command.getObjectItem "datalength")
  canData : ∀ item, command.getObjectItem "can_data" = some item →
    ∃ items, item = .array items ∧ ∀ number ∈ items, isNumber (some number)

def canDataItems (command : Json) : List Json :=
  (command.getObjectItem "can_data").elim [] Json.children

-- Each byte that goes on the bus is the narrowed integer view of an item of `can_data`.
def Supplied (command : Json) (frame : CanMsgTimestamped) : Prop :=
  ∀ i (_ : i < 8), i < frame.msg.dataLengthCode.toNat →
    ∃ item ∈ canDataItems command, frame.msg.data[i] = UInt8.ofInt item.valueint

structure ValidFrame (frame : CanMsgTimestamped) : Prop where
  dataLengthCode : frame.msg.dataLengthCode ≤ 8
  identifier : frame.msg.identifier < 2 ^ 29

/-- The frames of two calls on one response, whose locals hold different contents: they are
valid, they are the same, and their bytes are those of the commands. -/
structure Determined (jdata : Json) (canM canM' : CanMsgTimestamped) : Prop where
  valid : ∀ frame ∈ (requestCanSend canM jdata).frames, ValidFrame frame
  same : List.Forall₂ SameFrame (requestCanSend canM jdata).frames
    (requestCanSend canM' jdata).frames
  supplied : List.Forall₂ Supplied (responseCommands jdata) (requestCanSend canM jdata).frames

-- The command asks for no bytes, and its address is an identifier of the bus, each as it is
-- narrowed.
def Dataless (command : Json) : Prop :=
  ∀ address datalength, command.getObjectItem "address" = some address →
    command.getObjectItem "datalength" = some datalength →
      UInt8.ofInt datalength.valueint = 0 ∧ UInt32.ofInt address.valueint < 2 ^ 29

theorem ProperCommand.wellFormed {command : Json} (proper : ProperCommand command) :
    WellFormed command := by
  simp only [WellFormed, List.forall_mem_cons, List.not_mem_nil, false_implies, implies_true,
    and_true]
  refine ⟨fun missing => ?_, fun missing => ?_, fun missing => ?_, fun missing => ?_⟩
  next => simpa [missing, isString] using proper.type
  next => simpa [missing, isNumber] using proper.id
  next => simpa [missing, isNumber] using proper.address
  next => simpa [missing, isNumber] using proper.datalength

theorem sentRecords_forall₂ {commands : List Json} (complete : Complete commands) :
    List.Forall₂ (fun command record => commandRecord command = some record) commands
      (sentRecords commands) := by
  induction commands with
  | nil => exact .nil
  | cons command rest ih =>
    obtain ⟨first, later⟩ := List.forall_mem_cons.mp complete
    obtain ⟨record, found⟩ := Option.ne_none_iff_exists'.mp first
    simp only [sentRecords, found]
    exact .cons found (ih later)

theorem dataless_record {command : Json} {record : CommandRecord}
    (found : commandRecord command = some record) :
    Dataless command ↔ record.dataLengthCode = 0 ∧ record.identifier < 2 ^ 29 := by
  simp only [commandRecord, Option.bind_eq_bind, Option.bind_eq_some_iff, Option.pure_def,
    Option.some.injEq] at found
  obtain ⟨type, _, id, _, address, atAddress, datalength, atLength, rfl⟩ := found
  simp [Dataless, atAddress, atLength]

theorem dataless_iff {commands : List Json} (complete : Complete commands) :
    (∀ command ∈ commands, Dataless command) ↔
      ∀ record ∈ sentRecords commands,
        record.dataLengthCode = 0 ∧ record.identifier < 2 ^ 29 := by
  induction commands with
  | nil => simp [sentRecords]
  | cons command rest ih =>
    obtain ⟨first, later⟩ := List.forall_mem_cons.mp complete
    obtain ⟨record, found⟩ := Option.ne_none_iff_exists'.mp first
    simp only [sentRecords, found, List.forall_mem_cons, dataless_record found, ih later]

theorem sameFrame_record (canM canM' : CanMsgTimestamped) (record : CommandRecord) :
    SameFrame (record.frame canM) (record.frame canM') ↔
      ∀ i (_ : i < 8), i < record.dataLengthCode.toNat → canM.msg.data[i] = canM'.msg.data[i] :=
  ⟨fun same => same.data, fun data => ⟨rfl, rfl, rfl, data⟩⟩

theorem determined_of_dataless {jdata : Json} (complete : Complete (responseCommands jdata))
    (dataless : ∀ record ∈ sentRecords (responseCommands jdata),
      record.dataLengthCode = 0 ∧ record.identifier < 2 ^ 29)
    (canM canM' : CanMsgTimestamped) : Determined jdata canM canM' := by
  have empty (record : CommandRecord) (member : record ∈ sentRecords (responseCommands jdata))
      (i : Nat) : ¬ i < record.dataLengthCode.toNat := by
    simp [(dataless record member).1]
  constructor
  next =>
    rw [requestCanSend_frames]
    intro frame member
    obtain ⟨record, listed, rfl⟩ := List.mem_map.mp member
    have bare := dataless record listed
    exact ⟨by simp [CommandRecord.frame, bare.1], bare.2⟩
  next =>
    rw [requestCanSend_frames, requestCanSend_frames, List.forall₂_map_left_iff,
      List.forall₂_map_right_iff, List.forall₂_same]
    intro record member
    exact (sameFrame_record canM canM' record).mpr
      fun i _ inside => absurd inside (empty record member i)
  next =>
    rw [requestCanSend_frames, List.forall₂_map_right_iff]
    have listed := List.forall₂_iff_zip.mp (sentRecords_forall₂ complete)
    refine List.forall₂_iff_zip.mpr ⟨listed.1, fun {command record} pair => ?_⟩
    have member := (List.of_mem_zip pair).2
    exact fun i _ inside => absurd inside (empty record member i)

-- Two locals that differ in their first byte tell a command that asks for data.
theorem dataless_of_determined {jdata : Json}
    (determined : Determined jdata blankFrame oneByteFrame) :
    ∀ record ∈ sentRecords (responseCommands jdata),
      record.dataLengthCode = 0 ∧ record.identifier < 2 ^ 29 := by
  intro record member
  obtain ⟨valid, same, _⟩ := determined
  rw [requestCanSend_frames] at valid same
  rw [requestCanSend_frames, List.forall₂_map_left_iff, List.forall₂_map_right_iff,
    List.forall₂_same] at same
  refine ⟨?_, (valid _ (List.mem_map_of_mem member)).identifier⟩
  by_contra carries
  have first : 0 < record.dataLengthCode.toNat := by
    have positive := mt UInt8.toNat_inj.mp carries
    simp only [UInt8.toNat_zero] at positive
    omega
  have bytes := (sameFrame_record _ _ record).mp (same record member) 0 (by decide) first
  exact absurd bytes (by decide)

theorem determined_iff {jdata : Json}
    (proper : ∀ command ∈ responseCommands jdata, ProperCommand command) :
    (∀ canM canM', Determined jdata canM canM') ↔
      ∀ command ∈ responseCommands jdata, Dataless command := by
  have complete : Complete (responseCommands jdata) :=
    complete_iff.mpr fun command member => (proper command member).wellFormed
  rw [dataless_iff complete]
  constructor
  next =>
    intro determined
    exact dataless_of_determined (determined blankFrame oneByteFrame)
  next =>
    intro dataless
    exact determined_of_dataless complete dataless

def canCommand (address datalength : ℚ) (bytes : List Json) : Json :=
  .object [("id", .number 0), ("type", .string "canpackage"), ("address", .number address),
    ("datalength", .number datalength), ("can_data", .array bytes)]

def responseOf (commands : List Json) : Json := .object [("commands", .array commands)]

theorem responseCommands_responseOf (commands : List Json) :
    responseCommands (responseOf commands) = commands := by
  simp [responseCommands, responseOf, Json.getObjectItem, Json.sameKey]

theorem command_proper (address datalength : ℚ) {bytes : List Json}
    (numbers : ∀ number ∈ bytes, isNumber (some number)) :
    ProperCommand (canCommand address datalength bytes) := by
  constructor <;> simp [canCommand, Json.getObjectItem, Json.sameKey, isNumber, isString]
  exact numbers

theorem emptyCommand_determined :
    Determined (responseOf [canCommand 2014 0 []]) blankFrame oneByteFrame := by
  have proper : ProperCommand (canCommand 2014 0 []) := command_proper 2014 0 (by simp)
  have dataless : Dataless (canCommand 2014 0 []) := by
    rintro _ _ ⟨⟩ ⟨⟩
    decide +kernel
  refine (determined_iff ?_).mpr ?_ _ _
  next => simpa [responseCommands_responseOf] using proper
  next => simpa [responseCommands_responseOf] using dataless

-- The command supplies the byte 7, and what is sent is what the local holds.
theorem byte_leaked :
    ProperCommand (canCommand 2014 1 [.number 7]) ∧
      (requestCanSend blankFrame (responseOf [canCommand 2014 1 [.number 7]])).frames.map
        (fun sent => sent.msg.data[0]) = [0] ∧
      (requestCanSend oneByteFrame (responseOf [canCommand 2014 1 [.number 7]])).frames.map
        (fun sent => sent.msg.data[0]) = [1] ∧
      ¬ Determined (responseOf [canCommand 2014 1 [.number 7]]) blankFrame oneByteFrame := by
  have records : sentRecords [canCommand 2014 1 [.number 7]] = [⟨0, 2014, 1⟩] := by decide +kernel
  have frames (canM : CanMsgTimestamped) :
      (requestCanSend canM (responseOf [canCommand 2014 1 [.number 7]])).frames =
        [CommandRecord.frame canM ⟨0, 2014, 1⟩] := by
    rw [requestCanSend_frames, responseCommands_responseOf, records]
    rfl
  refine ⟨command_proper 2014 1 (by simp [isNumber]), ?_, ?_, fun determined => ?_⟩
  next =>
    rw [frames]
    rfl
  next =>
    rw [frames]
    rfl
  next =>
    have same := determined.same
    rw [frames, frames] at same
    cases same with
    | cons first rest => exact absurd (first.data 0 (by decide) (by decide)) (by decide)

end CanMaster
