import CanMaster.Payload.RoundTrip

set_option autoImplicit false

namespace CanMaster

-- An object with every item whose fields are read, of whatever type.
def WellFormed (command : Json) : Prop :=
  ∀ key ∈ ["type", "id", "address", "datalength"], command.getObjectItem key ≠ none

-- A well-formed command is enqueued once; of another nothing is asked.
def EnqueuedAs (command : Json) (piece : List CanMsgTimestamped) : Prop :=
  ∀ record, commandRecord command = some record → ∃ frame, piece = [frame] ∧
    frameRecord frame = record

/-- The call runs to its end, and what it enqueues is put together from the commands in
order. -/
structure RunsThrough (canM : CanMsgTimestamped) (jdata : Json) : Prop where
  finished : (requestCanSend canM jdata).finished = true
  enqueued : ∃ pieces, List.Forall₂ EnqueuedAs (responseCommands jdata) pieces ∧
    pieces.flatten = (requestCanSend canM jdata).frames

theorem wellFormed_iff (command : Json) : WellFormed command ↔ commandRecord command ≠ none := by
  unfold WellFormed commandRecord
  simp only [List.forall_mem_cons, List.not_mem_nil, false_implies, implies_true, and_true]
  cases command.getObjectItem "type" <;> cases command.getObjectItem "id" <;>
    cases command.getObjectItem "address" <;> cases command.getObjectItem "datalength" <;> simp

theorem complete_iff {commands : List Json} :
    Complete commands ↔ ∀ command ∈ commands, WellFormed command := by
  simp only [Complete, wellFormed_iff]

theorem sentRecords_pieces (canM : CanMsgTimestamped) {commands : List Json}
    (complete : Complete commands) :
    ∃ pieces, List.Forall₂ EnqueuedAs commands pieces ∧
      pieces.flatten = (sentRecords commands).map (CommandRecord.frame canM) := by
  induction commands with
  | nil => exact ⟨[], .nil, rfl⟩
  | cons command rest ih =>
    obtain ⟨first, later⟩ := List.forall_mem_cons.mp complete
    obtain ⟨record, found⟩ := Option.ne_none_iff_exists'.mp first
    obtain ⟨pieces, enqueued, flat⟩ := ih later
    have once : EnqueuedAs command [record.frame canM] := by
      intro other same
      obtain rfl : record = other := by simpa [found] using same
      exact ⟨_, rfl, rfl⟩
    refine ⟨[record.frame canM] :: pieces, .cons once enqueued, ?_⟩
    simp only [sentRecords, found, List.flatten_cons, flat, List.map_cons, List.singleton_append]

theorem runsThrough_iff (canM : CanMsgTimestamped) (jdata : Json) :
    RunsThrough canM jdata ↔ ∀ command ∈ responseCommands jdata, WellFormed command := by
  rw [← complete_iff]
  constructor
  next =>
    intro runs
    exact (requestCanSend_finished canM jdata).mp runs.finished
  next =>
    intro complete
    refine ⟨(requestCanSend_finished canM jdata).mpr complete, ?_⟩
    obtain ⟨pieces, enqueued, flat⟩ := sentRecords_pieces canM complete
    refine ⟨pieces, enqueued, ?_⟩
    rw [flat, requestCanSend_frames]

def goodCommand : Json :=
  .object [("id", .number 1), ("type", .string "canpackage"), ("address", .number 2014),
    ("datalength", .number 0)]

def missingAddress : Json :=
  .object [("commands", .array [
    .object [("id", .number 0), ("type", .string "canpackage"), ("datalength", .number 0)],
    goodCommand])]

theorem missing_faults : goodCommand ∈ responseCommands missingAddress ∧
    WellFormed goodCommand ∧ requestCanSend blankFrame missingAddress = ⟨[], false⟩ ∧
    ¬ RunsThrough blankFrame missingAddress := by
  have faults : requestCanSend blankFrame missingAddress = ⟨[], false⟩ := rfl
  refine ⟨by simp [responseCommands, missingAddress, Json.getObjectItem, Json.sameKey], ?_, faults,
    fun runs => ?_⟩
  next =>
    rw [wellFormed_iff]
    decide +kernel
  next =>
    have finished := runs.finished
    simp [faults] at finished

end CanMaster
