import CanMaster.Control.Forecast

set_option autoImplicit false

namespace CanMaster

open Transition

/-- The cycle in which a request was built, and whether its publish returned a message id. -/
structure EndTag where
  built : Nat
  delivered : Bool
  deriving DecidableEq

structure Publishing where
  latest : EndTag
  line : Line EndTag

-- Each `EV_NET_TRANSMIT_END` is tagged with the request that it is posted for.
def notePublishing (publishing : Publishing) (s : State) (a : Action) : Publishing where
  latest :=
    match a, s.mqttTransmitPc with
    | .mqttTransmit _ _, .drain _ 0 => { publishing.latest with built := publishing.line.cycle }
    | .mqttTransmit _ attempt, .publish _ =>
        { publishing.latest with delivered := decide (0 ≤ espMqttClientPublish attempt) }
    | _, _ => publishing.latest
  line := noteLine .netTransmitEnd publishing.latest publishing.line s a

def publishingHistory : System (State × Publishing) Action :=
  firmware.observed ⟨⟨0, false⟩, ⟨0, [], []⟩⟩ notePublishing

/-- `control_task` is about to receive the `EV_NET_TRANSMIT_END` on which it enters
WAIT_RESPONSE. -/
structure EntersWait (s : State) : Prop where
  idle : s.pending = []
  head : s.controlEvents.items.head? = some .netTransmitEnd
  sends : s.cs = .sendRequest

def EndTag.OutIn (tag : EndTag) (cycle : Nat) : Prop := tag.delivered = true ∧ tag.built = cycle

-- The event was posted where the events before it do not let it be received in SEND_REQUEST,
-- or for a request of the cycle in which they let it be received.
def EndTag.PostedFor (tag : EndTag) (outlook : Phase) : Prop :=
  outlook.cs = .sendRequest → tag.OutIn outlook.cycle

theorem publishing_foretold {s : State} {publishing : Publishing}
    (reached : publishingHistory.Reachable (s, publishing)) :
    Handling s.cs s.pending ∧ Foretold .netTransmitEnd s publishing.line := by
  apply System.observed_invariant ⟨.restart, rfl⟩ _ reached
  intro s a t publishing stepped held
  have listed := step_iff.mp stepped
  exact ⟨handling_step listed held.1, foretold_step _ (by decide) listed held.1 held.2⟩

theorem enters_out_iff {s : State} {publishing : Publishing}
    (reached : publishingHistory.Reachable (s, publishing)) (enters : EntersWait s) :
    ∃ tag outlook later, publishing.line.waiting = (tag, outlook) :: later ∧
      (tag.OutIn publishing.line.cycle ↔ tag.PostedFor outlook) := by
  obtain ⟨tag, later, waiting⟩ :=
    foretold_head (publishing_foretold reached).2 enters.idle enters.head
  refine ⟨tag, _, later, waiting, ?_⟩
  simp [EndTag.PostedFor, enters.sends]

def EntersOut (p : State × Publishing) : Prop :=
  EntersWait p.1 → ∃ tag outlook later, p.2.line.waiting = (tag, outlook) :: later ∧
    tag.OutIn p.2.line.cycle

theorem enters_out_always {actions : List Action}
    (postedFor : publishingHistory.Along
      (fun p a => .netTransmitEnd ∈ posted p.1 a →
        p.2.latest.PostedFor (p.2.line.outlook p.1)) publishingHistory.init actions) :
    publishingHistory.Always EntersOut publishingHistory.init actions := by
  have start : Promised .netTransmitEnd EndTag.PostedFor publishingHistory.init.1
      publishingHistory.init.2.line :=
    ⟨.restart, rfl, fun _ member => absurd member List.not_mem_nil⟩
  have sound (p : State × Publishing)
      (promised : Promised .netTransmitEnd EndTag.PostedFor p.1 p.2.line) : EntersOut p := by
    intro enters
    obtain ⟨tag, later, waiting, postedFor⟩ := promised_head promised enters.idle enters.head
    exact ⟨tag, _, later, waiting, postedFor enters.sends⟩
  apply System.always_of_along _ sound start postedFor
  intro p a q stepped meets promised
  obtain ⟨inner, noted⟩ := System.observed_step.mp stepped
  rw [← noted]
  exact promised_step (by decide) (step_iff.mp inner) meets promised

def publishedRun : List Action := startUp ++ arrive ++ controls 4 ++ transmits 9 ++ controls 1

theorem published_out : ∃ publishing, publishingHistory.Reachable (after publishedRun, publishing) ∧
    ∃ tag outlook later, publishing.line.waiting = (tag, outlook) :: later ∧
      tag.OutIn publishing.line.cycle := by
  have reached : publishingHistory.Reachable (after publishedRun,
      ⟨⟨1, true⟩, ⟨1, [], [(⟨1, true⟩, ⟨.sendRequest, 1, []⟩)]⟩⟩) := ⟨publishedRun, rfl⟩
  obtain ⟨tag, outlook, later, waiting, out⟩ := enters_out_iff reached ⟨rfl, rfl, rfl⟩
  cases waiting
  exact ⟨_, reached, _, _, _, rfl, out.mpr fun _ => ⟨rfl, rfl⟩⟩

-- The publish fails while the client is not connected, and its end is posted all the same.
def unpublishedRun : List Action :=
  startUp ++ arrive ++ controls 4 ++ transmits 7 ++ [.mqttTransmit ⟨0, 0⟩ ⟨false, true, 0, 0⟩] ++
    transmits 1 ++ controls 1

theorem failed_enters : ∃ publishing tag outlook later,
    publishingHistory.Reachable (after unpublishedRun, publishing) ∧
      EntersWait (after unpublishedRun) ∧
      publishing.line.waiting = (tag, outlook) :: later ∧
      ¬ tag.OutIn publishing.line.cycle := by
  refine ⟨⟨⟨1, false⟩, ⟨1, [], [(⟨1, false⟩, ⟨.sendRequest, 1, []⟩)]⟩⟩, ⟨1, false⟩, _, _,
    ⟨unpublishedRun, rfl⟩, ⟨rfl, rfl, rfl⟩, rfl, fun out => ?_⟩
  cases out.1

end CanMaster
