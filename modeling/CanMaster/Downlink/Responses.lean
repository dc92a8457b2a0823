import CanMaster.Control.Forecast

set_option autoImplicit false

namespace CanMaster

open Transition

/-- The message that the MQTT callback works on: whether it carries a commands array, and the
published request that it answers. -/
structure Message where
  carries : Bool
  answers : Option Nat
  deriving DecidableEq

/-- What an `EV_NET_RECEIVED` was posted for: the message, the cycle in which the request that
it answers was published, and whether the event is the first one for that request and was
posted in the same cycle. -/
structure ResponseTag where
  carries : Bool
  published : Option Nat
  prompt : Bool
  deriving DecidableEq

-- `published` lists the cycle of each request whose publish returned a message id, and `heard`
-- the requests for whose answers an `EV_NET_RECEIVED` has been posted.
structure Responses where
  published : List Nat
  message : Message
  heard : List Nat
  line : Line ResponseTag

def Responses.tag (responses : Responses) : ResponseTag where
  carries := responses.message.carries
  published := responses.message.answers.bind (responses.published[·]?)
  prompt :=
    responses.message.answers.any fun request =>
      responses.published[request]? = some responses.line.cycle && request ∉ responses.heard

def carriesCommands (jdata : Option Json) : Bool :=
  jdata.any fun document => Json.isArray (document.getObjectItem "commands") = 1

-- A message answers only a request that has been published before it is delivered.
def noteResponses (responses : Responses) (s : State) (a : Action) (answers : Option Nat) :
    Responses where
  published :=
    match a, s.mqttTransmitPc with
    | .mqttTransmit _ attempt, .publish _ =>
        if 0 ≤ espMqttClientPublish attempt then responses.published ++ [responses.line.cycle]
        else responses.published
    | _, _ => responses.published
  message :=
    match a, s.mqttPending with
    | .mqttClient jdata _, [] =>
        ⟨carriesCommands jdata, answers.filter (· < responses.published.length)⟩
    | _, _ => responses.message
  heard :=
    match a, s.mqttPending with
    | .mqttClient _ _, .sendNetReceived :: _ =>
        responses.message.answers.toList ++ responses.heard
    | _, _ => responses.heard
  line := noteLine .netReceived responses.tag responses.line s a

def responsesHistory : System (State × Responses) (Action × Option Nat) :=
  firmware.labelled ⟨[], ⟨false, none⟩, [], ⟨0, [], []⟩⟩ noteResponses

theorem responses_foretold {s : State} {responses : Responses}
    (reached : responsesHistory.Reachable (s, responses)) :
    Handling s.cs s.pending ∧ Foretold .netReceived s responses.line := by
  apply System.labelled_invariant ⟨.restart, rfl⟩ _ reached
  intro s a t responses answers stepped held
  have listed := step_iff.mp stepped
  exact ⟨handling_step listed held.1, foretold_step _ (by decide) listed held.1 held.2⟩

theorem responses_always {meets : ResponseTag → Phase → Prop} {P : State × Responses → Prop}
    (sound : ∀ p, Promised .netReceived meets p.1 p.2.line → P p)
    {actions : List (Action × Option Nat)}
    (posts : responsesHistory.Along
      (fun p a => .netReceived ∈ posted p.1 a.1 → meets p.2.tag (p.2.line.outlook p.1))
      responsesHistory.init actions) :
    responsesHistory.Always P responsesHistory.init actions := by
  have start : Promised .netReceived meets responsesHistory.init.1 responsesHistory.init.2.line :=
    ⟨.restart, rfl, fun _ member => absurd member List.not_mem_nil⟩
  apply System.always_of_along _ sound start posts
  intro p a q stepped meets promised
  obtain ⟨inner, noted⟩ := System.labelled_step.mp stepped
  rw [← noted]
  exact promised_step (by decide) (step_iff.mp inner) meets promised

-- No step ever counts a transaction, so the id tells no two requests apart.
theorem cntTransaction_reachable {s : State} (reached : firmware.Reachable s) :
    s.cntTransaction = 0 := by
  have kept (s : State) (a : Action) (t : State) (stepped : firmware.step s a = some t)
      (zero : s.cntTransaction = 0) : t.cntTransaction = 0 := by
    cases step_iff.mp stepped <;> exact zero
  have start : firmware.init.cntTransaction = 0 := rfl
  exact System.reachable_invariant start kept reached

/-- `control_task` is about to receive the event on which it leaves WAIT_RESPONSE for
RESPONSE_TRANSMITTED. -/
structure Answered (s : State) : Prop where
  idle : s.pending = []
  waits : s.cs = .waitResponse
  head : ∃ event, s.controlEvents.items.head? = some event ∧
    controlNext s.cs event = .responseTransmitted

theorem controlNext_responseTransmitted {event : ControlEvent}
    (goes : controlNext .waitResponse event = .responseTransmitted) : event = .netReceived := by
  revert goes
  cases event <;> decide

def ResponseTag.Completes (tag : ResponseTag) (cycle : Nat) : Prop :=
  tag.carries = true ∧ tag.published = some cycle

def ResponseTag.PostedInTime (tag : ResponseTag) (outlook : Phase) : Prop :=
  outlook.cs = .waitResponse → tag.Completes outlook.cycle

theorem completes_iff {s : State} {responses : Responses}
    (reached : responsesHistory.Reachable (s, responses)) (answered : Answered s) :
    ∃ tag outlook later, responses.line.waiting = (tag, outlook) :: later ∧
      (tag.Completes responses.line.cycle ↔ tag.PostedInTime outlook) := by
  obtain ⟨event, head, goes⟩ := answered.head
  rw [answered.waits] at goes
  obtain rfl := controlNext_responseTransmitted goes
  obtain ⟨tag, later, waiting⟩ := foretold_head (responses_foretold reached).2 answered.idle head
  refine ⟨tag, _, later, waiting, ?_⟩
  simp [ResponseTag.PostedInTime, answered.waits]

def CompletedByAnswer (p : State × Responses) : Prop :=
  Answered p.1 → ∃ tag outlook later, p.2.line.waiting = (tag, outlook) :: later ∧
    tag.Completes p.2.line.cycle

theorem completed_always {actions : List (Action × Option Nat)}
    (inTime : responsesHistory.Along
      (fun p a => .netReceived ∈ posted p.1 a.1 → p.2.tag.PostedInTime (p.2.line.outlook p.1))
      responsesHistory.init actions) :
    responsesHistory.Always CompletedByAnswer responsesHistory.init actions := by
  refine responses_always ?_ inTime
  intro p promised answered
  obtain ⟨event, head, goes⟩ := answered.head
  rw [answered.waits] at goes
  obtain rfl := controlNext_responseTransmitted goes
  obtain ⟨tag, later, waiting, inTime⟩ := promised_head promised answered.idle head
  exact ⟨tag, _, later, waiting, inTime answered.waits⟩

def unlabelled (actions : List Action) : List (Action × Option Nat) := actions.map (·, none)

def noCommands : Json := .object [("commands", .array [])]

def firstAnswer : List (Action × Option Nat) :=
  List.replicate 2 (.mqttClient (some noCommands) blankFrame, some 0)

def waitRun : List Action := startUp ++ arrive ++ controls 4 ++ transmits 10 ++ controls 4

def answeredState : State := after (waitRun ++ firstAnswer.map Prod.fst)

theorem answer_completes : ∃ responses, responsesHistory.Reachable (answeredState, responses) ∧
    ∃ tag outlook later, responses.line.waiting = (tag, outlook) :: later ∧
      tag.Completes responses.line.cycle := by
  have reached : responsesHistory.Reachable (answeredState,
      ⟨[1], ⟨true, some 0⟩, [0], ⟨1, [], [(⟨true, some 1, true⟩, ⟨.waitResponse, 1, []⟩)]⟩⟩) :=
    ⟨unlabelled waitRun ++ firstAnswer, rfl⟩
  have answered : Answered answeredState := ⟨rfl, rfl, .netReceived, rfl, rfl⟩
  obtain ⟨tag, outlook, later, waiting, completes⟩ := completes_iff reached answered
  cases waiting
  exact ⟨_, reached, _, _, _, rfl, completes.mpr fun _ => ⟨rfl, rfl⟩⟩

-- The answer to the request of a cycle that has timed out arrives in the next one.
def secondWaitRun : List Action :=
  waitRun ++ timers 5 ++ controls 6 ++ arrive ++ controls 4 ++ transmits 10 ++ controls 4

def lateState : State := after (secondWaitRun ++ firstAnswer.map Prod.fst)

theorem lateAnswer_completes : ∃ responses tag outlook later,
    responsesHistory.Reachable (lateState, responses) ∧ Answered lateState ∧
      responses.line.waiting = (tag, outlook) :: later ∧
      tag.published = some 1 ∧ ¬ tag.Completes responses.line.cycle := by
  refine ⟨⟨[1, 2], ⟨true, some 0⟩, [0],
    ⟨2, [1], [(⟨true, some 1, false⟩, ⟨.waitResponse, 2, [1]⟩)]⟩⟩, ⟨true, some 1, false⟩, _, _,
    ⟨unlabelled secondWaitRun ++ firstAnswer, rfl⟩, ⟨rfl, rfl, .netReceived, rfl, rfl⟩, rfl, rfl,
    fun completes => ?_⟩
  exact absurd completes.2 (by decide)

structure Hears (s : State) : Prop where
  idle : s.pending = []
  head : s.controlEvents.items.head? = some .netReceived

-- Unless the cycle of its request has timed out, the event is received in WAIT_RESPONSE.
def ResponseTag.Heeded (tag : ResponseTag) (phase : Phase) : Prop :=
  ∀ cycle, tag.prompt = true → tag.published = some cycle → cycle ∉ phase.timedOut →
    phase.cs = .waitResponse

theorem heeded_iff {s : State} {responses : Responses}
    (reached : responsesHistory.Reachable (s, responses)) (hears : Hears s) :
    ∃ tag outlook later, responses.line.waiting = (tag, outlook) :: later ∧
      (tag.Heeded ⟨s.cs, responses.line.cycle, responses.line.timedOut⟩ ↔ tag.Heeded outlook) := by
  obtain ⟨tag, later, waiting⟩ :=
    foretold_head (responses_foretold reached).2 hears.idle hears.head
  exact ⟨tag, _, later, waiting, Iff.rfl⟩

def HearsPrompt (p : State × Responses) : Prop :=
  Hears p.1 → ∃ tag outlook later, p.2.line.waiting = (tag, outlook) :: later ∧
    tag.Heeded ⟨p.1.cs, p.2.line.cycle, p.2.line.timedOut⟩

theorem heeded_always {actions : List (Action × Option Nat)}
    (heeded : responsesHistory.Along
      (fun p a => .netReceived ∈ posted p.1 a.1 → p.2.tag.Heeded (p.2.line.outlook p.1))
      responsesHistory.init actions) :
    responsesHistory.Always HearsPrompt responsesHistory.init actions := by
  refine responses_always ?_ heeded
  intro p promised hears
  obtain ⟨tag, later, waiting, heeded⟩ := promised_head promised hears.idle hears.head
  exact ⟨tag, _, later, waiting, heeded⟩

theorem answer_heeded : ∃ responses tag, responsesHistory.Reachable (answeredState, responses) ∧
    tag ∈ responses.line.waiting.map Prod.fst ∧ tag.prompt = true ∧
      tag.Heeded ⟨.waitResponse, 1, []⟩ := by
  have reached : responsesHistory.Reachable (answeredState,
      ⟨[1], ⟨true, some 0⟩, [0], ⟨1, [], [(⟨true, some 1, true⟩, ⟨.waitResponse, 1, []⟩)]⟩⟩) :=
    ⟨unlabelled waitRun ++ firstAnswer, rfl⟩
  obtain ⟨tag, outlook, later, waiting, heeded⟩ := heeded_iff reached ⟨rfl, rfl⟩
  cases waiting
  exact ⟨_, _, reached, by simp, rfl, heeded.mpr fun _ _ _ _ => rfl⟩

-- The server answers before `mqtt_transmit_task` has posted the end of its transmission.
def publishRun : List Action := startUp ++ arrive ++ controls 4 ++ transmits 8

def earlyState : State := after (publishRun ++ firstAnswer.map Prod.fst ++ controls 1)

theorem earlyAnswer_ignored : ∃ responses tag outlook later,
    responsesHistory.Reachable (earlyState, responses) ∧ Hears earlyState ∧
      responses.line.waiting = (tag, outlook) :: later ∧ tag.prompt = true ∧
      controlHandler earlyState.cs .netReceived = [] ∧
      ¬ tag.Heeded ⟨earlyState.cs, responses.line.cycle, responses.line.timedOut⟩ := by
  refine ⟨⟨[1], ⟨true, some 0⟩, [0],
    ⟨1, [], [(⟨true, some 1, true⟩, ⟨.sendRequest, 1, []⟩)]⟩⟩, ⟨true, some 1, true⟩, _, _,
    ⟨unlabelled publishRun ++ firstAnswer ++ unlabelled (controls 1), rfl⟩, ⟨rfl, rfl⟩, rfl, rfl,
    rfl, fun heeded => ?_⟩
  exact absurd (heeded 1 rfl rfl (by simp)) (by decide)

end CanMaster
