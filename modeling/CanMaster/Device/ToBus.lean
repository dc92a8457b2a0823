import CanMaster.Device.Seen
import CanMaster.Downlink.Outgoing

set_option autoImplicit false

namespace Device

open CanMaster (AppAction AppState CanMsgTimestamped Drained Explained IsPending Outgoing framesOf
  noteOutgoing ofResponses withoutFlags)
open EspMqtt Transition

variable {capacity : Nat} {setup : Setup capacity}
  {cJSONParse : List UInt8 → Option Json} {cJSONPrint : Json → String}

structure Answering where
  outgoing : Outgoing
  answers : List (CanMsgTimestamped × Fragment)

def dataOf : Event → Option Fragment
  | .data fragment => some fragment
  | _ => none

def noteSending (outgoing : Outgoing) (b : AppState) : AppAction → Outgoing
  | .task a => noteOutgoing outgoing b.tasks a
  | _ => outgoing

def noteAnswer (cJSONParse : List UInt8 → Option Json) (answering : Answering) (b : AppState)
    (stale : CanMsgTimestamped) (event : Event) : Answering :=
  match dataOf event with
  | some fragment =>
      { outgoing := noteOutgoing answering.outgoing b.tasks
          (.mqttClient (fragment.mqttEvent.parsed cJSONParse) stale)
        answers := answering.answers ++ [(stale, fragment)] }
  | none => answering

def noteAnswering (cJSONParse : List UInt8 → Option Json) (answering : Answering)
    (d : Whole capacity) : Act → Answering
  | .app a => { answering with outgoing := noteSending answering.outgoing d.app a }
  | .callback stale _ _ _ =>
      match d.told with
      | event :: _ => noteAnswer cJSONParse answering d.app stale event
      | [] => answering
  | _ => answering

def answeringHistory (cJSONParse : List UInt8 → Option Json) (cJSONPrint : Json → String)
    (setup : Setup capacity) : System (Whole capacity × Answering) Act :=
  (device cJSONParse cJSONPrint setup).observed ⟨⟨[], [], [], []⟩, []⟩ (noteAnswering cJSONParse)

def askedBy (cJSONParse : List UInt8 → Option Json) (answer : CanMsgTimestamped × Fragment) :
    List CanMsgTimestamped :=
  framesOf (CanMaster.mqttReceive cJSONParse answer.1 answer.2.mqttEvent)

theorem noteOutgoing_fault {b : AppState} {a : CanMaster.Action} (faults : CanMaster.Faults b a)
    (outgoing : Outgoing) : noteOutgoing outgoing b.tasks a = outgoing := by
  have sends : CanMaster.sends b.tasks a = true ∨ CanMaster.publishes b.tasks a = true :=
    faults.imp And.left And.left
  cases a with
  | canTransmit accepted =>
    simp only [CanMaster.sends, CanMaster.publishes, CanMaster.posted, Bool.false_eq_true,
      or_false] at sends
    rw [noteOutgoing]
    split <;> simp_all
  | obdWait stale =>
    simp only [CanMaster.sends, CanMaster.publishes, CanMaster.posted, Bool.false_eq_true,
      or_false] at sends
    rw [noteOutgoing]
    split <;> simp_all
  | mqttClient jdata stale =>
    simp only [CanMaster.sends, CanMaster.publishes, CanMaster.posted, Bool.false_eq_true,
      or_false] at sends
    rw [noteOutgoing]
    split <;> simp_all
  | _ => rfl

theorem explained_app {b c : AppState} {a : AppAction} {outgoing : Outgoing}
    (stepped : CanMaster.application.step b a = some c) (explained : Explained b.tasks outgoing) :
    Explained c.tasks (noteSending outgoing b a) := by
  cases (CanMaster.appStep_listed stepped).2 with
  | fault a ready faults =>
    rw [noteSending, noteOutgoing_fault faults]
    exact explained
  | task a t ready sound inner => exact CanMaster.explained_step inner explained
  | _ => exact explained

theorem explained_answer {b : AppState} (idle : b.tasks.mqttPending = [])
    (stale : CanMsgTimestamped) (event : Event) {answering : Answering}
    (explained : Explained b.tasks answering.outgoing) :
    Explained (mqttEventHandler cJSONParse stale b event).tasks
      (noteAnswer cJSONParse answering b stale event).outgoing := by
  cases event with
  | data fragment =>
    simp only [mqttEventHandler, CanMaster.mqttReceive_eq]
    exact CanMaster.explained_step (.deliver idle) explained
  | _ => exact explained

theorem explained_whole {d next : Whole capacity} {a : Act} {answering : Answering}
    (stepped : WholeStep cJSONParse cJSONPrint setup d a next)
    (explained : Explained d.app.tasks answering.outgoing) :
    Explained next.app.tasks (noteAnswering cJSONParse answering d a).outgoing := by
  cases stepped with
  | app a app away inner => exact explained_app inner explained
  | task a client own sound created heard idle inner => exact explained
  | callback stale drawn tick write event rest told sound idle =>
    simp only [noteAnswering, told]
    exact explained_answer idle stale event explained
  | publish tv drawn tick write request here sound created set honest =>
    obtain ⟨⟨hand, queued⟩, timer, pendings, responses⟩ := explained
    exact ⟨⟨hand, queued⟩, timer, pendings, responses⟩
  | noHandle tv drawn tick write request here sound created unset => exact explained

theorem fragments_events (trace : List Occurrence) :
    fragments trace = (events trace).filterMap dataOf := by
  rw [fragments, events, List.filterMap_filterMap]
  congr 1
  funext occurrence
  cases occurrence with
  | event event id => cases event <;> rfl
  | _ => rfl

structure Answered (cJSONParse : List UInt8 → Option Json) (d : Whole capacity)
    (answering : Answering) : Prop where
  told : fragments d.client.trace = answering.answers.map Prod.snd ++ d.told.filterMap dataOf
  asked : answering.outgoing.asked = answering.answers.flatMap (askedBy cJSONParse)

theorem noteSending_asked (outgoing : Outgoing) {b : AppState} {a : AppAction}
    (away : apart b a = true) : (noteSending outgoing b a).asked = outgoing.asked := by
  cases a with
  | task a =>
    cases a with
    | mqttClient jdata stale =>
      have busy : b.tasks.mqttPending ≠ [] := by simpa [apart] using away
      simp only [noteSending, noteOutgoing]
      split
      next idle => exact absurd idle busy
      next => rfl
      next => rfl
    | canTransmit accepted =>
      simp only [noteSending, noteOutgoing]
      split <;> rfl
    | obdWait stale =>
      simp only [noteSending, noteOutgoing]
      split <;> rfl
    | _ => rfl
  | _ => rfl

theorem noteAnswer_asked (cJSONParse : List UInt8 → Option Json) {b : AppState}
    (idle : b.tasks.mqttPending = []) (stale : CanMsgTimestamped) (event : Event) (answering : Answering) :
    ∃ new, (noteAnswer cJSONParse answering b stale event).answers = answering.answers ++ new ∧
      new.map Prod.snd = (dataOf event).toList ∧
      (noteAnswer cJSONParse answering b stale event).outgoing.asked =
        answering.outgoing.asked ++ new.flatMap (askedBy cJSONParse) := by
  cases event with
  | data fragment =>
    refine ⟨[(stale, fragment)], rfl, rfl, ?_⟩
    simp [noteAnswer, dataOf, noteOutgoing, idle, askedBy, CanMaster.mqttReceive_eq]
  | _ => exact ⟨[], by simp [noteAnswer, dataOf], rfl, by simp [noteAnswer, dataOf]⟩

theorem answered_step (room : 3 ≤ capacity) (small : capacity ≤ 16386) {d next : Whole capacity}
    {a : Act} {answering : Answering} (reached : (mqttClient setup).Reachable d.client)
    (stepped : WholeStep cJSONParse cJSONPrint setup d a next)
    (answered : Answered cJSONParse d answering) :
    Answered cJSONParse next (noteAnswering cJSONParse answering d a) := by
  obtain ⟨told, asked⟩ := answered
  cases stepped with
  | app a app away inner => exact ⟨told, (noteSending_asked _ away).trans asked⟩
  | task a client own sound created heard idle inner =>
    obtain ⟨extra, grown⟩ := step_grows room small reached inner
    rw [heard, List.filterMap_nil, List.append_nil] at told
    refine ⟨?_, asked⟩
    simp only [noteAnswering, grown, fragments_append, told, List.drop_left', ← fragments_events]
  | callback stale drawn tick write event rest heard sound idle =>
    obtain ⟨new, answers, fragment, more⟩ :=
      noteAnswer_asked cJSONParse idle stale event answering
    rw [heard] at told
    constructor
    · simp only [noteAnswering, heard, answers, List.map_append, fragment]
      rw [fragments_events, handlerCall_events, ← fragments_events, told, List.append_assoc]
      cases found : dataOf event <;> simp [found]
    · simp only [noteAnswering, heard, answers, more, asked, List.flatMap_append]
  | publish tv drawn tick write request here sound created set honest =>
    refine ⟨?_, asked⟩
    rw [fragments_events] at told ⊢
    exact (congrArg _ (publish_events _ _ _ _)).trans told
  | noHandle tv drawn tick write request here sound created unset => exact ⟨told, asked⟩

structure BusHolds (cJSONParse : List UInt8 → Option Json) (d : Whole capacity)
    (answering : Answering) : Prop where
  -- Each event is handled once, and in order.
  answers : answering.answers.map Prod.snd <+: fragments d.client.trace
  handled : d.told = [] → answering.answers.map Prod.snd = fragments d.client.trace
  pendings : ∀ frame, (.pending, frame) ∈ answering.outgoing.called → IsPending frame
  responses : ofResponses answering.outgoing.called <+:
    (answering.answers.flatMap (askedBy cJSONParse)).map withoutFlags
  drained : Drained d.app.tasks → ofResponses answering.outgoing.called =
    (answering.answers.flatMap (askedBy cJSONParse)).map withoutFlags

theorem frames_on_bus (room : 3 ≤ capacity) (small : capacity ≤ 16386) {d : Whole capacity}
    {answering : Answering}
    (reached : (answeringHistory cJSONParse cJSONPrint setup).Reachable (d, answering)) :
    BusHolds cJSONParse d answering := by
  let inv (d : Whole capacity) (answering : Answering) : Prop :=
    Ordered setup d ∧ Explained d.app.tasks answering.outgoing ∧ Answered cJSONParse d answering
  have start : inv (device cJSONParse cJSONPrint setup).init ⟨⟨[], [], [], []⟩, []⟩ := by
    have simulation : Simulation (device cJSONParse cJSONPrint setup) CanMaster.application
        (Ordered setup) Whole.app (appActs cJSONParse cJSONPrint) := device_application room small
    refine ⟨simulation.begins, ?_, rfl, rfl⟩
    exact ⟨⟨rfl, rfl⟩, nofun, nofun, rfl⟩
  have kept (d : Whole capacity) (a : Act) (next : Whole capacity) (answering : Answering)
      (stepped : (device cJSONParse cJSONPrint setup).step d a = some next)
      (held : inv d answering) : inv next (noteAnswering cJSONParse answering d a) := by
    obtain ⟨ordered, explained, answered⟩ := held
    have listed := whole_listed stepped
    refine ⟨((device_application room small).step d a next stepped ordered).1, ?_, ?_⟩
    · exact explained_whole listed explained
    · exact answered_step room small ordered.client listed answered
  obtain ⟨-, explained, told, asked⟩ := System.observed_invariant start kept reached
  obtain ⟨pendings, responses, drained⟩ := CanMaster.explained_called explained
  rw [asked] at responses drained
  constructor
  · rw [told]
    exact List.prefix_append _ _
  · intro heard
    rw [told, heard, List.filterMap_nil, List.append_nil]
  · exact pendings
  · exact responses
  · exact drained

def responseMessage : List UInt8 :=
  [0x30, 83, 0, 8] ++ textBytes mqttResponseTopic ++ CanMaster.oneResponse

def responseRun : List Act :=
  connectedRun ++
    (CanMaster.startUp ++ CanMaster.arrive ++ CanMaster.controls 4 ++ CanMaster.transmits 7).map
      (fun a => .app (.task a)) ++
    [.publish ⟨0, 0⟩ drawnId 10 ⟨100, 11⟩] ++
    (CanMaster.transmits 1 ++ CanMaster.controls 4).map (fun a => .app (.task a)) ++
    [.task (.receive ⟨some responseMessage, ⟨0, 0⟩, drawnId, []⟩ 12),
      .callback CanMaster.blankFrame drawnId 13 ⟨0, 0⟩] ++
    ([CanMaster.answer, CanMaster.answer] ++ CanMaster.controls 3 ++
      List.replicate 3 (CanMaster.Action.canTransmit true)).map fun a => .app (.task a)

theorem frames_on_bus_one : ∃ d answering,
    (answeringHistory Json.read (Json.print true 0) firmwareSetup).run
      (answeringHistory Json.read (Json.print true 0) firmwareSetup).init responseRun =
        some (d, answering) ∧
      (ofResponses answering.outgoing.called).length = 1 ∧ BusHolds Json.read d answering := by
  have ran : ((answeringHistory Json.read (Json.print true 0) firmwareSetup).run
      (answeringHistory Json.read (Json.print true 0) firmwareSetup).init responseRun).map
        (fun p => (ofResponses p.2.outgoing.called).length) = some 1 := by decide +kernel
  obtain ⟨⟨d, answering⟩, run, one⟩ := Option.map_eq_some_iff.mp ran
  exact ⟨d, answering, run, one, frames_on_bus (by decide) (by decide) ⟨_, run⟩⟩

end Device
