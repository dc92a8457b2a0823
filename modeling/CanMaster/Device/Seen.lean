import CanMaster.Device.System
import CanMaster.Shared.JsonReader
import CanMaster.Shared.JsonText

set_option autoImplicit false

namespace Device

open CanMaster (AppState AppAction CanMsgTimestamped PublishAttempt MasterRequest)
open EspMqtt Transition

variable {capacity : Nat} {setup : Setup capacity}
  {cJSONParse : List UInt8 → Option Json} {cJSONPrint : Json → String}

def clientActs (cJSONPrint : Json → String) (d : Whole capacity) : Act → List Action
  | .app _ => []
  | .task a => [a]
  | .callback _ drawn tick write =>
      match d.told.head? with
      | some .connected => [.subscribe (textBytes mqttResponseTopic) 2 drawn tick write]
      | _ => []
  | .publish _ drawn tick write =>
      match d.app.tasks.mqttTransmitPc with
      | .publish request =>
          if d.app.client = false then []
          else [.publish (requestCall cJSONPrint request drawn) tick write]
      | _ => []

theorem device_client : Simulation (device cJSONParse cJSONPrint setup) (mqttClient setup)
    (fun _ => True) Whole.client (clientActs cJSONPrint) where
  same := rfl
  begins := trivial
  step := by
    intro d a next stepped _
    refine ⟨trivial, ?_⟩
    cases whole_listed stepped with
    | app a app away inner => rfl
    | task a client own sound created heard idle inner =>
      simp only [clientActs, System.run_cons, inner]
      rfl
    | callback stale drawn tick write event rest told sound idle =>
      cases event <;> simp only [clientActs, told, List.head?_cons] <;> rfl
    | publish tv drawn tick write request here sound created set honest =>
      simp only [clientActs, here, set, Bool.true_eq_false, if_false]
      rfl
    | noHandle tv drawn tick write request here sound created unset =>
      simp only [clientActs, here, unset, if_true]
      rfl

def attemptOf (cJSONPrint : Json → String) (d : Whole capacity) (request : Option MasterRequest)
    (drawn : DrawnId) (write : Write) : PublishAttempt :=
  attempt d.client CanMaster.mqttRequestTopic (requestText cJSONPrint request) 2 drawn write

def handlerActs (cJSONParse : List UInt8 → Option Json) (stale : CanMsgTimestamped)
    (b : AppState) : Event → List AppAction
  | .connected => [.connect true]
  | .disconnected => [if b.connected then .disconnect else .connect false]
  | .data fragment => [.task (.mqttClient (fragment.mqttEvent.parsed cJSONParse) stale)]
  | _ => []

def appActs (cJSONParse : List UInt8 → Option Json) (cJSONPrint : Json → String)
    (d : Whole capacity) : Act → List AppAction
  | .app a => [a]
  | .task _ => []
  | .callback stale _ _ _ =>
      match d.told with
      | event :: _ => handlerActs cJSONParse stale d.app event
      | [] => []
  | .publish tv drawn _ write =>
      match d.app.tasks.mqttTransmitPc with
      | .publish request =>
          [.task (.mqttTransmit tv (attemptOf cJSONPrint d request drawn write))]
      | _ => []

/-- The events up to those that wait have been handled, and the last of them that was about a
connection says whether there is one. -/
structure Ordered (setup : Setup capacity) (d : Whole capacity) : Prop where
  client : (mqttClient setup).Reachable d.client
  handled : ∃ handled, events d.client.trace = handled ++ d.told ∧
    callbacks.run false handled = some d.app.connected
  created : d.told ≠ [] → .mqttClient ∈ d.app.created
  handle : d.app.connected = true → d.app.client = true

theorem step_grows (room : 3 ≤ capacity) (small : capacity ≤ 16386)
    {client next : Client capacity} {a : Action}
    (reached : (mqttClient setup).Reachable client)
    (stepped : (mqttClient setup).step client a = some next) :
    ∃ extra, next.trace = client.trace ++ extra := by
  have agrees := (session_agrees room small reached).2
  obtain ⟨extra, -, grown, -⟩ := step_follows room small (step_listed stepped) _ agrees
  exact ⟨extra, grown⟩

theorem called_events {client : Client capacity} {outcome : Int × Client capacity}
    {message : MqttConnection capacity × UInt16} {requests : List Occurrence} {write : Write}
    (called : Called client outcome message requests write) (silent : events requests = []) :
    events outcome.2.trace = events client.trace := by
  rw [called.trace, events_append, events_append, silent]
  exact List.append_nil _

theorem topic_events (client : Client capacity)
    (build : MqttConnection capacity → UInt16 → MqttConnection capacity × UInt16) (tick : Int)
    (write : Write) : events (espMqttClientTopic client build tick write).2.trace =
      events client.trace := by
  by_cases connected : client.state = .connected
  next => exact called_events (topic_called connected build tick write) rfl
  next => rw [topic_apart connected]

theorem publish_events (client : Client capacity) (call : Publish) (tick : Int) (write : Write) :
    events (espMqttClientPublish client call tick write).2.trace = events client.trace := by
  by_cases connected : client.state = .connected
  next =>
    refine called_events (publish_called connected call tick write) ?_
    split <;> rfl
  next => rw [publish_apart connected]

theorem handlerCall_events (client : Client capacity) (event : Event) (drawn : DrawnId)
    (tick : Int) (write : Write) :
    events (handlerCall client event drawn tick write).trace = events client.trace := by
  cases event with
  | connected => exact topic_events _ _ _ _
  | _ => rfl

theorem handler_connected {b : AppState} {event : Event} {now : Bool}
    (tells : tell b.connected event = some now) (stale : CanMsgTimestamped) :
    (mqttEventHandler cJSONParse stale b event).connected = now := by
  cases event <;> cases there : b.connected <;>
    simp_all [tell, mqttEventHandler]

theorem tell_apart {connected now : Bool} (tells : tell connected .connected = some now) :
    connected = false := by
  cases connected with
  | false => rfl
  | true => cases tells

theorem tell_connected {connected now : Bool} {event : Event}
    (tells : tell connected event = some now) (other : event ≠ .connected)
    (another : event ≠ .disconnected) : connected = true := by
  cases connected with
  | true => rfl
  | false => cases event <;> simp_all [tell]

theorem handler_run {b : AppState} {event : Event} {now : Bool}
    (tells : tell b.connected event = some now) (sound : b.faulted = false)
    (idle : b.tasks.mqttPending = []) (created : .mqttClient ∈ b.created)
    (handle : b.connected = true → b.client = true) (stale : CanMsgTimestamped) :
    CanMaster.application.run b (handlerActs cJSONParse stale b event) =
      some (mqttEventHandler cJSONParse stale b event) := by
  have silent (there : b.connected = true) : b = { b with client := true } := by
    have set := handle there
    cases b
    cases set
    rfl
  have connected := tell_connected tells
  cases event with
  | connected =>
    have apart := tell_apart tells
    have stepped : CanMaster.application.step b (.connect true) =
        some (mqttEventHandler cJSONParse stale b .connected) := by
      simp [CanMaster.application, CanMaster.appStep, sound, created, idle, apart, mqttEventHandler]
    simp [handlerActs, stepped]
  | disconnected =>
    cases there : b.connected with
    | true =>
      have stepped : CanMaster.application.step b .disconnect =
          some (mqttEventHandler cJSONParse stale b .disconnected) := by
        simp [CanMaster.application, CanMaster.appStep, sound, idle, there, mqttEventHandler]
      simp [handlerActs, there, stepped]
    | false =>
      have stepped : CanMaster.application.step b (.connect false) =
          some (mqttEventHandler cJSONParse stale b .disconnected) := by
        simp [CanMaster.application, CanMaster.appStep, sound, created, idle, there,
          mqttEventHandler]
      simp [handlerActs, there, stepped]
  | data fragment =>
    let begins : CanMaster.Action := .mqttClient (fragment.mqttEvent.parsed cJSONParse) stale
    have there := connected (by rintro ⟨⟩) (by rintro ⟨⟩)
    have delivers : CanMaster.delivers b.tasks begins = true := decide_eq_true idle
    have ready : CanMaster.Ready b begins := ⟨created, by rintro ⟨⟩, fun _ => there⟩
    have fine : ¬ CanMaster.Faults b begins := by
      simp [CanMaster.Faults, CanMaster.sends, CanMaster.publishes, CanMaster.posted, begins, idle]
    have stepped : CanMaster.application.step b (.task begins) =
        some (mqttEventHandler cJSONParse stale b (.data fragment)) := by
      have inner : CanMaster.step b.tasks begins = some { b.tasks with
          mqttPending := CanMaster.mqttApply stale (fragment.mqttEvent.parsed cJSONParse) } := by
        simp [CanMaster.step, CanMaster.mqttClientTask, begins, idle]
      simp [CanMaster.application, CanMaster.appStep, sound, CanMaster.taskStep, ready, fine, inner,
        delivers, mqttEventHandler, CanMaster.mqttReceive_eq]
    simp [handlerActs, begins, stepped]
  | subscribed => exact congrArg some (silent (connected (by rintro ⟨⟩) (by rintro ⟨⟩)))
  | unsubscribed => exact congrArg some (silent (connected (by rintro ⟨⟩) (by rintro ⟨⟩)))
  | published => exact congrArg some (silent (connected (by rintro ⟨⟩) (by rintro ⟨⟩)))

theorem publish_run {b : AppState} {request : Option MasterRequest}
    (here : b.tasks.mqttTransmitPc = .publish request) (sound : b.faulted = false)
    (created : .mqttTransmit ∈ b.created) (tv : CanMaster.Timeval) (attempt : PublishAttempt) :
    CanMaster.application.run b [.task (.mqttTransmit tv attempt)] =
      some (if b.client = true then { b with tasks := { b.tasks with mqttTransmitPc := .sendEnd } }
        else { b with faulted := true }) := by
  let publishes : CanMaster.Action := .mqttTransmit tv attempt
  have ready : CanMaster.Ready b publishes := ⟨created, nofun, nofun⟩
  have quiet : CanMaster.sends b.tasks publishes = false := by
    simp [CanMaster.sends, CanMaster.posted, publishes, here]
  have calls : CanMaster.publishes b.tasks publishes = true := by
    simp [CanMaster.publishes, publishes, here]
  have faults : CanMaster.Faults b publishes ↔ b.client = false := by
    simp [CanMaster.Faults, quiet, calls]
  have inner : CanMaster.step b.tasks publishes =
      some { b.tasks with mqttTransmitPc := .sendEnd } := by
    simp [CanMaster.step, CanMaster.mqttTransmitTask, publishes, here]
  have apart : CanMaster.delivers b.tasks publishes = false := rfl
  have stepped : CanMaster.application.step b (.task publishes) = _ := if_neg (by simp [sound])
  rw [System.run_cons, stepped]
  cases set : b.client with
  | true =>
    simp [CanMaster.taskStep, ready, faults, set, inner, apart]
  | false => simp [CanMaster.taskStep, ready, faults, set]

theorem device_application (room : 3 ≤ capacity) (small : capacity ≤ 16386) :
    Simulation (device cJSONParse cJSONPrint setup) CanMaster.application (Ordered setup) Whole.app
      (appActs cJSONParse cJSONPrint) where
  same := rfl
  begins := ⟨System.reaches_refl _ _, ⟨[], rfl, rfl⟩, fun told => absurd rfl told, nofun⟩
  step := by
    intro d a next stepped ordered
    have reached : (mqttClient setup).Reachable next.client := by
      have ran := (device_client.step d a next stepped trivial).2
      exact ordered.client.trans ⟨_, ran⟩
    obtain ⟨handled, split, ran⟩ := ordered.handled
    cases whole_listed stepped with
    | app a app away inner =>
      have acted : CanMaster.application.run d.app [a] = some app := by simp [inner]
      have kept : app.connected = d.app.connected ∧
          (d.app.client = true → app.client = true) ∧ d.app.created ⊆ app.created := by
        cases (CanMaster.appStep_listed inner).2 with
        | appMain op rest next =>
          exact ⟨rfl, id, List.subset_append_right _ _⟩
        | createQueue created fresh => exact ⟨rfl, id, List.Subset.refl _⟩
        | connect accepted created idle apart => cases away
        | disconnect idle connected => cases away
        | fault a ready faults => exact ⟨rfl, id, List.Subset.refl _⟩
        | task a t ready sound stepped =>
          exact ⟨rfl, fun set => by simp [set], List.Subset.refl _⟩
      obtain ⟨same, set, more⟩ := kept
      exact ⟨⟨reached, ⟨handled, split, by rw [ran, same]⟩, fun told => more (ordered.created told),
        fun connected => set (ordered.handle (same ▸ connected))⟩, acted⟩
    | task a client own sound created heard idle inner =>
      obtain ⟨extra, grown⟩ := step_grows room small ordered.client inner
      refine ⟨⟨reached, ⟨handled, ?_, ran⟩, fun _ => created, ordered.handle⟩, rfl⟩
      rw [heard, List.append_nil] at split
      simp only [grown, List.drop_left', events_append, split]
    | callback stale drawn tick write event rest told sound idle =>
      have whole := client_callbacks room small ordered.client
      rw [split, System.run_append, ran, told] at whole
      have later : callbacks.run d.app.connected (event :: rest) = some _ := whole
      obtain ⟨now, tells, -⟩ := Option.bind_eq_some_iff.mp later
      have created := ordered.created (by rw [told]; exact List.cons_ne_nil _ _)
      refine ⟨⟨reached, ⟨handled ++ [event], ?_, ?_⟩, fun _ => ?_, fun _ => ?_⟩, ?_⟩
      next => simp [handlerCall_events, split, told]
      next =>
        rw [System.run_append, ran, handler_connected tells]
        simpa [callbacks] using tells
      next =>
        have same : (mqttEventHandler cJSONParse stale d.app event).created = d.app.created := by
          cases event <;> rfl
        rw [same]
        exact created
      next => cases event <;> rfl
      next =>
        simp only [appActs, told]
        exact handler_run tells sound idle created ordered.handle stale
    | publish tv drawn tick write request here sound created set honest =>
      refine ⟨⟨reached, ⟨handled, ?_, ran⟩, ordered.created, ordered.handle⟩, ?_⟩
      next => rw [← split]; exact publish_events _ _ _ _
      next =>
        simp only [appActs, here]
        rw [publish_run here sound created, if_pos set]
    | noHandle tv drawn tick write request here sound created unset =>
      refine ⟨⟨reached, ⟨handled, split, ran⟩, ordered.created, ordered.handle⟩, ?_⟩
      simp only [appActs, here]
      rw [publish_run here sound created, if_neg (by simp [unset])]

theorem device_runs (room : 3 ≤ capacity) (small : capacity ≤ 16386) {d : Whole capacity}
    {acts : List Act} (ran : (device cJSONParse cJSONPrint setup).run
      (device cJSONParse cJSONPrint setup).init acts = some d) :
    CanMaster.application.run CanMaster.application.init
        ((device cJSONParse cJSONPrint setup).trail (appActs cJSONParse cJSONPrint)
          (device cJSONParse cJSONPrint setup).init acts) = some d.app ∧
      (mqttClient setup).run (mqttClient setup).init
        ((device cJSONParse cJSONPrint setup).trail (clientActs cJSONPrint)
          (device cJSONParse cJSONPrint setup).init acts) = some d.client :=
  ⟨(device_application room small).run ran, device_client.run ran⟩

def connectedRun : List Act :=
  List.replicate 7 (.app .appMain) ++ [.app .createQueue, .task joins,
    .callback CanMaster.blankFrame drawnId 8 ⟨15, 9⟩]

theorem device_runs_connected : ∃ d : Whole (bufferSize mqttCfg), d.app.connected = true ∧
    CanMaster.application.run CanMaster.application.init
        ((device Json.read (Json.print true 0) firmwareSetup).trail
          (appActs Json.read (Json.print true 0))
          (device Json.read (Json.print true 0) firmwareSetup).init connectedRun) = some d.app ∧
      (mqttClient firmwareSetup).run (mqttClient firmwareSetup).init
        ((device Json.read (Json.print true 0) firmwareSetup).trail
          (clientActs (Json.print true 0))
          (device Json.read (Json.print true 0) firmwareSetup).init connectedRun) =
        some d.client := by
  have ran : ((device Json.read (Json.print true 0) firmwareSetup).run
      (device Json.read (Json.print true 0) firmwareSetup).init connectedRun).map
        (fun d => d.app.connected) = some true := by decide +kernel
  obtain ⟨d, run, connected⟩ := Option.map_eq_some_iff.mp ran
  exact ⟨d, connected, device_runs (by decide) (by decide) run⟩

end Device
