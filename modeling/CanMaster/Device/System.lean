import CanMaster.Device.Callbacks
import CanMaster.Device.Publish
import CanMaster.Firmware.AppMain
import CanMaster.Shared.Simulation

set_option autoImplicit false

namespace Device

open CanMaster (AppState AppAction CanMsgTimestamped MasterRequest MqttOp Timeval)
open EspMqtt Transition

variable {capacity : Nat}

-- `told` waits until the callback has been called with it, and until then the client task goes no
-- further. A call of the firmware is one step with the call of the client that it makes.
structure Whole (capacity : Nat) where
  app : AppState
  client : Client capacity
  told : List Event

inductive Act where
  | app (a : AppAction)
  | task (a : Action)
  | callback (stale : CanMsgTimestamped) (drawn : DrawnId) (tick : Int) (write : Write)
  | publish (tv : Timeval) (drawn : DrawnId) (tick : Int) (write : Write)

-- The steps of the client task. The others are calls.
def ofTask : Action → Bool
  | .connect _ _ _ _ | .receive _ _ | .checkKeepalive _ _ _ | .cleanOutbox _ | .waitTimeout _ _ =>
      true
  | _ => false

-- What the firmware does without the client. The first step of the callback is that of the event.
def apart (b : AppState) : AppAction → Bool
  | .appMain | .createQueue => true
  | .connect _ | .disconnect => false
  | .task (.mqttClient _ _) => b.tasks.mqttPending ≠ []
  | .task a => !CanMaster.publishes b.tasks a

def mqttResponseTopic : String := "response"

-- Every event sets the handle.
def mqttEventHandler (cJSONParse : List UInt8 → Option Json) (stale : CanMsgTimestamped)
    (b : AppState) (event : Event) : AppState :=
  let b := { b with client := true }
  match event with
  | .connected => { b with connected := true }
  | .disconnected => { b with connected := false }
  | .data fragment =>
      { b with tasks := { b.tasks with
          mqttPending := CanMaster.mqttReceive cJSONParse stale fragment.mqttEvent } }
  | _ => b

def handlerCall (client : Client capacity) (event : Event) (drawn : DrawnId) (tick : Int)
    (write : Write) : Client capacity :=
  match event with
  | .connected => (espMqttClientSubscribe client (textBytes mqttResponseTopic) 2 drawn tick write).2
  | _ => client

variable (cJSONParse : List UInt8 → Option Json) (cJSONPrint : Json → String)

def requestText (request : Option MasterRequest) : String :=
  cJSONPrint (CanMaster.masterRequestJson request)

def requestCall (request : Option MasterRequest) (drawn : DrawnId) : Publish :=
  textCall CanMaster.mqttRequestTopic (requestText cJSONPrint request) 2 drawn

-- A transport never says that it has written more than it was given.
def publishStep (d : Whole capacity) (request : Option MasterRequest) (drawn : DrawnId)
    (tick : Int) (write : Write) : Option (Whole capacity) :=
  if d.app.client = false then some { d with app := { d.app with faulted := true } }
  else
    let client :=
      (espMqttClientPublish d.client (requestCall cJSONPrint request drawn) tick write).2
    if write.written ≤ client.connection.sent.length then
      some { d with
        app := { d.app with tasks := { d.app.tasks with mqttTransmitPc := .sendEnd } }
        client := client }
    else none

def wholeStep (setup : Setup capacity) (d : Whole capacity) : Act → Option (Whole capacity)
  | .app a =>
      if apart d.app a then (CanMaster.appStep d.app a).map fun app => { d with app := app }
      else none
  | .task a =>
      if d.app.faulted = false ∧ .mqttClient ∈ d.app.created ∧ d.told = [] ∧
          d.app.tasks.mqttPending = [] ∧ ofTask a then
        (step setup d.client a).map fun client =>
          { d with client := client, told := events (client.trace.drop d.client.trace.length) }
      else none
  | .callback stale drawn tick write =>
      match d.told with
      | [] => none
      | event :: rest =>
          if d.app.faulted = false ∧ d.app.tasks.mqttPending = [] then
            some {
              app := mqttEventHandler cJSONParse stale d.app event
              client := handlerCall d.client event drawn tick write
              told := rest }
          else none
  | .publish _ drawn tick write =>
      match d.app.tasks.mqttTransmitPc with
      | .publish request =>
          if d.app.faulted = false ∧ .mqttTransmit ∈ d.app.created then
            publishStep cJSONPrint d request drawn tick write
          else none
      | _ => none

def device (setup : Setup capacity) : System (Whole capacity) Act where
  init := ⟨CanMaster.appInitial, espMqttClientInit setup, []⟩
  step := wholeStep cJSONParse cJSONPrint setup

def published (d : Whole capacity) (request : Option MasterRequest) (drawn : DrawnId) (tick : Int)
    (write : Write) : Client capacity :=
  (espMqttClientPublish d.client (requestCall cJSONPrint request drawn) tick write).2

inductive WholeStep (setup : Setup capacity) (d : Whole capacity) : Act → Whole capacity → Prop where
  | app (a : AppAction) (app : AppState) (away : apart d.app a = true)
      (stepped : CanMaster.application.step d.app a = some app) :
      WholeStep setup d (.app a) { d with app := app }
  | task (a : Action) (client : Client capacity) (own : ofTask a = true)
      (sound : d.app.faulted = false) (created : .mqttClient ∈ d.app.created)
      (heard : d.told = []) (idle : d.app.tasks.mqttPending = [])
      (stepped : (mqttClient setup).step d.client a = some client) :
      WholeStep setup d (.task a)
        { d with client := client, told := events (client.trace.drop d.client.trace.length) }
  | callback (stale : CanMsgTimestamped) (drawn : DrawnId) (tick : Int) (write : Write)
      (event : Event) (rest : List Event) (told : d.told = event :: rest)
      (sound : d.app.faulted = false) (idle : d.app.tasks.mqttPending = []) :
      WholeStep setup d (.callback stale drawn tick write) {
        app := mqttEventHandler cJSONParse stale d.app event
        client := handlerCall d.client event drawn tick write
        told := rest }
  | publish (tv : Timeval) (drawn : DrawnId) (tick : Int) (write : Write)
      (request : Option MasterRequest) (here : d.app.tasks.mqttTransmitPc = .publish request)
      (sound : d.app.faulted = false) (created : .mqttTransmit ∈ d.app.created)
      (set : d.app.client = true)
      (honest : write.written ≤
        (published cJSONPrint d request drawn tick write).connection.sent.length) :
      WholeStep setup d (.publish tv drawn tick write) { d with
        app := { d.app with tasks := { d.app.tasks with mqttTransmitPc := .sendEnd } }
        client := published cJSONPrint d request drawn tick write }
  | noHandle (tv : Timeval) (drawn : DrawnId) (tick : Int) (write : Write)
      (request : Option MasterRequest) (here : d.app.tasks.mqttTransmitPc = .publish request)
      (sound : d.app.faulted = false) (created : .mqttTransmit ∈ d.app.created)
      (unset : d.app.client = false) :
      WholeStep setup d (.publish tv drawn tick write)
        { d with app := { d.app with faulted := true } }

variable {cJSONParse cJSONPrint} in
theorem whole_listed {setup : Setup capacity} {d next : Whole capacity} {a : Act}
    (stepped : (device cJSONParse cJSONPrint setup).step d a = some next) :
    WholeStep cJSONParse cJSONPrint setup d a next := by
  have taken : wholeStep cJSONParse cJSONPrint setup d a = some next := stepped
  cases a with
  | app a =>
    simp only [wholeStep, Option.ite_none_right_eq_some, Option.map_eq_some_iff] at taken
    obtain ⟨away, app, here, rfl⟩ := taken
    exact .app a app away here
  | task a =>
    simp only [wholeStep, Option.ite_none_right_eq_some, Option.map_eq_some_iff] at taken
    obtain ⟨⟨sound, created, heard, idle, own⟩, client, here, rfl⟩ := taken
    exact .task a client own sound created heard idle here
  | callback stale drawn tick write =>
    cases told : d.told with
    | nil => simp [wholeStep, told] at taken
    | cons event rest =>
      simp only [wholeStep, told, Option.ite_none_right_eq_some, Option.some.injEq] at taken
      obtain ⟨⟨sound, idle⟩, rfl⟩ := taken
      exact .callback stale drawn tick write event rest told sound idle
  | publish tv drawn tick write =>
    simp only [wholeStep] at taken
    split at taken
    next request here =>
      simp only [Option.ite_none_right_eq_some, publishStep] at taken
      obtain ⟨⟨sound, created⟩, taken⟩ := taken
      split at taken
      next unset =>
        cases taken
        exact .noHandle tv drawn tick write request here sound created unset
      next set =>
        simp only [Option.ite_none_right_eq_some, Option.some.injEq] at taken
        obtain ⟨honest, rfl⟩ := taken
        exact .publish tv drawn tick write request here sound created
          (Bool.eq_true_of_not_eq_false set) honest
    next => cases taken

end Device
