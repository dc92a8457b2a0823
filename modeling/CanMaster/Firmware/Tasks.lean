import CanMaster.Shared.Transition
import CanMaster.Shared.BoundedQueue
import CanMaster.Firmware.ControlEvents
import CanMaster.Firmware.MqttEvents

set_option autoImplicit false

namespace CanMaster

open Transition

-- One step of a task is one queue operation, one semaphore operation, the end of one delay or one
-- return of a driver or network call.
inductive CanReceivePc where
  | takeCanRx
  | receive
  | sendEvent (frame : CanMsgTimestamped)
  | sendFrame (frame : CanMsgTimestamped)
  deriving DecidableEq

inductive CanTransmitPc where
  | takeCanTx
  | receive
  | transmit (frame : CanMsgTimestamped)
  | sendEvent
  deriving DecidableEq

inductive MqttTransmitPc where
  | takeNetTx
  | countMessages
  | sendStart
  | openRequest
  | drain (request : MasterRequest) (cntMsg : Nat)
  | recount (request : MasterRequest)
  | publish (request : Option MasterRequest)
  | sendEnd
  | delay
  deriving DecidableEq

inductive ObdWaitPc where
  | takeObdTxWait
  | responseDelay
  | sendPending (frame : CanMsgTimestamped)
  | bigDelay
  | sendTimeout
  deriving DecidableEq

abbrev controlQueueMax : Nat := 10
abbrev canRxBuffer : Nat := 10
abbrev canTxBuffer : Nat := 10

-- `pending` is what `control_task` has still to do before its next receive, and
-- `mqttPending` what the MQTT callback has still to do before it returns.
structure State where
  controlEvents : BoundedQueue ControlEvent controlQueueMax
  rxCanQueue : BoundedQueue CanMsgTimestamped canRxBuffer
  txCanQueue : BoundedQueue CanMsgTimestamped canTxBuffer
  semaphores : Semaphores
  cs : ControlState
  prevState : ControlState
  pending : List ControlOp
  cntRxCan : UInt8
  cntTransaction : UInt16
  canReceivePc : CanReceivePc
  canTransmitPc : CanTransmitPc
  mqttTransmitPc : MqttTransmitPc
  obdWaitPc : ObdWaitPc
  mqttPending : List MqttOp

-- The state in which `control_task` has just created its queue. Until then every other task
-- waits for a semaphore, except the MQTT callback, which can still run from here.
def initialState : State where
  controlEvents := .empty
  rxCanQueue := .empty
  txCanQueue := .empty
  semaphores := ⟨false, false, false, false, false⟩
  cs := .start
  prevState := .start
  pending := [.send .start]
  cntRxCan := 0
  cntTransaction := 0
  canReceivePc := .takeCanRx
  canTransmitPc := .takeCanTx
  mqttTransmitPc := .takeNetTx
  obdWaitPc := .takeObdTxWait
  mqttPending := []

inductive Action where
  | control
  | canReceive (bus : Option BusFrame)
  | canTransmit (accepted : Bool)
  | mqttTransmit (tv : Timeval) (attempt : PublishAttempt)
  | obdWait (stale : CanMsgTimestamped)
  | mqttClient (jdata : Option Json) (stale : CanMsgTimestamped)

def State.post (s : State) (event : ControlEvent) : Option State :=
  (s.controlEvents.send event).map fun queue => { s with controlEvents := queue }

def controlTask (s : State) : Option State :=
  match s.pending with
  | [] =>
      s.controlEvents.receive.map fun received =>
        { s with controlEvents := received.2, pending := controlHandler s.cs received.1 }
  | .give semaphore :: ops =>
      some { s with semaphores := s.semaphores.give semaphore, pending := ops }
  | .changeState newState :: ops =>
      some { s with prevState := s.cs, cs := newState, pending := ops }
  | .send event :: ops => { s with pending := ops }.post event

def canReceiveTask (s : State) (bus : Option BusFrame) : Option State :=
  match s.canReceivePc with
  | .takeCanRx =>
      if s.semaphores.canRx then
        some { s with semaphores := { s.semaphores with canRx := false }, canReceivePc := .receive }
      else none
  | .receive =>
      match bus with
      | none => some s
      | some bus =>
          some { s with
            cntRxCan := s.cntRxCan + 1
            canReceivePc := .sendEvent (stamp s.cntRxCan bus) }
  | .sendEvent frame => { s with canReceivePc := .sendFrame frame }.post .canReceived
  | .sendFrame frame =>
      (s.rxCanQueue.send frame).map fun queue =>
        { s with rxCanQueue := queue, canReceivePc := .receive }

-- The result of `can_transmit` is not looked at.
def canTransmitTask (s : State) : Option State :=
  match s.canTransmitPc with
  | .takeCanTx =>
      if s.semaphores.canTx then
        some { s with semaphores := { s.semaphores with canTx := false }, canTransmitPc := .receive }
      else none
  | .receive =>
      s.txCanQueue.receive.map fun received =>
        { s with
          txCanQueue := received.2
          canTransmitPc :=
            .transmit { received.1 with msg := { received.1.msg with flags := canMsgFlagNone } } }
  | .transmit _ => some { s with canTransmitPc := .sendEvent }
  | .sendEvent => { s with canTransmitPc := .receive }.post .canTransmitted

-- From `openRequest` to `recount` the task is inside `request_server_masterrequest`. A failed
-- receive leaves `cntMsg` as it is, and the result of the publish is not looked at.
def mqttTransmitTask (s : State) (tv : Timeval) : Option State :=
  match s.mqttTransmitPc with
  | .takeNetTx =>
      if s.semaphores.netTx then
        some { s with
          semaphores := { s.semaphores with netTx := false }
          mqttTransmitPc := .countMessages }
      else none
  | .countMessages =>
      some { s with
        mqttTransmitPc := if 0 < s.rxCanQueue.items.length then .sendStart else .delay }
  | .sendStart => { s with mqttTransmitPc := .openRequest }.post .netTransmitStart
  | .openRequest =>
      let cntMsg := s.rxCanQueue.items.length
      if 0 < cntMsg then
        let request : MasterRequest :=
          { cntTransaction := s.cntTransaction
            starttime := (getTimestamp tv).toUInt32
            dataamount := cntMsg
            commands := [] }
        some { s with mqttTransmitPc := .drain request cntMsg }
      else some { s with mqttTransmitPc := .publish none }
  | .drain request cntMsg =>
      if 0 < cntMsg then
        match s.rxCanQueue.receive with
        | some received =>
            some { s with
              rxCanQueue := received.2
              mqttTransmitPc :=
                .recount { request with commands := request.commands ++ [received.1] } }
        | none => some s
      else some { s with mqttTransmitPc := .publish (some request) }
  | .recount request =>
      some { s with mqttTransmitPc := .drain request s.rxCanQueue.items.length }
  | .publish _ => some { s with mqttTransmitPc := .sendEnd }
  | .sendEnd => { s with mqttTransmitPc := .delay }.post .netTransmitEnd
  | .delay => some { s with mqttTransmitPc := .takeNetTx }

def obdWaitTask (s : State) (stale : CanMsgTimestamped) : Option State :=
  match s.obdWaitPc with
  | .takeObdTxWait =>
      if s.semaphores.obdTxWait then
        some { s with
          semaphores := { s.semaphores with obdTxWait := false }
          obdWaitPc := .responseDelay }
      else none
  | .responseDelay => some { s with obdWaitPc := .sendPending (responsePending stale) }
  | .sendPending frame =>
      (s.txCanQueue.send frame).map fun queue =>
        { s with txCanQueue := queue, obdWaitPc := .bigDelay }
  | .bigDelay => some { s with obdWaitPc := .sendTimeout }
  | .sendTimeout => { s with obdWaitPc := .takeObdTxWait }.post .bigTimeout

-- The read that faults is no step: the device resets and its tasks start again.
def mqttClientTask (s : State) (jdata : Option Json) (stale : CanMsgTimestamped) : Option State :=
  match s.mqttPending with
  | [] => some { s with mqttPending := mqttApply stale jdata }
  | .sendFrame frame :: ops =>
      (s.txCanQueue.send frame).map fun queue =>
        { s with txCanQueue := queue, mqttPending := ops }
  | .sendNetReceived :: ops => { s with mqttPending := ops }.post .netReceived
  | .fault :: _ => none

def step (s : State) : Action → Option State
  | .control => controlTask s
  | .canReceive bus => canReceiveTask s bus
  | .canTransmit _ => canTransmitTask s
  | .mqttTransmit tv _ => mqttTransmitTask s tv
  | .obdWait stale => obdWaitTask s stale
  | .mqttClient jdata stale => mqttClientTask s jdata stale

def firmware : System State Action := ⟨initialState, step⟩

def blankBus : BusFrame := ⟨blankFrame.msg, ⟨0, 0⟩, blankFrame⟩

-- A step of `mqtt_transmit_task` with a clock and a network of no consequence.
def anyTransmit : Action := .mqttTransmit ⟨0, 0⟩ ⟨true, true, 1, 1⟩

def controls (n : Nat) : List Action := List.replicate n .control

def transmits (n : Nat) : List Action := List.replicate n anyTransmit

def timers (n : Nat) : List Action := List.replicate n (.obdWait blankFrame)

-- A response without commands, and each further step of the callback.
def answer : Action := .mqttClient (some (.object [])) blankFrame

def startUp : List Action := controls 4 ++ [.canReceive none]

-- A frame is received and announced, but not yet in `rxCanQueue`.
def announce : List Action := [.canReceive (some blankBus), .canReceive none]

def arrive : List Action := announce ++ [.canReceive none]

def after (actions : List Action) : State := (firmware.run firmware.init actions).getD initialState

end CanMaster
