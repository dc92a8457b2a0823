import Mathlib.Logic.Basic

set_option autoImplicit false

namespace CanMaster

inductive ControlState where
  | stop
  | start
  | canRequestWait
  | sendRequest
  | waitResponse
  | responseTimeout
  | responseTransmitted
  deriving DecidableEq, Repr

inductive ControlEvent where
  | start
  | stop
  | canReceived
  | canTransmitted
  | netTransmitStart
  | netTransmitEnd
  | netTransmitTimeout
  | netReceived
  | bigTimeout
  deriving DecidableEq, Repr

inductive Semaphore where
  | canRx
  | canTx
  | netRx
  | netTx
  | obdTxWait
  deriving DecidableEq, Repr

structure Semaphores where
  canRx : Bool
  canTx : Bool
  netRx : Bool
  netTx : Bool
  obdTxWait : Bool
  deriving DecidableEq, Repr

-- A binary semaphore that is given again stays given.
def Semaphores.give (semaphores : Semaphores) : Semaphore → Semaphores
  | .canRx => { semaphores with canRx := true }
  | .canTx => { semaphores with canTx := true }
  | .netRx => { semaphores with netRx := true }
  | .netTx => { semaphores with netTx := true }
  | .obdTxWait => { semaphores with obdTxWait := true }

def Semaphores.given (semaphores : Semaphores) : Semaphore → Bool
  | .canRx => semaphores.canRx
  | .canTx => semaphores.canTx
  | .netRx => semaphores.netRx
  | .netTx => semaphores.netTx
  | .obdTxWait => semaphores.obdTxWait

theorem given_give (semaphores : Semaphores) (one other : Semaphore) :
    (semaphores.give one).given other = true ↔ semaphores.given other = true ∨ one = other := by
  cases one <;> cases other <;> simp [Semaphores.give, Semaphores.given]

inductive ControlOp where
  | give (semaphore : Semaphore)
  | changeState (newState : ControlState)
  | send (event : ControlEvent)
  deriving DecidableEq, Repr

def controlStartState : ControlEvent → List ControlOp
  | .start => [.give .canRx, .changeState .canRequestWait]
  | _ => []

def controlCANRequestState : ControlEvent → List ControlOp
  | .canReceived => [.give .netTx, .give .obdTxWait, .changeState .sendRequest]
  | _ => []

def controlNetRequestSendState : ControlEvent → List ControlOp
  | .netTransmitEnd => [.give .netRx, .changeState .waitResponse]
  | .bigTimeout => [.changeState .start, .send .start]
  | _ => []

def controlNetResponseWaitState : ControlEvent → List ControlOp
  | .netReceived => [.give .canTx, .changeState .responseTransmitted]
  | .bigTimeout => [.changeState .start, .send .start]
  | _ => []

def controlHandler (cs : ControlState) (ev : ControlEvent) : List ControlOp :=
  match cs with
  | .start => controlStartState ev
  | .canRequestWait => controlCANRequestState ev
  | .sendRequest => controlNetRequestSendState ev
  | .waitResponse => controlNetResponseWaitState ev
  | .responseTransmitted => [.changeState .canRequestWait, .send .start]
  | .stop | .responseTimeout => []

def landing : ControlState → List ControlOp → ControlState
  | cs, [] => cs
  | _, .changeState newState :: ops => landing newState ops
  | cs, _ :: ops => landing cs ops

def ControlOp.isSend : ControlOp → Bool
  | .send _ => true
  | _ => false

def SendsLast : List ControlOp → Prop
  | [] => True
  | .send _ :: ops => ops = []
  | _ :: ops => SendsLast ops

theorem controlHandler_sendsLast (cs : ControlState) (ev : ControlEvent) :
    SendsLast (controlHandler cs ev) := by
  cases cs <;> cases ev <;> simp [SendsLast, controlHandler, controlStartState,
    controlCANRequestState, controlNetRequestSendState, controlNetResponseWaitState]

-- One event in one state gives the semaphore, and nothing else does.
def GivenOn (semaphore : Semaphore) (state : ControlState) (event : ControlEvent) : Prop :=
  ∀ cs ev, .give semaphore ∈ controlHandler cs ev ↔ cs = state ∧ ev = event

theorem netTx_givenOn : GivenOn .netTx .canRequestWait .canReceived := by
  intro cs ev
  cases cs <;> cases ev <;> decide

theorem canTx_givenOn : GivenOn .canTx .waitResponse .netReceived := by
  intro cs ev
  cases cs <;> cases ev <;> decide

theorem obdTxWait_givenOn : GivenOn .obdTxWait .canRequestWait .canReceived := by
  intro cs ev
  cases cs <;> cases ev <;> decide

def controlNext (cs : ControlState) (ev : ControlEvent) : ControlState :=
  landing cs (controlHandler cs ev)

end CanMaster
