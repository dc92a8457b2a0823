import CanMaster.Payload.RoundTrip
import CanMaster.Uplink.Filling

set_option autoImplicit false

namespace CanMaster

open Transition

def Declares (jdata : Json) : Prop :=
  ∃ fields amount, jdata.getObjectItem "transaction" = some (.object fields) ∧
    (Json.object fields).getObjectItem "dataamount" = some (.number amount) ∧
    responseCommands jdata ≠ [] ∧ amount = (responseCommands jdata).length

-- Inside the loop, a frame that is enqueued now will be drained by it.
def MqttTransmitPc.looping : MqttTransmitPc → Bool
  | .drain _ cntMsg => 0 < cntMsg
  | .recount _ => true
  | _ => false

def noteLoop (undisturbed : Bool) (s : State) : Action → Bool
  | .mqttTransmit _ _ =>
      match s.mqttTransmitPc with
      | .openRequest => true
      | _ => undisturbed
  | .canReceive _ =>
      match s.canReceivePc with
      | .sendFrame _ => undisturbed && !s.mqttTransmitPc.looping
      | _ => undisturbed
  | _ => undisturbed

def loopHistory : System (State × Bool) Action := firmware.observed true noteLoop

-- The frames drained and to be drained exceed the declared amount by the late ones.
def Exceeds (undisturbed : Bool) (request : MasterRequest) (frames : Nat) : Prop :=
  ∃ late, frames = request.dataamount + late ∧ (late = 0 ↔ undisturbed = true)

def Amounts (undisturbed : Bool) (waiting : Nat) : MqttTransmitPc → Prop
  | .drain request cntMsg =>
      Exceeds undisturbed request (request.commands.length + if 0 < cntMsg then waiting else 0)
  | .recount request => Exceeds undisturbed request (request.commands.length + waiting)
  | .publish (some request) => Exceeds undisturbed request request.commands.length
  | _ => True

def AmountKept (s : State) (undisturbed : Bool) : Prop :=
  Amounts undisturbed s.rxCanQueue.items.length s.mqttTransmitPc

theorem declares_iff_length (request : MasterRequest) (filled : request.commands ≠ []) :
    Declares (masterRequestJson (some request)) ↔ request.dataamount = request.commands.length := by
  have commands := responseCommands_masterRequestJson (some request)
  have amount : (transactionJson request).getObjectItem "dataamount" =
      some (.number request.dataamount) := by
    simp [transactionJson, Json.getObjectItem, Json.sameKey]
  have transaction : (masterRequestJson (some request)).getObjectItem "transaction" =
      some (transactionJson request) := by
    simp [masterRequestJson, Json.getObjectItem, Json.sameKey]
  unfold transactionJson at amount transaction
  simp only [Declares, transaction, commands, requestFrames, Option.elim_some, Option.some.injEq,
    Json.object.injEq, List.length_map]
  constructor
  next =>
    rintro ⟨fields, declared, rfl, found, _, same⟩
    rw [amount, Option.some.injEq, Json.number.injEq] at found
    rw [← found] at same
    exact_mod_cast same
  next =>
    intro same
    exact ⟨_, _, rfl, amount, by simpa using filled, by rw [same]⟩

theorem exceeds_late {undisturbed : Bool} {request : MasterRequest} {frames : Nat}
    (exceeds : Exceeds undisturbed request frames) : Exceeds false request (frames + 1) := by
  obtain ⟨late, counted, _⟩ := exceeds
  exact ⟨late + 1, by omega, by simp⟩

theorem amountKept_transmit {s t : State} {undisturbed : Bool} {tv : Timeval}
    {attempt : PublishAttempt} (stepped : Step s (.mqttTransmit tv attempt) t)
    (kept : AmountKept s undisturbed) :
    AmountKept t (noteLoop undisturbed s (.mqttTransmit tv attempt)) := by
  unfold AmountKept at kept
  cases stepped with
  | openRequest here waiting =>
    have counted := List.length_pos_iff.mpr waiting
    simp only [AmountKept, Amounts, noteLoop, here, counted, if_true]
    exact ⟨0, by simp, by simp⟩
  | dequeueRx request cntMsg frame rest here more head =>
    simp only [here, Amounts, more, if_true, head, List.length_cons] at kept
    simp only [AmountKept, Amounts, noteLoop, here, BoundedQueue.tail_items, head, List.tail_cons,
      List.length_append, List.length_cons, List.length_nil, Nat.zero_add]
    rwa [Nat.add_right_comm, Nat.add_assoc]
  | dequeueFailed request cntMsg here more empty => simpa [AmountKept, noteLoop, here] using kept
  | closeRequest request here =>
    simpa [AmountKept, noteLoop, here, Amounts] using kept
  | recount request here =>
    -- A count of zero ends the loop, and then nothing waits either.
    simp only [here, Amounts] at kept
    simp only [AmountKept, Amounts, noteLoop, here]
    split
    next => exact kept
    next none =>
      obtain empty : s.rxCanQueue.items.length = 0 := by omega
      rwa [empty] at kept
  | _ => trivial

theorem amountKept_receive {s t : State} {undisturbed : Bool} {bus : Option BusFrame}
    (stepped : Step s (.canReceive bus) t) (kept : AmountKept s undisturbed) :
    AmountKept t (noteLoop undisturbed s (.canReceive bus)) := by
  cases stepped with
  | enqueueRx frame here room =>
    simp only [AmountKept, noteLoop, here, BoundedQueue.push_items, List.length_append,
      List.length_cons, List.length_nil, Nat.zero_add] at kept ⊢
    cases pc : s.mqttTransmitPc with
    | drain request cntMsg =>
      simp only [pc, Amounts] at kept
      by_cases more : 0 < cntMsg
      next =>
        simp only [more, if_true] at kept
        simpa [Amounts, MqttTransmitPc.looping, more, Nat.add_assoc] using exceeds_late kept
      next => simpa [Amounts, MqttTransmitPc.looping, more] using kept
    | recount request =>
      simp only [pc, Amounts] at kept
      simpa [Amounts, MqttTransmitPc.looping, Nat.add_assoc] using exceeds_late kept
    | publish request =>
      rw [pc] at kept
      cases request with
      | none => trivial
      | some request => simpa [Amounts, MqttTransmitPc.looping] using kept
    | _ => trivial
  | _ => simp_all [AmountKept, noteLoop]

theorem amountKept_step {s t : State} {undisturbed : Bool} {a : Action} (stepped : Step s a t)
    (kept : AmountKept s undisturbed) : AmountKept t (noteLoop undisturbed s a) := by
  cases a with
  | mqttTransmit tv attempt => exact amountKept_transmit stepped kept
  | canReceive bus => exact amountKept_receive stepped kept
  | _ =>
    have same : t.rxCanQueue = s.rxCanQueue ∧ t.mqttTransmitPc = s.mqttTransmitPc := by
      cases stepped <;> exact ⟨rfl, rfl⟩
    unfold AmountKept
    rwa [same.1, same.2]

theorem amountKept_reachable {s : State} {undisturbed : Bool}
    (reached : loopHistory.Reachable (s, undisturbed)) : Filling s ∧ AmountKept s undisturbed := by
  have start : Filling initialState ∧ AmountKept initialState true := ⟨trivial, trivial⟩
  apply System.observed_invariant start _ reached
  intro s a t undisturbed stepped held
  have listed := step_iff.mp stepped
  exact ⟨filling_step listed held.1, amountKept_step listed held.2⟩

theorem declares_iff {s : State} {undisturbed : Bool} {request : Option MasterRequest}
    (reached : loopHistory.Reachable (s, undisturbed))
    (publishing : s.mqttTransmitPc = .publish request) :
    Declares (masterRequestJson request) ↔ undisturbed = true := by
  obtain ⟨filling, kept⟩ := amountKept_reachable reached
  simp only [Filling, Fills, publishing] at filling
  obtain ⟨opened, rfl, filled⟩ := filling
  simp only [AmountKept, Amounts, publishing] at kept
  obtain ⟨late, counted, none⟩ := kept
  rw [declares_iff_length opened filled, ← none]
  omega

def oneFrameRun : List Action := startUp ++ arrive ++ controls 4 ++ transmits 7

theorem oneFrame_declared :
    Declares (masterRequestJson (some ⟨0, 0, 1, [stamp 0 blankBus]⟩)) := by
  have reached : loopHistory.Reachable (after oneFrameRun, true) := ⟨oneFrameRun, rfl⟩
  exact (declares_iff reached rfl).mpr rfl

-- The second frame is enqueued when the request has been opened for the first one.
def lateFrameRun : List Action :=
  startUp ++ arrive ++ controls 4 ++ transmits 4 ++ arrive ++ transmits 5

theorem lateFrame_undeclared : firmware.Reachable (after lateFrameRun) ∧
    ∃ request, (after lateFrameRun).mqttTransmitPc = .publish (some request) ∧
      request.dataamount = 1 ∧ request.commands.length = 2 ∧
      ¬ Declares (masterRequestJson (some request)) := by
  refine ⟨⟨lateFrameRun, rfl⟩, _, rfl, rfl, rfl, ?_⟩
  rw [declares_iff_length _ (List.cons_ne_nil _ _)]
  decide

end CanMaster
