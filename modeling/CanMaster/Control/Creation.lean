import CanMaster.Firmware.AppMain

set_option autoImplicit false

namespace CanMaster

open Transition

-- Nothing but the callback has moved, and no token has been given.
structure Gated (s : State) : Prop where
  semaphores : s.semaphores = ⟨false, false, false, false, false⟩
  canReceivePc : s.canReceivePc = .takeCanRx
  canTransmitPc : s.canTransmitPc = .takeCanTx
  mqttTransmitPc : s.mqttTransmitPc = .takeNetTx
  obdWaitPc : s.obdWaitPc = .takeObdTxWait

theorem gated_step {s t : State} {a : Action} (stepped : Step s a t) (other : a ≠ .control)
    (gated : Gated s) : Gated t := by
  obtain ⟨semaphores, canReceivePc, canTransmitPc, mqttTransmitPc, obdWaitPc⟩ := gated
  cases stepped with
  | deliver idle => exact ⟨semaphores, canReceivePc, canTransmitPc, mqttTransmitPc, obdWaitPc⟩
  | enqueueResponse frame ops next room =>
    exact ⟨semaphores, canReceivePc, canTransmitPc, mqttTransmitPc, obdWaitPc⟩
  | postNetReceived ops next room =>
    exact ⟨semaphores, canReceivePc, canTransmitPc, mqttTransmitPc, obdWaitPc⟩
  | _ => simp_all

def answers (s : State) : Action → Bool
  | .mqttClient _ _ => s.mqttPending.head? = some .sendNetReceived
  | _ => false

theorem answers_sends {s : State} {a : Action} (answering : answers s a = true) :
    sends s a = true := by
  cases a with
  | mqttClient jdata stale =>
    cases next : s.mqttPending with
    | nil => simp [answers, next] at answering
    | cons op ops =>
      obtain rfl : op = .sendNetReceived := by simpa [answers, next] using answering
      simp [sends, posted, next]
  | _ => cases answering

theorem gated_sends {s : State} {a : Action} (gated : Gated s) (other : a ≠ .control)
    (sending : sends s a = true) : answers s a = true := by
  cases a with
  | control => exact absurd rfl other
  | canReceive bus => simp [sends, posted, gated.canReceivePc] at sending
  | canTransmit accepted => simp [sends, posted, gated.canTransmitPc] at sending
  | mqttTransmit tv attempt => simp [sends, posted, gated.mqttTransmitPc] at sending
  | obdWait stale => simp [sends, posted, gated.obdWaitPc] at sending
  | mqttClient jdata stale =>
    cases next : s.mqttPending with
    | nil => simp [sends, posted, next] at sending
    | cons op ops => cases op <;> simp_all [sends, posted, answers]

def startHistory : System (AppState × List AppAction) AppAction :=
  application.observed [] fun past _ a => a :: past

/-- The order that nothing enforces: the callback comes to its send once `control_task` has run
its first statement, and `mqtt_transmit_task` comes to its publish once a connect of the client
has ended. -/
def InTime (p : AppState × List AppAction) : AppAction → Prop
  | .task a =>
      (answers p.1.tasks a = true → .createQueue ∈ p.2) ∧
        (publishes p.1.tasks a = true → ∃ accepted, .connect accepted ∈ p.2)
  | _ => True

def Sound (p : AppState × List AppAction) : Prop := p.1.faulted = false

-- The handle is set by the event with which the first connect ends, and by no step before it.
structure Started (b : AppState) (past : List AppAction) : Prop where
  waiting : b.queueCreated = false → Gated b.tasks
  queue : b.queueCreated = true ↔ .createQueue ∈ past
  client : b.client = true ↔ ∃ accepted, .connect accepted ∈ past
  connected : b.connected = true → b.client = true

theorem started_step (b : AppState) (a : AppAction) (c : AppState) (past : List AppAction)
    (stepped : application.step b a = some c) (started : Started b past) :
    Started c (a :: past) := by
  obtain ⟨waiting, queue, client, connected⟩ := started
  cases (appStep_listed stepped).2 with
  | appMain op rest next => exact ⟨waiting, by simp [queue], by simp [client], connected⟩
  | createQueue created fresh => exact ⟨by simp, by simp, by simp [client], connected⟩
  | connect accepted created idle apart =>
    exact ⟨waiting, by simp [queue], by simp, fun _ => rfl⟩
  | disconnect idle held =>
    exact ⟨waiting, by simp [queue], by simpa [connected held] using client, fun _ => rfl⟩
  | fault a ready faults => exact ⟨waiting, by simp [queue], by simp [client], connected⟩
  | task a t ready sound inner =>
    refine ⟨fun fresh => ?_, by simp [queue], ?_, fun held => by simp [connected held]⟩
    next =>
      have other : a.task ≠ .control := fun control => by simp [ready.queue control] at fresh
      exact gated_step inner (fun control => other (control ▸ rfl)) (waiting fresh)
    next =>
      cases delivering : delivers b.tasks a with
      | false => simpa using client
      | true => simpa [connected (ready.data delivering)] using client

theorem faults_iff {b : AppState} {past : List AppAction} {a : Action} (started : Started b past)
    (ready : Ready b a) : Faults b a ↔ ¬ InTime (b, past) (.task a) := by
  have early : (sends b.tasks a = true ∧ b.queueCreated = false) ↔
      ¬ (answers b.tasks a = true → .createQueue ∈ past) := by
    rw [← started.queue]
    constructor
    next =>
      rintro ⟨sending, fresh⟩ inTime
      have other : a ≠ .control := by
        rintro rfl
        simp [ready.queue rfl] at fresh
      simp [inTime (gated_sends (started.waiting fresh) other sending)] at fresh
    next =>
      intro late
      obtain ⟨answering, fresh⟩ := Classical.not_imp.mp late
      exact ⟨answers_sends answering, by simpa using fresh⟩
  have handle : (publishes b.tasks a = true ∧ b.client = false) ↔
      ¬ (publishes b.tasks a = true → ∃ accepted, .connect accepted ∈ past) := by
    rw [← started.client, Classical.not_imp, Bool.not_eq_true]
  unfold Faults InTime
  rw [early, handle, not_and_or]

theorem inTime_iff (actions : List AppAction) :
    startHistory.Always Sound startHistory.init actions ↔
      startHistory.Along InTime startHistory.init actions := by
  have start : Started application.init [] :=
    ⟨fun _ => by constructor <;> rfl, by simp [application, appInitial],
      by simp [application, appInitial], by simp [application, appInitial]⟩
  have fresh : Sound startHistory.init := rfl
  apply System.observed_always_iff started_step _ start fresh
  intro b a c past started sound stepped
  cases (appStep_listed stepped).2 with
  | fault a ready faults =>
    exact iff_of_false (by simp [Sound]) ((faults_iff started ready).mp faults)
  | task a t ready fine inner =>
    exact iff_of_true sound (not_not.mp ((faults_iff started ready).not.mp fine))
  | _ => exact iff_of_true sound trivial

-- A retained response is delivered as soon as the client is connected.
def retainedRun : List AppAction := [.appMain, .connect true, .task answer, .task answer]

def connectingRun : List AppAction :=
  List.replicate 7 .appMain ++ [.createQueue] ++
    (startUp ++ arrive ++ controls 4 ++ transmits 8).map .task

theorem used_early :
    (∃ b, application.run application.init retainedRun = some b ∧
      b.faulted = true ∧ b.tasks.mqttPending = [.sendNetReceived] ∧ b.queueCreated = false) ∧
    ∃ b request, application.run application.init connectingRun = some b ∧
      b.faulted = true ∧ b.tasks.mqttTransmitPc = .publish request ∧ b.client = false :=
  ⟨⟨_, rfl, rfl, rfl, rfl⟩, ⟨_, _, rfl, rfl, rfl, rfl⟩⟩

end CanMaster
