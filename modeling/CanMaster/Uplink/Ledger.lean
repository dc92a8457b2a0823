import CanMaster.Uplink.Filling

set_option autoImplicit false

namespace CanMaster

open Transition

/-- The frames taken out of `rxCanQueue`, in order, and those of them that were in a request
whose publish returned a message id. -/
structure Ledger where
  drained : List CanMsgTimestamped
  delivered : List CanMsgTimestamped

-- The frames of the request that is being built or sent. Nothing is put back into `rxCanQueue`
-- or kept after the publish, whatever it returned.
def held (s : State) : List CanMsgTimestamped :=
  match s.mqttTransmitPc with
  | .drain request _ | .recount request => request.commands
  | .publish request => requestFrames request
  | _ => []

def noteLedger (ledger : Ledger) (s : State) : Action → Ledger
  | .mqttTransmit _ attempt =>
      match s.mqttTransmitPc with
      | .drain _ cntMsg =>
          if 0 < cntMsg then
            { ledger with drained := ledger.drained ++ s.rxCanQueue.items.head?.toList }
          else ledger
      | .publish request =>
          if 0 ≤ espMqttClientPublish attempt then
            { ledger with delivered := ledger.delivered ++ requestFrames request }
          else ledger
      | _ => ledger
  | _ => ledger

def ledgerHistory : System (State × Ledger) Action := firmware.observed ⟨[], []⟩ noteLedger

def Conserved (p : State × Ledger) : Prop := p.2.drained = p.2.delivered ++ held p.1

-- A publish finds the client connected and a message that fits, and its write succeeds.
def PublishSucceeds (p : State × Ledger) : Action → Prop
  | .mqttTransmit _ attempt =>
      ∀ request, p.1.mqttTransmitPc = .publish request →
        attempt.connected = true ∧ attempt.fits = true ∧ 0 < attempt.written
  | _ => True

theorem espMqttClientPublish_nonneg (attempt : PublishAttempt) :
    0 ≤ espMqttClientPublish attempt ↔
      attempt.connected = true ∧ attempt.fits = true ∧ 0 < attempt.written := by
  unfold espMqttClientPublish
  by_cases connected : attempt.connected <;> by_cases fits : attempt.fits <;>
    by_cases written : attempt.written ≤ 0 <;> simp [connected, fits, written]
  omega

theorem held_same {s t : State} (pc : t.mqttTransmitPc = s.mqttTransmitPc) : held t = held s := by
  unfold held
  rw [pc]

theorem conserved_transmit {s t : State} {ledger : Ledger} {tv : Timeval}
    {attempt : PublishAttempt} (stepped : Step s (.mqttTransmit tv attempt) t)
    (filling : Filling s) (conserved : Conserved (s, ledger)) :
    Conserved (t, noteLedger ledger s (.mqttTransmit tv attempt)) ↔
      PublishSucceeds (s, ledger) (.mqttTransmit tv attempt) := by
  have moves (here : ∀ request, s.mqttTransmitPc ≠ .publish request) (same : held t = held s)
      (noted : noteLedger ledger s (.mqttTransmit tv attempt) = ledger) :
      Conserved (t, noteLedger ledger s (.mqttTransmit tv attempt)) ↔
        PublishSucceeds (s, ledger) (.mqttTransmit tv attempt) := by
    apply iff_of_true
    next => rwa [noted, Conserved, same]
    next => exact fun request publishing => absurd publishing (here request)
  simp only [Conserved] at conserved
  cases stepped with
  | dequeueRx request cntMsg frame rest here more head =>
    simp only [Conserved, PublishSucceeds, noteLedger, held, here, more, head, if_true,
      List.head?_cons, Option.toList_some] at conserved ⊢
    simp [conserved]
  | dequeueFailed request cntMsg here more empty =>
    exact moves (by simp [here]) rfl (by simp [noteLedger, here, empty])
  | publish request here =>
    obtain ⟨opened, rfl, filled⟩ : ∃ opened, request = some opened ∧ opened.commands ≠ [] := by
      simpa [Filling, Fills, here] using filling
    simp only [held, here, requestFrames, Option.elim_some] at conserved
    have kept : PublishSucceeds (s, ledger) (.mqttTransmit tv attempt) ↔
        0 ≤ espMqttClientPublish attempt := by
      simp [PublishSucceeds, here, espMqttClientPublish_nonneg]
    rw [kept]
    -- After a failure the request is gone, and it held at least one frame.
    by_cases sent : 0 ≤ espMqttClientPublish attempt <;>
      simp [Conserved, noteLedger, held, here, requestFrames, sent, conserved, filled]
  | _ =>
    apply moves
    next => simp_all
    next => simp_all [held, requestFrames]
    next => simp_all [noteLedger]

theorem conserved_step {s t : State} {ledger : Ledger} {a : Action} (stepped : Step s a t)
    (filling : Filling s) (conserved : Conserved (s, ledger)) :
    Conserved (t, noteLedger ledger s a) ↔ PublishSucceeds (s, ledger) a := by
  have moves (pc : t.mqttTransmitPc = s.mqttTransmitPc) : Conserved (t, ledger) := by
    rwa [Conserved, held_same pc]
  cases a with
  | mqttTransmit tv attempt => exact conserved_transmit stepped filling conserved
  | control => exact iff_of_true (moves (control_sameTasks stepped).mqttTransmitPc) trivial
  | canReceive bus => exact iff_of_true (moves (by cases stepped <;> rfl)) trivial
  | _ => exact iff_of_true (moves (downlink_sameUplink stepped trivial).mqttTransmitPc) trivial

theorem conserved_iff (actions : List Action) :
    ledgerHistory.Always Conserved ledgerHistory.init actions ↔
      ledgerHistory.Along PublishSucceeds ledgerHistory.init actions := by
  have kept (s : State) (a : Action) (t : State) (_ : Ledger) (stepped : firmware.step s a = some t)
      (filling : Filling s) : Filling t := filling_step (step_iff.mp stepped) filling
  have start : Filling initialState := trivial
  have balanced : Conserved (initialState, ⟨[], []⟩) := rfl
  apply System.observed_always_iff kept _ start balanced
  intro s a t ledger filling conserved stepped
  exact conserved_step (step_iff.mp stepped) filling conserved

def unconnected : Action := .mqttTransmit ⟨0, 0⟩ ⟨false, true, 0, 0⟩

def discardingRun : List Action :=
  startUp ++ arrive ++ controls 4 ++ transmits 7 ++ [unconnected]

theorem frame_discarded : ∃ s frame, ledgerHistory.Reachable (s, ⟨[frame], []⟩) ∧
    held s = [] ∧ s.rxCanQueue.items = [] ∧ ¬ Conserved (s, ⟨[frame], []⟩) := by
  refine ⟨after discardingRun, stamp 0 blankBus, ⟨discardingRun, rfl⟩, rfl, rfl, ?_⟩
  intro conserved
  cases conserved

end CanMaster
