import CanMaster.Firmware.Steps

set_option autoImplicit false

namespace CanMaster

open Transition

def Fills (waiting : Nat) : MqttTransmitPc → Prop
  | .sendStart | .openRequest => 0 < waiting
  | .drain request cntMsg => cntMsg ≤ waiting ∧ (request.commands = [] → 0 < cntMsg)
  | .recount request => request.commands ≠ []
  | .publish request => ∃ opened, request = some opened ∧ opened.commands ≠ []
  | .takeNetTx | .countMessages | .sendEnd | .delay => True

def Filling (s : State) : Prop := Fills s.rxCanQueue.items.length s.mqttTransmitPc

theorem fills_mono {fewer more : Nat} (grown : fewer ≤ more) (pc : MqttTransmitPc) :
    Fills fewer pc → Fills more pc := by
  cases pc with
  | drain request cntMsg => exact fun ⟨counted, opened⟩ => ⟨counted.trans grown, opened⟩
  | sendStart => exact fun waiting => Nat.lt_of_lt_of_le waiting grown
  | openRequest => exact fun waiting => Nat.lt_of_lt_of_le waiting grown
  | _ => exact id

theorem filling_transmit {s t : State} {tv : Timeval} {attempt : PublishAttempt}
    (stepped : Step s (.mqttTransmit tv attempt) t) (filling : Filling s) : Filling t := by
  cases stepped with
  | countSome here waiting => exact List.length_pos_iff.mpr waiting
  | postTransmitStart here room => simpa [Filling, Fills, here] using filling
  | openEmpty here empty => simp [Filling, Fills, here, empty] at filling
  | openRequest here waiting => exact ⟨le_rfl, fun _ => List.length_pos_iff.mpr waiting⟩
  | dequeueRx request cntMsg frame rest here more head => simp [Filling, Fills]
  | dequeueFailed request cntMsg here more empty => exact filling
  | closeRequest request here => simpa [Filling, Fills, here] using filling
  | recount request here =>
    have opened : request.commands ≠ [] := by simpa [Filling, Fills, here] using filling
    exact ⟨le_rfl, fun empty => absurd empty opened⟩
  | _ => trivial

theorem filling_step {s t : State} {a : Action} (stepped : Step s a t) (filling : Filling s) :
    Filling t := by
  cases a with
  | mqttTransmit tv attempt => exact filling_transmit stepped filling
  | canReceive bus =>
    have grown : s.rxCanQueue.items.length ≤ t.rxCanQueue.items.length := by
      cases stepped <;> simp
    have same : t.mqttTransmitPc = s.mqttTransmitPc := by cases stepped <;> rfl
    unfold Filling
    rw [same]
    exact fills_mono grown _ filling
  | control =>
    have same := control_sameTasks stepped
    unfold Filling
    rwa [same.rxCanQueue, same.mqttTransmitPc]
  | _ =>
    have same := downlink_sameUplink stepped trivial
    unfold Filling
    rwa [same.rxCanQueue, same.mqttTransmitPc]

theorem filling_reachable {s : State} (reached : firmware.Reachable s) : Filling s :=
  System.reachable_invariant trivial (fun _ _ _ stepped => filling_step (step_iff.mp stepped))
    reached

end CanMaster
