import CanMaster.EspMqtt.Confirmed

set_option autoImplicit false

namespace EspMqtt

open Transition

variable {capacity : Nat} {setup : Setup capacity}

def Free (client : Client capacity) : Prop := ∀ item ∈ client.outbox, item.pending = false

theorem free_sublist {client later : Client capacity}
    (kept : later.outbox.Sublist client.outbox) (free : Free client) : Free later :=
  fun item inside => free item (kept.subset inside)

theorem outboxDelete_sublist {msgId msgType : Nat} {outbox rest : Outbox}
    (deleted : outboxDelete msgId msgType outbox = some rest) : rest.Sublist outbox := by
  obtain ⟨before, item, after, rfl, rfl, -⟩ := outboxDelete_some deleted
  exact (List.Sublist.refl before).append (List.sublist_cons_self item after)

theorem move_free (client later : Client capacity) (move : Move client later)
    (free : Free client) : Free later := by
  cases move with
  | write write call drawn before plain built =>
    rw [mqttWriteData_fields]
    exact free
  | confirmed msgType event next confirms valid =>
    obtain ⟨-, outbox, rfl, found⟩ := isValidMqttMsg_some valid
    refine free_sublist ?_ free
    rcases found with deleted | ⟨same, -⟩
    · exact outboxDelete_sublist deleted
    · exact same ▸ List.Sublist.refl _
  | enqueued tick =>
    rw [mqttEnqueue]
    split
    next =>
      intro item inside
      rcases List.mem_append.mp inside with old | new
      · exact free item old
      · cases List.mem_singleton.mp new
        rfl
    next => exact free
  | _ => exact free

theorem connect_outbox (setup : Setup capacity) (client : Client capacity) (write : Write)
    (read : Read) :
    (espMqttConnect setup client write read).2.outbox = client.outbox := by
  rcases espMqttConnect_cases setup client write read with silent | ⟨bytes, -, answered⟩
  · rw [silent]
    rfl
  · rw [answered]
    rfl

theorem ping_outbox (client : Client capacity) (write : Write) :
    (espMqttClientPing client write).2.outbox = client.outbox := by
  rw [espMqttClientPing, mqttWriteData_fields]
  rfl

theorem step_free {client next : Client capacity} (stepped : Step setup client next)
    (free : Free client) : Free next := by
  cases stepped with
  | refused write read tick top init no =>
    have same := connect_outbox setup (client.note .connecting) write read
    exact free_sublist (same ▸ List.Sublist.refl _) free
  | accepted write read top init yes =>
    have same := connect_outbox setup (client.note .connecting) write read
    exact free_sublist (same ▸ List.Sublist.refl _) free
  | received next top connected moves =>
    have kept : Free _ := moves.kept move_free free
    exact kept
  | pinged now write here late waiting written =>
    exact free_sublist (ping_outbox (client.note (.checked now)) write ▸ List.Sublist.refl _) free
  | unpinged now write tick here late waiting unwritten =>
    exact free_sublist (ping_outbox (client.note (.checked now)) write ▸ List.Sublist.refl _) free
  | cleaned now here => exact free_sublist (cleaned_sublist client now) free
  | called next moves connected => exact moves.kept move_free free
  | _ => exact free

theorem outbox_free {client : Client capacity} (reached : (mqttClient setup).Reachable client) :
    Free client := by
  have start : Free (mqttClient setup).init := fun item inside => absurd inside List.not_mem_nil
  exact System.reachable_invariant start
    (fun _ _ _ stepped free => step_free (step_listed stepped) free) reached

def publishes : List Action :=
  [joins, .publish ⟨[114], [123, 125], 2, 2, 0, drawnId⟩ 100 ⟨9, 100⟩,
    .receive ⟨some [], ⟨0, 0⟩, drawnId, []⟩ 0, .checkKeepalive 101 ⟨0, 0⟩ 0]

end EspMqtt
