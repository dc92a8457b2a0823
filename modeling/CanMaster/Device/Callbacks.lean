import CanMaster.EspMqtt.Pieces
import CanMaster.EspMqtt.Session

set_option autoImplicit false

namespace Device

open EspMqtt Transition

variable {capacity : Nat} {setup : Setup capacity}

def tell : Bool → Event → Option Bool
  | false, .connected => some true
  | true, .connected => none
  | _, .disconnected => some false
  | true, _ => some true
  | false, _ => none

def callbacks : System Bool Event := ⟨false, tell⟩

def eventOf : Occurrence → Option Event
  | .event event _ => some event
  | _ => none

def events (trace : List Occurrence) : List Event := trace.filterMap eventOf

theorem events_append (first second : List Occurrence) :
    events (first ++ second) = events first ++ events second :=
  List.filterMap_append

-- What the client has told of in each part of a session. The end of a connection is told of after
-- it is closed, and also where it was not made.
def Told : Session → Bool → Prop
  | .connected, told => told = true
  | .dropping _, _ => True
  | _, told => told = false

theorem told_silent {greeting : List UInt8} {session next : Session} {occurrence : Occurrence}
    {told : Bool} (stepped : session.next greeting occurrence = some next)
    (silent : eventOf occurrence = none) (here : Told session told) : Told next told := by
  cases session <;> cases occurrence <;> simp_all [Session.next, eventOf, Told]
  all_goals
    first
    | subst stepped
    | obtain ⟨-, rfl⟩ := stepped
    trivial

theorem told_event {greeting : List UInt8} {session next : Session} {event : Event} {id : UInt16}
    {told : Bool} (stepped : session.next greeting (.event event id) = some next)
    (here : Told session told) : ∃ later, tell told event = some later ∧ Told next later := by
  cases session <;> cases event <;> simp_all [Session.next, Occurrence.inside, tell, Told]
  all_goals
    first
    | subst stepped
    | obtain ⟨-, rfl⟩ := stepped
    trivial

theorem told_step {session next : Session} {occurrence : Occurrence} {told : Bool}
    (stepped : (sessions setup).step session occurrence = some next) (here : Told session told) :
    ∃ later, callbacks.run told (events [occurrence]) = some later ∧ Told next later := by
  cases heard : eventOf occurrence with
  | none =>
    have nothing : events [occurrence] = [] := by simp [events, heard]
    rw [nothing]
    exact ⟨told, rfl, told_silent stepped heard here⟩
  | some event =>
    cases occurrence with
    | event same id =>
      cases heard
      obtain ⟨later, tells, there⟩ := told_event stepped here
      exact ⟨later, by simp [events, eventOf, callbacks, tells], there⟩
    | _ => cases heard

theorem told_run {session last : Session} {trace : List Occurrence} {told : Bool}
    (ran : (sessions setup).run session trace = some last) (here : Told session told) :
    ∃ later, callbacks.run told (events trace) = some later ∧ Told last later := by
  induction trace generalizing session told with
  | nil =>
    cases ran
    exact ⟨told, rfl, here⟩
  | cons occurrence rest ih =>
    obtain ⟨next, stepped, continued⟩ := Option.bind_eq_some_iff.mp ran
    obtain ⟨between, first, there⟩ := told_step stepped here
    obtain ⟨later, second, reached⟩ := ih continued there
    refine ⟨later, ?_, reached⟩
    rw [← List.singleton_append, events_append, System.run_append, first]
    exact second

theorem told_apart {client : Client capacity} {told : Bool} (apart : client.state ≠ .connected)
    (here : Told client.session told) : told = false := by
  rw [Client.session] at here
  split at here
  next => exact here
  next =>
    cases state : client.state with
    | connected => exact absurd state apart
    | init =>
      rw [state] at here
      exact here
    | waitTimeout =>
      rw [state] at here
      exact here

theorem client_callbacks (room : 3 ≤ capacity) (small : capacity ≤ 16386)
    {client : Client capacity} (reached : (mqttClient setup).Reachable client) :
    callbacks.run false (events client.trace) = some (decide (client.state = .connected)) := by
  obtain ⟨ran, agrees⟩ := session_agrees room small reached
  obtain ⟨later, told, last⟩ := told_run ran rfl
  rw [told, Option.some_inj]
  by_cases connected : client.state = .connected
  next =>
    have running : client.phase ≠ .ended := fun ended => by
      cases connected.symm.trans (agrees.outOfLoop ended)
    rw [session_connected running connected] at last
    rw [decide_eq_true connected]
    exact last
  next =>
    rw [decide_eq_false connected]
    exact told_apart connected last

end Device
