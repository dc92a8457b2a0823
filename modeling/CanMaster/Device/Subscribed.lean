import CanMaster.Device.Seen
import CanMaster.Device.Upkeep

set_option autoImplicit false

namespace Device

open EspMqtt ByteFields Transition

variable {capacity : Nat} {setup : Setup capacity}
  {cJSONParse : List UInt8 → Option Json} {cJSONPrint : Json → String}

def subscribeOf (header : UInt8) (body : List UInt8) : Option (List UInt8 × Nat) :=
  if header = fixedHeader MqttMessageType.subscribe.code 0 1 0 then
    match takeField (body.drop 2) with
    | some (topic, [qos]) => some (topic, qos.toNat)
    | _ => none
  else none

def readSubscribe (bytes : List UInt8) : Option (List UInt8 × Nat) :=
  (readPacket bytes).bind fun packet => subscribeOf packet.1 packet.2

theorem subscription_read (room : 16 ≤ capacity) (small : capacity ≤ 16386)
    (connection : MqttConnection capacity) (drawn : DrawnId) :
    readSubscribe (subscription.build true connection drawn).sent =
      some (textBytes mqttResponseTopic, 2) := by
  have topic : (textBytes mqttResponseTopic).length = 8 := by
    rw [textBytes_length]
    decide
  have named : subscription.named = true := by decide
  have header : subscription.header = fixedHeader MqttMessageType.subscribe.code 0 1 0 := rfl
  have fits : 3 + (subscription.body true drawn).length ≤ capacity := by
    simp only [subscription, MqttCall.body, List.length_append, bigEndian_length, field_length,
      topic, List.length_singleton]
    omega
  have body : (subscription.body true drawn).drop 2 =
      field (textBytes mqttResponseTopic) ++ [2] := by
    simp [subscription, MqttCall.body, bigEndian]
  rw [build_sent (by omega) small, if_pos ⟨named, fits⟩, readSubscribe, readPacket_controlPacket,
    Option.bind_some, subscribeOf, if_pos header, body, takeField_field (by omega)]
  rfl

inductive Hearing where
  | apart
  | deaf
  | listening
  deriving DecidableEq

-- A message that names a topic is a PUBLISH or the first SUBSCRIBE of a connection.
def Hearing.next : Hearing → Occurrence → Option Hearing
  | hearing, .wrote bytes _ =>
      if namesTopic bytes = true ∧ mqttGetType bytes ≠ MqttMessageType.publish.code then
        if hearing = .deaf ∧ readSubscribe bytes = some (textBytes mqttResponseTopic, 2) then
          some .listening
        else none
      else some hearing
  | .deaf, .received _ => none
  | .apart, .event .connected _ => some .deaf
  | _, .event .connected _ => none
  | _, .closed _ => some .apart
  | hearing, _ => some hearing

def hearings : System Hearing Occurrence := ⟨.apart, Hearing.next⟩

theorem hearing_wrote {bytes : List UInt8}
    (other : namesTopic bytes = false ∨ mqttGetType bytes = MqttMessageType.publish.code)
    (hearing : Hearing) (write : Write) :
    hearings.step hearing (.wrote bytes write) = some hearing := by
  have neither : ¬ (namesTopic bytes = true ∧
      mqttGetType bytes ≠ MqttMessageType.publish.code) := by
    rintro ⟨names, apart⟩
    rcases other with unnamed | publishes
    · cases names.symm.trans unnamed
    · exact apart publishes
  cases hearing <;> exact if_neg neither

def heard : Session → Hearing
  | .connected => .listening
  | _ => .apart

theorem heard_step {session next : Session} {occurrence : Occurrence}
    (stepped : (sessions setup).step session occurrence = some next)
    (kept : upkeep occurrence = true) :
    hearings.step (heard session) occurrence = some (heard next) := by
  cases occurrence with
  | wrote bytes write =>
    have unnamed : namesTopic bytes = false := by simpa [upkeep] using kept
    have same : heard next = heard session := by
      cases session <;> simp_all [sessions, Session.next, heard]
      all_goals
        obtain ⟨-, rfl⟩ := stepped
        rfl
    rw [same]
    exact hearing_wrote (.inl unnamed) _ write
  | event event id =>
    cases event <;> cases session <;>
      simp_all [sessions, Session.next, Occurrence.inside, heard, upkeep, hearings, Hearing.next]
    all_goals
      subst stepped
      rfl
  | _ =>
    cases session <;>
      simp_all [sessions, Session.next, Occurrence.inside, heard, hearings, Hearing.next]
    all_goals
      first
      | subst stepped
      | obtain ⟨-, rfl⟩ := stepped
      rfl

theorem heard_run {session next : Session} {trace : List Occurrence}
    (ran : (sessions setup).run session trace = some next)
    (kept : ∀ o ∈ trace, upkeep o = true) :
    hearings.run (heard session) trace = some (heard next) := by
  induction trace generalizing session with
  | nil =>
    cases ran
    rfl
  | cons o rest ih =>
    obtain ⟨between, stepped, continued⟩ := Option.bind_eq_some_iff.mp ran
    rw [System.run_cons, heard_step stepped (kept o List.mem_cons_self)]
    exact ih continued fun other there => kept other (List.mem_cons_of_mem o there)

theorem heard_news {session next : Session} {id : UInt16}
    (stepped : (sessions setup).step session (.event .connected id) = some next) :
    heard session = .apart := by
  cases session <;> simp_all [sessions, Session.next, Occurrence.inside, heard]

theorem heard_connected {client : Client capacity} (agrees : Agrees client client.session) :
    heard client.session = if client.state = .connected then .listening else .apart := by
  by_cases connected : client.state = .connected
  next =>
    have running : client.phase ≠ .ended := fun ended => by
      cases connected.symm.trans (agrees.outOfLoop ended)
    rw [session_connected running connected, if_pos connected]
    rfl
  next =>
    rw [if_neg connected, Client.session]
    split
    next => rfl
    next => cases state : client.state <;> first | exact absurd state connected | rfl

def announces : Event → Bool
  | .connected => true
  | _ => false

-- The callback has not been called yet with the news of the connection.
def Whole.hearing (d : Whole capacity) : Hearing :=
  if d.client.state ≠ .connected then .apart
  else if d.told.any announces then .deaf
  else .listening

theorem upkeep_unannounced {extra : List Occurrence} (kept : ∀ o ∈ extra, upkeep o = true) :
    (events extra).any announces = false := by
  rw [List.any_eq_false]
  intro event there
  obtain ⟨o, noted, found⟩ := List.mem_filterMap.mp there
  have other := kept o noted
  cases o with
  | event same id =>
    cases found
    cases event <;> simp_all [upkeep, announces]
  | _ => cases found

/-- The monitor has read all that the client has done, and the news of a connection is the last that
waits for the callback. -/
structure Listens (setup : Setup capacity) (d : Whole capacity) : Prop where
  client : (mqttClient setup).Reachable d.client
  heard : hearings.run .apart d.client.trace = some d.hearing
  news : d.told.any announces = true → d.client.state = .connected ∧
    ∃ before, d.told = before ++ [.connected] ∧ before.any announces = false

section Sizes

variable (room : 16 ≤ capacity) (small : capacity ≤ 16386)

include room small

theorem task_listens {d : Whole capacity} {client : Client capacity} {a : Action}
    (listens : Listens setup d) (own : ofTask a = true) (idle : d.told = [])
    (stepped : (mqttClient setup).step d.client a = some client) : Listens setup
      { d with client := client, told := events (client.trace.drop d.client.trace.length) } := by
  have least : 3 ≤ capacity := by omega
  have agrees := (session_agrees least small listens.client).2
  have reached := listens.client.step stepped
  have after := (session_agrees least small reached).2
  obtain ⟨extra, session, grown, ran, same⟩ :=
    step_follows least small (step_listed stepped) _ agrees
  obtain rfl : session = client.session := same.same
  have told : client.trace.drop d.client.trace.length = extra := by
    rw [grown, List.drop_left]
  have start : d.hearing = heard d.client.session := by
    rw [heard_connected agrees, Whole.hearing, idle]
    by_cases connected : d.client.state = .connected <;> simp [connected]
  have before := listens.heard
  rw [start] at before
  rw [told]
  rcases task_tends least small own stepped with
    ⟨pre, grownPre, kept⟩ | ⟨between, id, ⟨pre, grownPre, kept⟩, connected, news⟩
  next =>
    obtain rfl : extra = pre := List.append_cancel_left (grown.symm.trans grownPre)
    have none := upkeep_unannounced kept
    refine ⟨reached, ?_, fun announced => by cases none.symm.trans announced⟩
    rw [grown, System.run_append, before, Option.bind_some, heard_run ran kept,
      heard_connected after, Whole.hearing]
    by_cases connected : client.state = .connected <;> simp [connected, none]
  next =>
    have split : extra = pre ++ [.event .connected id] := by
      rw [grownPre, List.append_assoc] at news
      exact List.append_cancel_left (grown.symm.trans news)
    subst split
    rw [System.run_append] at ran
    obtain ⟨middle, first, last⟩ := Option.bind_eq_some_iff.mp ran
    obtain ⟨final, accepted, -⟩ := Option.bind_eq_some_iff.mp last
    have waits : events (pre ++ [.event .connected id]) = events pre ++ [.connected] :=
      events_append _ _
    refine ⟨reached, ?_, fun _ => ⟨connected, events pre, waits, upkeep_unannounced kept⟩⟩
    rw [grown, System.run_append, before, Option.bind_some, System.run_append, heard_run first kept,
      heard_news accepted, Whole.hearing, waits]
    simp [connected, announces, hearings, Hearing.next]

theorem subscription_hearing (connection : MqttConnection capacity) (drawn : DrawnId)
    (write : Write) :
    hearings.step .deaf (.wrote (subscription.build true connection drawn).sent write) =
      some .listening := by
  have read := subscription_read room small connection drawn
  have type : mqttGetType (subscription.build true connection drawn).sent =
      MqttMessageType.subscribe.code := by
    rcases build_type (by omega) small connection drawn subscription with failed | type
    · rw [failed] at read
      cases read
    · exact type
  have names : namesTopic (subscription.build true connection drawn).sent = true ∧
      mqttGetType (subscription.build true connection drawn).sent ≠
        MqttMessageType.publish.code := by
    rw [namesTopic, type]
    decide
  exact (if_pos names).trans (if_pos ⟨rfl, read⟩)

theorem news_listens {d : Whole capacity} {rest : List Event} (listens : Listens setup d)
    (told : d.told = .connected :: rest) (app : CanMaster.AppState) (drawn : DrawnId) (tick : Int)
    (write : Write)
    (reached : (mqttClient setup).Reachable (handlerCall d.client .connected drawn tick write)) :
    Listens setup ⟨app, handlerCall d.client .connected drawn tick write, rest⟩ := by
  have news := listens.news
  have before := listens.heard
  rw [Whole.hearing] at before
  rw [told] at news before
  obtain ⟨connected, early, waits, none⟩ := news rfl
  -- The news comes last, so it is all that waits.
  obtain rfl : rest = [] := by
    cases early with
    | nil => exact (List.cons.inj waits).2
    | cons first early =>
      obtain rfl := (List.cons.inj waits).1
      cases none
  obtain ⟨outcome, message, called, built, calls⟩ := handlerCall_called connected drawn tick write
  have still := calls.state.trans connected
  have deaf : hearings.run .apart d.client.trace = some .deaf := by
    simpa [connected, announces] using before
  have requests : hearings.step .deaf (requestOf message) = some .deaf := rfl
  rw [called] at reached ⊢
  refine ⟨reached, ?_, nofun⟩
  rw [calls.trace, built, System.run_append, deaf, Option.bind_some, List.singleton_append,
    System.run_cons, requests, Option.bind_some, System.run_cons,
    subscription_hearing room small _ drawn write]
  simp [Whole.hearing, still]

omit room small in
theorem other_listens {d : Whole capacity} {event : Event} {rest : List Event}
    (listens : Listens setup d) (told : d.told = event :: rest)
    (other : announces event = false) (app : CanMaster.AppState) :
    Listens setup ⟨app, d.client, rest⟩ := by
  have same : d.told.any announces = rest.any announces := by
    rw [told, List.any_cons, other, Bool.false_or]
  refine ⟨listens.client, ?_, fun announced => ?_⟩
  next =>
    rw [listens.heard, Whole.hearing, same]
    rfl
  next =>
    obtain ⟨connected, early, waits, none⟩ := listens.news (same.trans announced)
    rw [told] at waits
    cases early with
    | nil =>
      obtain rfl := (List.cons.inj waits).1
      cases other
    | cons first early =>
      rw [List.any_cons, Bool.or_eq_false_iff] at none
      exact ⟨connected, early, (List.cons.inj waits).2, none.2⟩

theorem published_listens {d : Whole capacity} (listens : Listens setup d)
    (call : Publish) (tick : Int) (write : Write) (app : CanMaster.AppState)
    (reached : (mqttClient setup).Reachable (espMqttClientPublish d.client call tick write).2) :
    Listens setup { d with
      app := app, client := (espMqttClientPublish d.client call tick write).2 } := by
  by_cases connected : d.client.state = .connected
  next =>
    have called := publish_called connected call tick write
    let message :=
      mqttMsgPublish d.client.connection call.topic call.payload call.qos call.retain 0 call.drawn
    have publishes : namesTopic message.1.sent = false ∨
        mqttGetType message.1.sent = MqttMessageType.publish.code := by
      rcases build_type (by omega) small d.client.connection call.drawn
        (.publish call.topic call.payload call.qos call.retain) with failed | type
      · exact .inl (congrArg namesTopic failed)
      · exact .inr type
    have requested : hearings.step d.hearing (requestOf message) = some d.hearing := by
      cases d.hearing <;> rfl
    have kept : hearings.run d.hearing ((if 0 < call.qos then [requestOf message] else []) ++
        [.wrote message.1.sent write]) = some d.hearing := by
      split <;> simp [requested, hearing_wrote publishes]
    refine ⟨reached, ?_, fun announced => ?_⟩
    next =>
      rw [called.trace, System.run_append, listens.heard, Option.bind_some, kept]
      simp only [Whole.hearing, called.state]
    next =>
      obtain ⟨connected, waits⟩ := listens.news announced
      exact ⟨called.state.trans connected, waits⟩
  next =>
    rw [publish_apart connected]
    exact ⟨listens.client, listens.heard, listens.news⟩

theorem whole_listens {d next : Whole capacity} {a : Act}
    (stepped : WholeStep cJSONParse cJSONPrint setup d a next)
    (reached : (mqttClient setup).Reachable next.client) (listens : Listens setup d) :
    Listens setup next := by
  cases stepped with
  | app a app away inner => exact ⟨listens.client, listens.heard, listens.news⟩
  | task a client own sound created idle pending inner =>
    exact task_listens room small listens own idle inner
  | callback stale drawn tick write event rest told sound idle =>
    cases event with
    | connected => exact news_listens room small listens told _ drawn tick write reached
    | _ => exact other_listens listens told rfl _
  | publish tv drawn tick write request here sound created set honest =>
    exact published_listens room small listens _ tick write _ reached
  | noHandle tv drawn tick write request here sound created unset =>
    exact ⟨listens.client, listens.heard, listens.news⟩

end Sizes

end Device
