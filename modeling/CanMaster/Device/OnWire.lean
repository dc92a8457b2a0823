import CanMaster.Device.Seen
import CanMaster.Device.Upkeep

set_option autoImplicit false

namespace Device

open CanMaster (MasterRequest)
open EspMqtt ByteFields Transition

variable {capacity : Nat} {setup : Setup capacity}
  {cJSONParse : List UInt8 → Option Json} {cJSONPrint : Json → String}

def publishOf (header : UInt8) (body : List UInt8) : Option (List UInt8 × List UInt8) :=
  if mqttGetType [header] = MqttMessageType.publish.code then
    (takeField body).map fun (topic, rest) =>
      (topic, if 0 < mqttGetQos [header] then rest.drop 2 else rest)
  else none

def readPublish (bytes : List UInt8) : Option (List UInt8 × List UInt8) :=
  (readPacket bytes).bind fun packet => publishOf packet.1 packet.2

theorem readPublish_other {bytes : List UInt8}
    (other : mqttGetType bytes ≠ MqttMessageType.publish.code) : readPublish bytes = none := by
  cases bytes with
  | nil => rfl
  | cons header rest =>
    have type : mqttGetType [header] ≠ MqttMessageType.publish.code := other
    simp only [readPublish, readPacket]
    cases readLength rest with
    | none => rfl
    | some found =>
      dsimp only [Option.bind_some]
      split
      next => exact if_neg type
      next => rfl

theorem readPublish_publish {topic : List UInt8} (topicSmall : topic.length < 65536)
    (data : List UInt8) {qos : Nat} (level : qos < 4) (retain : Nat) (drawn : DrawnId) :
    readPublish (controlPacket (fixedHeader MqttMessageType.publish.code 0 qos retain)
      (publishBody topic data qos drawn)) = some (topic, data) := by
  obtain ⟨type, -, quality, -⟩ := fixedHeader_fields MqttMessageType.publish.code 0 qos retain []
  rw [Nat.mod_eq_of_lt level] at quality
  have kind : mqttGetType [fixedHeader MqttMessageType.publish.code 0 qos retain] =
      MqttMessageType.publish.code := type
  rw [readPublish, readPacket_controlPacket, Option.bind_some, publishOf, if_pos kind, publishBody,
    List.append_assoc, takeField_field topicSmall, Option.map_some]
  by_cases numbered : 0 < qos
  next => simp [quality, numbered, bigEndian]
  next => simp [quality, numbered]

def onWire (trace : List Occurrence) : List (List UInt8 × List UInt8) :=
  (writes trace).filterMap readPublish

theorem onWire_append (first second : List Occurrence) :
    onWire (first ++ second) = onWire first ++ onWire second := by
  rw [onWire, writes_append, List.filterMap_append]
  rfl

theorem called_onWire {client : Client capacity} {outcome : Int × Client capacity}
    {message : MqttConnection capacity × UInt16} {requests : List Occurrence} {write : Write}
    (called : Called client outcome message requests write) (silent : writes requests = []) :
    onWire outcome.2.trace = onWire client.trace ++ (readPublish message.1.sent).toList := by
  rw [called.trace, onWire_append, onWire, onWire, writes_append, silent, List.nil_append]
  cases found : readPublish message.1.sent <;>
    simp [writes, Occurrence.written?, found]

theorem upkeep_unpublished {extra : List Occurrence} (kept : ∀ o ∈ extra, upkeep o = true) :
    onWire extra = [] := by
  refine List.filterMap_eq_nil_iff.mpr fun bytes there => readPublish_other fun publishes => ?_
  obtain ⟨o, wrote, found⟩ := List.mem_filterMap.mp there
  have other := kept o wrote
  cases o with
  | wrote same write =>
    cases found
    rw [upkeep, namesTopic, publishes] at other
    cases other
  | _ => cases found

theorem tends_onWire {client later : Client capacity} (tends : Tends client later) :
    onWire later.trace = onWire client.trace := by
  obtain ⟨extra, grown, kept⟩ := tends
  rw [grown, onWire_append, upkeep_unpublished kept, List.append_nil]

section Sizes

variable (room : 3 ≤ capacity) (small : capacity ≤ 16386)

include room small

theorem handlerCall_onWire (client : Client capacity) (event : Event) (drawn : DrawnId)
    (tick : Int) (write : Write) :
    onWire (handlerCall client event drawn tick write).trace = onWire client.trace := by
  cases event with
  | connected =>
    by_cases connected : client.state = .connected
    next =>
      obtain ⟨outcome, message, called, built, calls⟩ :=
        handlerCall_called connected drawn tick write
      have unseen : readPublish message.1.sent = none := by
        rw [built]
        rcases build_type room small client.connection drawn subscription with failed | type
        · rw [failed]
          rfl
        · apply readPublish_other
          rw [type]
          rintro ⟨⟩
      rw [called, called_onWire calls rfl, unseen]
      exact List.append_nil _
    next => rw [handlerCall_apart connected]
  | _ => rfl

theorem publish_read (connection : MqttConnection capacity) (topic text : String) {qos : Nat}
    (level : qos < 4) (retain : Nat) (messageId : UInt16) (drawn : DrawnId) :
    readPublish (mqttMsgPublish connection (textBytes topic) (textBytes text) qos retain messageId
      drawn).1.sent = (CanMaster.mqttMsgPublish capacity topic text.length qos).map fun _ =>
        (textBytes topic, textBytes text) := by
  have length := publish_length room small connection topic text qos retain messageId drawn
  cases size : CanMaster.mqttMsgPublish capacity topic text.length qos with
  | none =>
    rw [size, Option.getD_none, List.length_eq_zero_iff] at length
    rw [length]
    rfl
  | some n =>
    rw [size, Option.getD_some] at length
    have positive := messageLength_pos size
    have sent : (mqttMsgPublish connection (textBytes topic) (textBytes text) qos retain messageId
        drawn).1.sent ≠ [] := by
      rw [← List.length_pos_iff, length]
      exact positive
    have named : textBytes topic ≠ [] := by
      intro unnamed
      rw [unnamed] at sent
      exact sent (failMessage_sent _)
    rw [mqttMsgPublish_sent room small connection named] at sent ⊢
    split at sent
    next fits =>
      have topicSmall : (textBytes topic).length < 65536 := by
        rw [publishBody_length] at fits
        omega
      rw [if_pos fits]
      exact readPublish_publish topicSmall _ level retain drawn
    next => exact absurd rfl sent

theorem textCall_onWire (client : Client capacity) (topic text : String) {qos : Nat}
    (level : qos < 4) (drawn : DrawnId) (tick : Int) (write : Write) :
    onWire (espMqttClientPublish client (textCall topic text qos drawn) tick write).2.trace =
      onWire client.trace ++
        if (attempt client topic text qos drawn write).connected ∧
            (attempt client topic text qos drawn write).fits then
          [(textBytes topic, textBytes text)]
        else [] := by
  by_cases connected : client.state = .connected
  next =>
    have here : (attempt client topic text qos drawn write).connected = true :=
      decide_eq_true connected
    have fits : (attempt client topic text qos drawn write).fits =
        (CanMaster.mqttMsgPublish capacity topic text.length qos).isSome := rfl
    have read := publish_read room small client.connection topic text level 0 0 drawn
    have called := textCall_called connected topic text qos drawn tick write
    have silent : writes (if 0 < qos then [requestOf (mqttMsgPublish client.connection
        (textBytes topic) (textBytes text) qos 0 0 drawn)] else []) = [] := by
      split <;> rfl
    rw [called_onWire called silent, here, fits, read]
    cases CanMaster.mqttMsgPublish capacity topic text.length qos <;> rfl
  next =>
    have apart : (attempt client topic text qos drawn write).connected = false :=
      decide_eq_false connected
    rw [publish_apart connected, apart]
    simp

end Sizes

abbrev Outcomes : Type := List (Option MasterRequest × Bool)

def noteOutcome (cJSONPrint : Json → String) (outcomes : Outcomes) (d : Whole capacity) :
    Act → Outcomes
  | .publish _ drawn _ write =>
      match d.app.tasks.mqttTransmitPc with
      | .publish request =>
          let tried := attemptOf cJSONPrint d request drawn write
          if d.app.client then outcomes ++ [(request, tried.connected && tried.fits)]
          else outcomes
      | _ => outcomes
  | _ => outcomes

def outcomeHistory (cJSONParse : List UInt8 → Option Json) (cJSONPrint : Json → String)
    (setup : Setup capacity) : System (Whole capacity × Outcomes) Act :=
  (device cJSONParse cJSONPrint setup).observed [] (noteOutcome cJSONPrint)

def sent (outcomes : Outcomes) : List (Option MasterRequest) :=
  (outcomes.filter Prod.snd).map Prod.fst

theorem sent_append (outcomes : Outcomes) (request : Option MasterRequest) (went : Bool) :
    sent (outcomes ++ [(request, went)]) = sent outcomes ++ if went then [request] else [] := by
  cases went <;> simp [sent]

def requestMessage (cJSONPrint : Json → String) (request : Option MasterRequest) :
    List UInt8 × List UInt8 :=
  (textBytes CanMaster.mqttRequestTopic, textBytes (requestText cJSONPrint request))

def WireHolds (cJSONPrint : Json → String) (d : Whole capacity) (outcomes : Outcomes) : Prop :=
  onWire d.client.trace = (sent outcomes).map (requestMessage cJSONPrint)

theorem wire_step (room : 3 ≤ capacity) (small : capacity ≤ 16386) {d next : Whole capacity}
    {a : Act} {outcomes : Outcomes}
    (stepped : WholeStep cJSONParse cJSONPrint setup d a next)
    (held : WireHolds cJSONPrint d outcomes) :
    WireHolds cJSONPrint next (noteOutcome cJSONPrint outcomes d a) := by
  cases stepped with
  | app a app away inner => exact held
  | task a client own sound created heard idle inner =>
    have same : onWire client.trace = onWire d.client.trace := by
      rcases task_tends room small own inner with tends | ⟨before, id, tends, -, grown⟩
      next => exact tends_onWire tends
      next =>
        rw [grown, onWire_append, tends_onWire tends]
        exact List.append_nil _
    exact same.trans held
  | callback stale drawn tick write event rest told sound idle =>
    exact (handlerCall_onWire room small _ _ _ _ _).trans held
  | publish tv drawn tick write request here sound created set honest =>
    have grown := textCall_onWire room small d.client CanMaster.mqttRequestTopic
      (requestText cJSONPrint request) (by decide : 2 < 4) drawn tick write
    simp only [noteOutcome, here, set, if_true]
    rw [WireHolds] at held ⊢
    have same (connected fits : Bool) : (if connected = true ∧ fits = true then
        [requestMessage cJSONPrint request] else []) =
          (if (connected && fits) = true then [request] else []).map
            (requestMessage cJSONPrint) := by
      cases connected <;> cases fits <;> rfl
    rw [sent_append, List.map_append, ← held, ← same]
    exact grown
  | noHandle tv drawn tick write request here sound created unset =>
    simp only [noteOutcome, here, unset, Bool.false_eq_true, if_false]
    exact held

theorem requests_on_wire (room : 3 ≤ capacity) (small : capacity ≤ 16386) {d : Whole capacity}
    {outcomes : Outcomes}
    (reached : (outcomeHistory cJSONParse cJSONPrint setup).Reachable (d, outcomes)) :
    WireHolds cJSONPrint d outcomes := by
  have start : WireHolds cJSONPrint (device cJSONParse cJSONPrint setup).init [] := rfl
  exact System.observed_invariant start
    (fun _ _ _ _ stepped held => wire_step room small (whole_listed stepped) held) reached

end Device
