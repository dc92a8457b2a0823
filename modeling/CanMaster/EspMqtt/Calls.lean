import CanMaster.EspMqtt.Session

set_option autoImplicit false

namespace EspMqtt

variable {capacity : Nat}

def requestOf (message : MqttConnection capacity × UInt16) : Occurrence :=
  .requested (mqttGetType message.1.outbound) message.2

structure Called (client : Client capacity) (outcome : Int × Client capacity)
    (message : MqttConnection capacity × UInt16) (requests : List Occurrence) (write : Write) :
    Prop where
  result : outcome.1 = if write.written ≤ 0 then -1 else (message.2.toNat : Int)
  connection : outcome.2.connection = message.1
  state : outcome.2.state = client.state
  phase : outcome.2.phase = client.phase
  waits : outcome.2.waitForPingResp = client.waitForPingResp
  tick : outcome.2.keepaliveTick =
    if write.written ≤ 0 then client.keepaliveTick else write.tick
  trace : outcome.2.trace = client.trace ++ (requests ++ [.wrote message.1.sent write])

theorem mqttWriteData_result (client : Client capacity) (write : Write) :
    (mqttWriteData client write).1 = !decide (write.written ≤ 0) := by
  rw [mqttWriteData]
  split <;> simp [*]

theorem written_called {client next : Client capacity}
    {message : MqttConnection capacity × UInt16} {requests : List Occurrence} (write : Write)
    (connection : next.connection = message.1) (state : next.state = client.state)
    (phase : next.phase = client.phase) (waits : next.waitForPingResp = client.waitForPingResp)
    (tick : next.keepaliveTick = client.keepaliveTick)
    (trace : next.trace = client.trace ++ requests) :
    Called client
      (if (mqttWriteData next write).1 then message.2.toNat else -1, (mqttWriteData next write).2)
      message requests write := by
  have fields := mqttWriteData_fields next write
  refine ⟨?_, ?_, ?_, ?_, ?_, ?_, ?_⟩
  next =>
    rw [mqttWriteData_result]
    by_cases failed : write.written ≤ 0 <;> simp [failed]
  next => rw [fields]; exact connection
  next => rw [fields]; exact state
  next => rw [fields]; exact phase
  next => rw [fields]; exact waits
  next => rw [fields, ← tick]
  next =>
    rw [fields, Client.note, trace, connection]
    exact List.append_assoc _ _ _

theorem topic_called {client : Client capacity} (connected : client.state = .connected)
    (build : MqttConnection capacity → UInt16 → MqttConnection capacity × UInt16) (tick : Int)
    (write : Write) :
    let message := build client.connection client.pendingMsgId
    Called client (espMqttClientTopic client build tick write) message [requestOf message] write := by
  intro message
  have turned : ¬ client.state ≠ .connected := not_not.mpr connected
  rw [espMqttClientTopic, if_neg turned, mqttEnqueue_fields]
  exact written_called write rfl rfl rfl rfl rfl rfl

theorem publish_called {client : Client capacity} (connected : client.state = .connected)
    (call : Publish) (tick : Int) (write : Write) :
    let message :=
      mqttMsgPublish client.connection call.topic call.payload call.qos call.retain 0 call.drawn
    Called client (espMqttClientPublish client call tick write) message
      (if 0 < call.qos then [requestOf message] else []) write := by
  intro message
  have turned : ¬ client.state ≠ .connected := not_not.mpr connected
  rw [espMqttClientPublish, if_neg turned]
  by_cases numbered : 0 < call.qos
  next =>
    simp only [numbered, if_true]
    rw [mqttEnqueue_fields]
    exact written_called write rfl rfl rfl rfl rfl rfl
  next =>
    simp only [numbered, if_false]
    exact written_called write rfl rfl rfl rfl rfl (List.append_nil _).symm

end EspMqtt
