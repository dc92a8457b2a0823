import CanMaster.EspMqtt.Reader

set_option autoImplicit false

namespace EspMqtt

open ByteFields

def controlPacket (header : UInt8) (body : List UInt8) : List UInt8 :=
  header :: (lengthBytes body.length ++ body)

theorem byteAt_append (front rest : List UInt8) (i : Nat) :
    byteAt (front ++ rest) (front.length + i) = byteAt rest i := by
  rw [byteAt, byteAt, List.getD_eq_getElem?_getD, List.getD_eq_getElem?_getD,
    List.getElem?_append_right (by omega), Nat.add_sub_cancel_left]

theorem bigEndian_at (front rest : List UInt8) {n : Nat} (small : n < 65536) :
    readBigEndian (byteAt (front ++ (bigEndian n ++ rest)) front.length)
      (byteAt (front ++ (bigEndian n ++ rest)) (front.length + 1)) = n := by
  have first := byteAt_append front (bigEndian n ++ rest) 0
  rw [Nat.add_zero] at first
  rw [first, byteAt_append]
  exact readBigEndian_bigEndian small

theorem fixedHeader_fields (type dup qos retain : Nat) (rest : List UInt8) :
    mqttGetType (fixedHeader type dup qos retain :: rest) = type % 16 ∧
      mqttGetDup (fixedHeader type dup qos retain :: rest) = dup % 2 ∧
      mqttGetQos (fixedHeader type dup qos retain :: rest) = qos % 4 ∧
      mqttGetRetain (fixedHeader type dup qos retain :: rest) = retain % 2 := by
  have nibble : type &&& 0x0f = type % 16 := Nat.and_two_pow_sub_one_eq_mod type 4
  have mark : dup &&& 1 = dup % 2 := Nat.and_two_pow_sub_one_eq_mod dup 1
  have level : qos &&& 3 = qos % 4 := Nat.and_two_pow_sub_one_eq_mod qos 2
  have last : retain &&& 1 = retain % 2 := Nat.and_two_pow_sub_one_eq_mod retain 1
  have every : ∀ (t : Fin 16) (d : Fin 2) (q : Fin 4) (r : Fin 2),
      let header := UInt8.ofNat ((t : Nat) <<< 4 ||| (d : Nat) <<< 3 ||| (q : Nat) <<< 1 ||| r)
      (header.toNat &&& 0xf0) >>> 4 = t ∧ (header.toNat &&& 0x08) >>> 3 = d ∧
        (header.toNat &&& 0x06) >>> 1 = q ∧ header.toNat &&& 0x01 = r := by
    decide +kernel
  have here := every ⟨type % 16, Nat.mod_lt _ (by decide)⟩ ⟨dup % 2, Nat.mod_lt _ (by decide)⟩
    ⟨qos % 4, Nat.mod_lt _ (by decide)⟩ ⟨retain % 2, Nat.mod_lt _ (by decide)⟩
  simp only [fixedHeader, nibble, mark, level, last]
  exact here

theorem lengthLoop_eq {bytes : List UInt8} {n k : Nat} (found : readLength bytes = some (n, k))
    (i : Nat) : lengthLoop bytes (i + 1) = (n <<< (7 * i), i + 1 + k) := by
  induction bytes generalizing n k i with
  | nil => cases found
  | cons byte rest ih =>
    simp only [readLength] at found
    by_cases mark : marked byte = true
    next =>
      simp only [mark, if_true, Option.map_eq_some_iff, Prod.exists, Prod.mk.injEq] at found
      obtain ⟨m, j, later, rfl, rfl⟩ := found
      have power : 2 ^ (7 * (i + 1)) = 128 * 2 ^ (7 * i) := by
        rw [Nat.mul_add, Nat.pow_add]
        omega
      simp only [lengthLoop, mark, if_true, ih later (i + 1), Nat.shiftLeft_eq,
        Nat.add_sub_cancel, power, Prod.mk.injEq]
      constructor
      · rw [Nat.add_mul, Nat.mul_comm 128 m, Nat.mul_assoc]
      · omega
    next =>
      simp only [mark, Bool.false_eq_true, if_false, Option.some.injEq, Prod.mk.injEq] at found
      obtain ⟨rfl, rfl⟩ := found
      simp [lengthLoop, mark]

def headerLength (body : List UInt8) : Nat := 1 + (lengthBytes body.length).length

theorem headerLength_pos (body : List UInt8) : 1 < headerLength body := by
  have := lengthBytes_length_pos body.length
  unfold headerLength
  omega

theorem controlPacket_length (header : UInt8) (body : List UInt8) :
    (controlPacket header body).length = headerLength body + body.length := by
  simp only [controlPacket, headerLength, List.length_cons, List.length_append]
  omega

theorem remainingLength_lengthBytes (header : UInt8) (n : Nat) (rest : List UInt8) {length : Nat}
    (whole : 1 + (lengthBytes n).length ≤ length) :
    remainingLength (header :: (lengthBytes n ++ rest)) length =
      (n, 1 + (lengthBytes n).length) := by
  obtain ⟨more, rfl⟩ : ∃ more, length = (lengthBytes n).length + more + 1 :=
    ⟨length - (lengthBytes n).length - 1, by omega⟩
  have found := readLength_lengthBytes n (rest.take more)
  have loop := lengthLoop_eq found 0
  rw [remainingLength, List.take_succ_cons, List.drop_succ_cons, List.drop_zero,
    List.take_length_add_append, loop]
  simp

/-- What a PUBLISH carries. Its identifier is there when the quality of service is not zero. -/
structure Publication where
  dup : Fin 2
  qos : Fin 4
  retain : Fin 2
  topic : List UInt8
  id : UInt16
  payload : List UInt8
  topicSmall : topic.length < 65536

namespace Publication

variable (p : Publication)

def idBytes : List UInt8 := if 0 < p.qos then bigEndian p.id.toNat else []

def body : List UInt8 := field p.topic ++ p.idBytes ++ p.payload

def header : UInt8 := fixedHeader MqttMessageType.publish.code p.dup p.qos p.retain

def bytes : List UInt8 := controlPacket p.header p.body

def head : List UInt8 := p.header :: (lengthBytes p.body.length ++ (field p.topic ++ p.idBytes))

def topicStart : Nat := headerLength p.body + 2

theorem bytes_eq : p.bytes = p.head ++ p.payload := by
  simp [bytes, controlPacket, body, head, List.append_assoc]

theorem idBytes_length : p.idBytes.length = if 0 < p.qos then 2 else 0 := by
  unfold idBytes
  split <;> rfl

theorem head_length : p.head.length = p.topicStart + p.topic.length + p.idBytes.length := by
  simp only [head, topicStart, headerLength, List.length_cons, List.length_append, field_length]
  omega

theorem bytes_length : p.bytes.length = p.head.length + p.payload.length := by
  rw [bytes_eq, List.length_append]

theorem topicStart_le : p.topicStart + p.topic.length ≤ p.head.length := by
  rw [head_length]
  omega

theorem head_remaining (rest : List UInt8) {length : Nat} (whole : p.head.length ≤ length) :
    remainingLength (p.head ++ rest) length = (p.body.length, headerLength p.body) := by
  have inside := p.head_length
  rw [head, List.cons_append, List.append_assoc]
  exact remainingLength_lengthBytes p.header p.body.length _ (by
    simp only [topicStart, headerLength] at inside
    omega)

theorem head_split : ∃ front, front.length = headerLength p.body ∧
    p.head = front ++ (field p.topic ++ p.idBytes) := by
  refine ⟨p.header :: lengthBytes p.body.length, ?_, by simp [head]⟩
  simp only [headerLength, List.length_cons]
  omega

theorem head_topicLength (rest : List UInt8) :
    topicLength (p.head ++ rest) (headerLength p.body) = p.topic.length := by
  obtain ⟨front, long, split⟩ := p.head_split
  rw [topicLength, ← long, split, field, List.append_assoc, List.append_assoc, List.append_assoc]
  exact bigEndian_at front _ p.topicSmall

theorem head_qos (rest : List UInt8) : mqttGetQos (p.head ++ rest) = p.qos := by
  rw [head, List.cons_append, header, (fixedHeader_fields _ _ _ _ _).2.2.1]
  exact Nat.mod_eq_of_lt p.qos.isLt

theorem head_type (rest : List UInt8) :
    mqttGetType (p.head ++ rest) = MqttMessageType.publish.code := by
  rw [head, List.cons_append, header, (fixedHeader_fields _ _ _ _ _).1]
  rfl

theorem head_topic (rest : List UInt8) :
    ((p.head ++ rest).drop p.topicStart).take p.topic.length = p.topic := by
  obtain ⟨front, long, split⟩ := p.head_split
  have place : p.topicStart = front.length + 2 := by rw [topicStart, long]
  rw [place, split, List.append_assoc, ← List.drop_drop, List.drop_left' rfl, field,
    List.append_assoc, List.append_assoc, List.drop_left' (bigEndian_length _), List.take_left' rfl]

variable {length : Nat} (rest : List UInt8)

theorem getPublishTopic (whole : p.head.length ≤ length) :
    mqttGetPublishTopic (p.head ++ rest) length =
      if length ≤ p.topicStart then none else some (p.topicStart, p.topic.length) := by
  have inside := p.topicStart_le
  have named : ¬ length < headerLength p.body + 2 + p.topic.length := by
    simp only [topicStart] at inside
    omega
  rw [mqttGetPublishTopic, head_remaining p rest whole]
  simp only [head_topicLength, named, if_false]
  rfl

theorem afterHead :
    afterVariableHeader (p.head ++ rest) length (headerLength p.body) =
      if p.head.length < length then some p.head.length else none := by
  have long := p.head_length
  have ids := p.idBytes_length
  simp only [topicStart] at long
  simp only [afterVariableHeader, head_topicLength, head_qos]
  by_cases numbered : 0 < p.qos
  next =>
    have counted : 0 < (p.qos : Nat) := numbered
    rw [if_pos numbered] at ids
    have place : p.head.length = headerLength p.body + 2 + p.topic.length + 2 := by omega
    simp only [counted, if_true, place]
    split_ifs <;> first | rfl | omega
  next =>
    have free : ¬ 0 < (p.qos : Nat) := numbered
    rw [if_neg numbered] at ids
    have place : p.head.length = headerLength p.body + 2 + p.topic.length := by omega
    simp only [free, if_false, place]
    split_ifs <;> first | rfl | omega

theorem getPublishData (whole : p.head.length ≤ length) :
    mqttGetPublishData (p.head ++ rest) length =
      (if p.head.length < length then some p.head.length else none,
        min p.bytes.length length - p.head.length) := by
  have total : p.body.length + headerLength p.body = p.bytes.length := by
    rw [bytes, controlPacket_length, Nat.add_comm]
  have behind : ¬ p.bytes.length < p.head.length := by
    rw [bytes_length]
    omega
  rw [mqttGetPublishData, head_remaining p rest whole]
  simp only [afterHead p rest, total]
  by_cases more : p.head.length < length
  next =>
    simp only [more, if_true, behind, if_false, Prod.mk.injEq, true_and]
    split <;> omega
  next =>
    simp only [more, if_false, Prod.mk.injEq, true_and]
    omega

theorem getId (more : p.head.length < length) (short : length < 65536) :
    mqttGetId (p.head ++ rest) length = if 0 < p.qos then p.id else 0 := by
  have long := p.head_length
  have ids := p.idBytes_length
  simp only [topicStart] at long
  have some : ¬ length < 1 := by omega
  have room : ¬ length ≤ headerLength p.body + 2 := by omega
  have named : ¬ length ≤ headerLength p.body + 2 + p.topic.length := by omega
  simp only [mqttGetId, Nat.mod_eq_of_lt short]
  rw [if_neg some, if_pos (p.head_type rest), publishId,
    head_remaining p rest (Nat.le_of_lt more)]
  simp only [room, if_false, head_topicLength, named, head_qos]
  by_cases numbered : 0 < p.qos
  next =>
    have counted : 0 < (p.qos : Nat) := numbered
    rw [if_pos numbered] at ids
    have told : ¬ length ≤ headerLength p.body + 2 + p.topic.length + 2 := by omega
    simp only [counted, if_true, told, if_false, numbered]
    obtain ⟨front, frontLong, split⟩ := p.head_split
    have place : headerLength p.body + 2 + p.topic.length = (front ++ field p.topic).length := by
      simp only [List.length_append, frontLong, field_length]
      omega
    have memory : p.head ++ rest =
        (front ++ field p.topic) ++ (bigEndian p.id.toNat ++ rest) := by
      simp only [split, idBytes, if_pos numbered, List.append_assoc]
    have value := bigEndian_at (front ++ field p.topic) rest p.id.toNat_lt
    rw [messageIdAt, memory, place, value, UInt16.ofNat_toNat]
  next =>
    have free : ¬ 0 < (p.qos : Nat) := numbered
    simp only [free, if_false, numbered]

end Publication

end EspMqtt
