import CanMaster.EspMqtt.Client
import CanMaster.EspMqtt.Packet
import CanMaster.EspMqtt.Session
import CanMaster.Payload.Fragments

set_option autoImplicit false

namespace EspMqtt

open ByteFields CanMaster

variable {capacity : Nat}

def Fragment.payload (fragment : Fragment) : Option (List UInt8) :=
  fragment.data.map fun place => (fragment.memory.drop place).take fragment.dataLen.toNat

def Fragment.bytes (fragment : Fragment) : List UInt8 := fragment.payload.getD []

def Fragment.topicBytes (fragment : Fragment) : List UInt8 :=
  match fragment.topic with
  | none => []
  | some place => (fragment.memory.drop place).take fragment.topicLen.toNat

-- What the pointers of the event show of the buffer when it is dispatched.
def Fragment.mqttEvent (fragment : Fragment) : MqttEvent where
  data := fragment.payload
  behind := match fragment.data with
    | none => []
    | some place => fragment.memory.drop (place + fragment.dataLen.toNat)
  currentDataOffset := fragment.currentDataOffset.toNat
  totalDataLen := fragment.totalDataLen.toNat

def Occurrence.fragment? : Occurrence → Option Fragment
  | .event (.data fragment) _ => some fragment
  | _ => none

def fragments (trace : List Occurrence) : List Fragment := trace.filterMap Occurrence.fragment?

theorem fragments_append (first second : List Occurrence) :
    fragments (first ++ second) = fragments first ++ fragments second :=
  List.filterMap_append

theorem toNat_small {n : Nat} (small : n < 2 ^ 32) : (UInt32.ofNat n).toNat = n :=
  UInt32.toNat_ofNat_of_lt' small

theorem write_front {b : Buffer capacity} {bytes : List UInt8} (inside : bytes.length ≤ capacity) :
    (b.write 0 bytes).bytes = bytes ++ b.bytes.drop bytes.length := by
  rw [Buffer.write_bytes (by omega), List.take_zero, List.nil_append, Nat.zero_add]

theorem transportRead_whole {client : Client capacity} {len : Nat} {bytes : List UInt8}
    (inside : bytes.length ≤ len) : transportRead client len (some bytes) =
      some (bytes.length,
        { client with inBuffer := client.inBuffer.write 0 bytes }.note (.received bytes)) := by
  simp only [transportRead, List.take_of_length_le inside]

section Round

variable {length lenRead : Nat} {messageLength : UInt32} {client : Client capacity}
  {delivering : Delivering}

def Delivering.after (delivering : Delivering) (fragment : Fragment) (lenRead : Nat) :
    Delivering where
  totalMqttLen := fragment.totalDataLen
  mqttOffset := delivering.mqttOffset + fragment.dataLen
  topic := fragment.topic
  topicLength := fragment.topicLen
  messageLengthRead := delivering.messageLengthRead + UInt32.ofNat lenRead

def nextPiece (client : Client capacity) (fragment : Fragment) (chunk : List UInt8) :
    Client capacity :=
  let told := espMqttDispatchEvent client (.data fragment)
  { told with inBuffer := told.inBuffer.write 0 chunk }.note (.received chunk)

theorem nextPiece_fragments (fragment : Fragment) (chunk : List UInt8) :
    fragments (nextPiece client fragment chunk).trace = fragments client.trace ++ [fragment] := by
  simp only [nextPiece, Client.note, espMqttDispatchEvent, fragments_append]
  simp [fragments, Occurrence.fragment?]

theorem deliverLoop_stop (read : messageLength ≤ delivering.messageLengthRead) (more : List Read) :
    deliverLoop length messageLength more client delivering lenRead = espMqttDispatchEvent client
      (.data (delivering.fragment client.inBuffer.bytes length messageLength lenRead)) := by
  rw [deliverLoop.eq_def]
  simp only [read, if_true]

theorem event_fragments (fragment : Fragment) :
    fragments (espMqttDispatchEvent client (.data fragment)).trace =
      fragments client.trace ++ [fragment] :=
  fragments_append _ _

theorem deliverLoop_next {chunk : List UInt8} {left : Nat}
    (asked : messageLength.toNat = delivering.messageLengthRead.toNat + left)
    (some : chunk ≠ []) (inside : chunk.length ≤ left) (fits : chunk.length ≤ capacity)
    (more : List Read) :
    deliverLoop length messageLength (.some chunk :: more) client delivering lenRead =
      deliverLoop length messageLength more
        (nextPiece client (delivering.fragment client.inBuffer.bytes length messageLength lenRead)
          chunk)
        (delivering.after
          (delivering.fragment client.inBuffer.bytes length messageLength lenRead) chunk.length)
        chunk.length := by
  have positive : 0 < chunk.length := List.length_pos_iff.mpr some
  have unread : ¬ messageLength ≤ delivering.messageLengthRead := by
    rw [UInt32.le_iff_toNat_le, asked]
    omega
  have rest : (messageLength - delivering.messageLengthRead).toNat = left := by
    rw [UInt32.toNat_sub_of_le _ _ (by rw [UInt32.le_iff_toNat_le, asked]; omega), asked]
    omega
  have brought : chunk.length ≤ min left capacity := by omega
  rw [deliverLoop.eq_def]
  simp only [unread, if_false, rest, transportRead_whole brought, Nat.ne_of_gt positive]
  rfl

end Round

theorem payload_bytes {fragment : Fragment} {bytes : List UInt8}
    (payload : fragment.payload = some bytes) : fragment.bytes = bytes := by
  rw [Fragment.bytes, payload, Option.getD_some]

theorem later_payload {delivering : Delivering} {memory last rest : List UInt8}
    (content : memory = last ++ rest) (going : delivering.totalMqttLen ≠ 0)
    (small : last.length < 2 ^ 32) (length : Nat) (messageLength : UInt32) :
    (delivering.fragment memory length messageLength last.length).payload = some last := by
  have long : (UInt32.ofNat last.length).toNat = last.length := toNat_small small
  rw [Delivering.fragment, if_neg going]
  simp only [Fragment.payload, Option.map_some, long, content, List.drop_zero, List.take_left']

theorem later_pieces {length : Nat} {messageLength : UInt32} {chunks : List (List UInt8)}
    {client : Client capacity} {delivering : Delivering} {last rest : List UInt8}
    (memory : client.inBuffer.bytes = last ++ rest) (going : delivering.totalMqttLen ≠ 0)
    (left : messageLength.toNat = delivering.messageLengthRead.toNat + chunks.flatten.length)
    (offset : delivering.mqttOffset.toNat + last.length + chunks.flatten.length < 2 ^ 32)
    (short : ∀ chunk ∈ chunks, chunk ≠ [] ∧ chunk.length ≤ capacity) (more : List Read) :
    ∃ new, fragments (deliverLoop length messageLength (chunks.map some ++ more) client delivering
        last.length).trace = fragments client.trace ++ new ∧
      new.map Fragment.payload = (last :: chunks).map some ∧
      Consecutive delivering.totalMqttLen.toNat delivering.mqttOffset.toNat
        (new.map Fragment.mqttEvent) := by
  induction chunks generalizing client delivering last rest with
  | nil =>
    have whole := later_payload memory going (by omega) length messageLength
    have read : messageLength ≤ delivering.messageLengthRead := by
      rw [UInt32.le_iff_toNat_le, left]
      simp
    refine ⟨[_], by rw [List.map_nil, List.nil_append, deliverLoop_stop read, event_fragments],
      by simp [whole], ?_⟩
    simp [Consecutive, Fragment.mqttEvent, Delivering.fragment, going]
  | cons chunk chunks ih =>
    obtain ⟨present, fits⟩ := short chunk List.mem_cons_self
    rw [List.flatten_cons, List.length_append] at left offset
    have whole := later_payload memory going (by omega) length messageLength
    have bound := messageLength.toNat_lt
    let fragment := delivering.fragment client.inBuffer.bytes length messageLength last.length
    have total : fragment.totalDataLen = delivering.totalMqttLen := by
      simp [fragment, Delivering.fragment, going]
    have dataLen : fragment.dataLen = UInt32.ofNat last.length := by
      simp [fragment, Delivering.fragment, going]
    have place : (delivering.after fragment chunk.length).mqttOffset.toNat =
        delivering.mqttOffset.toNat + last.length := by
      simp only [Delivering.after, dataLen, UInt32.toNat_add, UInt32.toNat_ofNat']
      omega
    have got : (delivering.after fragment chunk.length).messageLengthRead.toNat =
        delivering.messageLengthRead.toNat + chunk.length := by
      simp only [Delivering.after, UInt32.toNat_add, UInt32.toNat_ofNat']
      omega
    have still : (delivering.after fragment chunk.length).totalMqttLen ≠ 0 :=
      fun zero => going (total.symm.trans zero)
    have front : (nextPiece client fragment chunk).inBuffer.bytes = chunk ++ _ := write_front fits
    obtain ⟨new, grown, payloads, consecutive⟩ := ih front still (by omega) (by omega)
      fun other there => short other (List.mem_cons_of_mem chunk there)
    refine ⟨fragment :: new, ?_, ?_, ?_⟩
    next =>
      rw [List.map_cons, List.cons_append, deliverLoop_next left present (by omega) fits, grown,
        nextPiece_fragments, List.append_assoc]
      rfl
    next =>
      rw [List.map_cons, payloads]
      exact congrArg (· :: _) whole
    next =>
      have long : fragment.mqttEvent.bytes.length = last.length :=
        congrArg List.length (payload_bytes whole)
      have same : (delivering.after fragment chunk.length).totalMqttLen.toNat =
          delivering.totalMqttLen.toNat := congrArg UInt32.toNat total
      rw [same, place, ← long] at consecutive
      refine ⟨?_, congrArg UInt32.toNat total, consecutive⟩
      simp [fragment, Fragment.mqttEvent, Delivering.fragment, going]

theorem first_fragment (p : Publication) {length : Nat} (whole : p.head.length ≤ length)
    (rest : List UInt8) (messageLength : UInt32) :
    (Delivering.mk 0 0 none 0 (UInt32.ofNat length)).fragment (p.head ++ rest) length messageLength
        length =
      { data := if p.head.length < length then some p.head.length else none
        dataLen := UInt32.ofNat (min p.bytes.length length - p.head.length)
        totalDataLen := messageLength - UInt32.ofNat length +
          UInt32.ofNat (min p.bytes.length length - p.head.length)
        currentDataOffset := 0
        topic := if length ≤ p.topicStart then none else some p.topicStart
        topicLen := UInt32.ofNat (if length ≤ p.topicStart then length else p.topic.length)
        memory := p.head ++ rest } := by
  simp only [Delivering.fragment, if_true, p.getPublishTopic rest whole, p.getPublishData rest whole]
  split_ifs <;> rfl

structure FirstPiece (p : Publication) (length : Nat) (messageLength : UInt32)
    (piece : List UInt8) (fragment : Fragment) : Prop where
  -- The readers take a message that ends with its head for one that is cut off.
  payload : fragment.payload = if p.head.length < length then some piece else none
  bytes : fragment.bytes = piece
  dataLen : fragment.dataLen = UInt32.ofNat piece.length
  totalDataLen : fragment.totalDataLen =
    messageLength - UInt32.ofNat length + UInt32.ofNat piece.length
  offset : fragment.currentDataOffset = 0
  topic : fragment.topicBytes = p.topic

theorem first_piece (p : Publication) {length : Nat} {piece : List UInt8}
    (whole : p.head.length ≤ length) (short : length < 2 ^ 32)
    (part : min p.bytes.length length = p.head.length + piece.length) (rest : List UInt8)
    (messageLength : UInt32) :
    FirstPiece p length messageLength piece
      ((Delivering.mk 0 0 none 0 (UInt32.ofNat length)).fragment (p.head ++ (piece ++ rest)) length
        messageLength length) := by
  have pieceLong : (UInt32.ofNat piece.length).toNat = piece.length := toNat_small (by omega)
  have left : min p.bytes.length length - p.head.length = piece.length := by omega
  rw [first_fragment p whole, left]
  constructor
  next =>
    simp only [Fragment.payload, pieceLong]
    split_ifs <;> simp
  next =>
    simp only [Fragment.bytes, Fragment.payload, pieceLong]
    split_ifs
    next => simp
    next => exact (List.length_eq_zero_iff.mp (by omega)).symm
  next => rfl
  next => rfl
  next => rfl
  next =>
    by_cases bare : length ≤ p.topicStart
    next =>
      have inside := p.topicStart_le
      simp only [Fragment.topicBytes, bare, if_true]
      exact (List.length_eq_zero_iff.mp (by omega)).symm
    next =>
      have topicLong : (UInt32.ofNat p.topic.length).toNat = p.topic.length :=
        toNat_small (by have := p.topicSmall; omega)
      simp only [Fragment.topicBytes, bare, if_false, topicLong]
      exact p.head_topic _

theorem head_totalLength (p : Publication) {length : Nat} (whole : p.head.length ≤ length)
    (short : length < 65536) (rest : List UInt8) :
    mqttGetTotalLength (p.head ++ rest) length = UInt32.ofNat p.bytes.length := by
  rw [mqttGetTotalLength, Nat.mod_eq_of_lt short, p.head_remaining rest whole, Publication.bytes,
    controlPacket_length, Nat.add_comm]

theorem deliverPublish_pieces (p : Publication) {client : Client capacity}
    {piece rest : List UInt8} {chunks : List (List UInt8)}
    (memory : client.inBuffer.bytes = p.head ++ (piece ++ rest))
    (whole : piece ++ chunks.flatten = p.payload) (small : p.bytes.length < 2 ^ 28)
    (fits : (p.head ++ piece).length < 65536)
    (short : ∀ chunk ∈ chunks, chunk ≠ [] ∧ chunk.length ≤ capacity) (more : List Read) :
    ∃ first later, fragments (deliverPublish client (p.head ++ piece).length
        (mqttGetTotalLength client.inBuffer.bytes (p.head ++ piece).length)
        (chunks.map some ++ more)).trace = fragments client.trace ++ (first :: later) ∧
      FirstPiece p (p.head ++ piece).length (UInt32.ofNat p.bytes.length) piece first ∧
      later.map Fragment.payload = chunks.map some ∧
      Consecutive p.payload.length 0 ((first :: later).map Fragment.mqttEvent) := by
  have parts : p.payload.length = piece.length + chunks.flatten.length := by
    rw [← whole, List.length_append]
  have size := p.bytes_length
  let length := (p.head ++ piece).length
  have long : length = p.head.length + piece.length := List.length_append
  have inside : p.head.length ≤ length := by omega
  let start : Delivering := ⟨0, 0, none, 0, UInt32.ofNat length⟩
  let fragment := start.fragment client.inBuffer.bytes length (UInt32.ofNat p.bytes.length) length
  have total : mqttGetTotalLength client.inBuffer.bytes length = UInt32.ofNat p.bytes.length := by
    rw [memory]
    exact head_totalLength p inside fits _
  have first : FirstPiece p length (UInt32.ofNat p.bytes.length) piece fragment := by
    simp only [fragment, memory]
    exact first_piece p inside (by omega) (by omega) rest _
  have wholeLong : (UInt32.ofNat p.bytes.length).toNat = p.bytes.length :=
    toNat_small (by omega)
  have readLong : (UInt32.ofNat length).toNat = length := toNat_small (by omega)
  have pieceLong : (UInt32.ofNat piece.length).toNat = piece.length := toNat_small (by omega)
  have behind : UInt32.ofNat length ≤ UInt32.ofNat p.bytes.length := by
    rw [UInt32.le_iff_toNat_le, wholeLong, readLong]
    omega
  have all : fragment.totalDataLen.toNat = p.payload.length := by
    rw [first.totalDataLen]
    simp only [UInt32.toNat_add, UInt32.toNat_sub_of_le _ _ behind, wholeLong, readLong, pieceLong]
    omega
  rw [deliverPublish, total]
  cases chunks with
  | nil =>
    rw [List.flatten_nil, List.length_nil] at parts
    have read : UInt32.ofNat p.bytes.length ≤ start.messageLengthRead := by
      rw [UInt32.le_iff_toNat_le, wholeLong]
      exact readLong ▸ (by omega)
    refine ⟨fragment, [], by rw [deliverLoop_stop read, event_fragments], first, rfl, ?_⟩
    exact ⟨congrArg UInt32.toNat first.offset, all, trivial⟩
  | cons chunk chunks =>
    obtain ⟨present, fits⟩ := short chunk List.mem_cons_self
    have positive : 0 < chunk.length := List.length_pos_iff.mpr present
    rw [List.flatten_cons, List.length_append] at parts
    have asked : (UInt32.ofNat p.bytes.length).toNat =
        start.messageLengthRead.toNat + (chunk.length + chunks.flatten.length) := by
      rw [wholeLong, readLong]
      omega
    have place : (start.after fragment chunk.length).mqttOffset.toNat = piece.length := by
      simp only [Delivering.after, first.dataLen, UInt32.toNat_add, pieceLong, start]
      have small := (UInt32.ofNat piece.length).toNat_lt
      simpa [pieceLong] using small
    have got : (start.after fragment chunk.length).messageLengthRead.toNat =
        length + chunk.length := by
      simp only [Delivering.after, UInt32.toNat_add, UInt32.toNat_ofNat', start]
      omega
    have going : (start.after fragment chunk.length).totalMqttLen ≠ 0 := by
      intro zero
      have none := congrArg UInt32.toNat zero
      have some : fragment.totalDataLen.toNat = 0 := none
      omega
    have front : (nextPiece client fragment chunk).inBuffer.bytes = chunk ++ _ := write_front fits
    obtain ⟨later, grown, laterPayloads, consecutive⟩ := later_pieces front going
      (by rw [wholeLong, got]; omega) (by rw [place]; omega)
      (fun other there => short other (List.mem_cons_of_mem chunk there)) more
    refine ⟨fragment, later, ?_, first, laterPayloads, ?_⟩
    next =>
      rw [List.map_cons, List.cons_append, deliverLoop_next asked present (by omega) fits, grown,
        nextPiece_fragments, List.append_assoc]
      rfl
    next =>
      have shownLong : fragment.mqttEvent.bytes.length = piece.length :=
        congrArg List.length first.bytes
      have same : (start.after fragment chunk.length).totalMqttLen.toNat = p.payload.length := all
      rw [same, place, ← shownLong] at consecutive
      refine ⟨congrArg UInt32.toNat first.offset, all, ?_⟩
      rw [Nat.zero_add]
      exact consecutive

def Occurrence.written? : Occurrence → Option (List UInt8)
  | .wrote bytes _ => some bytes
  | _ => none

def writes (trace : List Occurrence) : List (List UInt8) := trace.filterMap Occurrence.written?

theorem writes_append (first second : List Occurrence) :
    writes (first ++ second) = writes first ++ writes second :=
  List.filterMap_append

theorem deliverLoop_writes (length : Nat) (messageLength : UInt32) (more : List Read)
    (client : Client capacity) (delivering : Delivering) (lenRead : Nat) :
    writes (deliverLoop length messageLength more client delivering lenRead).trace =
      writes client.trace := by
  have silent (client : Client capacity) {occurrence : Occurrence}
      (none : occurrence.written? = none) :
      writes (client.note occurrence).trace = writes client.trace := by
    simp [Client.note, writes, none]
  have told (client : Client capacity) (fragment : Fragment) :
      writes (espMqttDispatchEvent client (.data fragment)).trace = writes client.trace :=
    silent client rfl
  induction more generalizing client delivering lenRead with
  | nil =>
    rw [deliverLoop]
    split <;> exact told _ _
  | cons read more ih =>
    rw [deliverLoop]
    dsimp only
    split
    next => exact told _ _
    next =>
      split
      next => exact told _ _
      next n left got =>
        obtain ⟨bytes, -, -, rfl⟩ := transportRead_some got
        split
        next => exact (silent _ rfl).trans (told _ _)
        next => exact (ih _ _ _).trans ((silent _ rfl).trans (told _ _))

def Publication.reply (p : Publication) (drawn : DrawnId) : List (List UInt8) :=
  let id := bigEndian (givenId p.id drawn).toNat
  if p.qos.val = 1 then [controlPacket (fixedHeader MqttMessageType.puback.code 0 0 0) id]
  else if p.qos.val = 2 then [controlPacket (fixedHeader MqttMessageType.pubrec.code 0 0 0) id]
  else []

def replied (client : Client capacity) (p : Publication) (receipt : Receipt) : Client capacity :=
  if p.qos.val = 1 then
    reply client (mqttMsgPuback client.connection p.id receipt.drawn) receipt.write
  else if p.qos.val = 2 then
    reply client (mqttMsgPubrec client.connection p.id receipt.drawn) receipt.write
  else client

theorem replied_writes (client : Client capacity) (p : Publication) (room : 5 ≤ capacity)
    (receipt : Receipt) :
    (replied client p receipt).trace = client.trace ++
      (p.reply receipt.drawn).map (.wrote · receipt.write) ∧
    (replied client p receipt).inBuffer = client.inBuffer := by
  have fits : 3 + (bigEndian (givenId p.id receipt.drawn).toNat).length ≤ capacity := room
  have sent (type : MqttMessageType) := mqttMsgAcknowledge_sent (by omega) type 0 client.connection
    p.id receipt.drawn
  simp only [if_pos fits] at sent
  rw [replied, Publication.reply]
  split
  next =>
    rw [EspMqtt.reply, mqttWriteData_fields]
    exact ⟨congrArg (client.trace ++ [.wrote · receipt.write]) (sent .puback), rfl⟩
  next =>
    split
    next =>
      rw [EspMqtt.reply, mqttWriteData_fields]
      exact ⟨congrArg (client.trace ++ [.wrote · receipt.write]) (sent .pubrec), rfl⟩
    next => exact ⟨(List.append_nil _).symm, rfl⟩

theorem processMessage_publish {client : Client capacity} {p : Publication} {rest : List UInt8}
    (memory : client.inBuffer.bytes = p.head ++ rest) (inside : p.head.length < capacity)
    (bounded : capacity < 65536) (readLen : Nat) (receipt : Receipt) :
    processMessage client readLen receipt = deliverPublish (replied client p receipt) readLen
      (mqttGetTotalLength client.inBuffer.bytes readLen) receipt.more := by
  have type : mqttGetType client.inBuffer.bytes = MqttMessageType.publish.code := by
    rw [memory, p.head_type]
  have level : mqttGetQos client.inBuffer.bytes = p.qos := by rw [memory, p.head_qos]
  have id : mqttGetId client.inBuffer.bytes capacity = if 0 < p.qos then p.id else 0 := by
    rw [memory, p.getId rest inside bounded]
  have found : MqttMessageType.ofCode MqttMessageType.publish.code = some .publish := rfl
  rw [processMessage, type, found, id]
  simp only [processPublish, level, replied]
  by_cases one : p.qos.val = 1
  next =>
    have positive : 0 < p.qos := Fin.lt_def.mpr (by rw [one]; decide)
    simp [one, positive]
  next =>
    by_cases two : p.qos.val = 2
    next =>
      have positive : 0 < p.qos := Fin.lt_def.mpr (by rw [two]; decide)
      simp [two, positive]
    next => simp only [one, two, if_false]

theorem processReceive_publish (client : Client capacity) {p : Publication} {piece : List UInt8}
    {receipt : Receipt} (read : receipt.read = some (p.head ++ piece))
    (inside : p.head.length < capacity) (fits : (p.head ++ piece).length ≤ capacity)
    (bounded : capacity < 65536) :
    let got := { client with inBuffer := client.inBuffer.write 0 (p.head ++ piece) }.note
      (.received (p.head ++ piece))
    mqttProcessReceive client receipt = some (deliverPublish (replied got p receipt)
      (p.head ++ piece).length (mqttGetTotalLength got.inBuffer.bytes (p.head ++ piece).length)
      receipt.more) := by
  intro got
  have long : (p.head ++ piece).length = p.head.length + piece.length := List.length_append
  have head := p.head_length
  have front := headerLength_pos p.body
  have present : (p.head ++ piece).length ≠ 0 := by
    simp only [Publication.topicStart] at head
    omega
  have memory : got.inBuffer.bytes = p.head ++ (piece ++ _) :=
    (write_front fits).trans (List.append_assoc _ _ _)
  rw [mqttProcessReceive, read, transportRead_whole fits]
  dsimp only
  rw [if_neg present]
  exact congrArg some (processMessage_publish memory inside bounded _ receipt)

theorem receive_delivery {client : Client capacity} {p : Publication} {piece : List UInt8}
    {chunks : List (List UInt8)} {receipt : Receipt} (read : receipt.read = some (p.head ++ piece))
    {more : List Read} (later : receipt.more = chunks.map some ++ more)
    (whole : piece ++ chunks.flatten = p.payload) (inside : p.head.length < capacity)
    (fits : (p.head ++ piece).length ≤ capacity)
    (short : ∀ chunk ∈ chunks, chunk ≠ [] ∧ chunk.length ≤ capacity) (bounded : capacity < 65536)
    (small : p.bytes.length < 2 ^ 28) :
    ∃ next new, mqttProcessReceive client receipt = some next ∧
      writes next.trace = writes client.trace ++ p.reply receipt.drawn ∧
      fragments next.trace = fragments client.trace ++ new ∧
      new.head?.map Fragment.topicBytes = some p.topic ∧
      new.map Fragment.payload = (if piece = [] then none else some piece) :: chunks.map some ∧
      ∀ (cJSONParse : List UInt8 → Option Json) (document : Json),
        cJSONParse (CanMaster.cString p.payload) = some document →
        ∃ delivery : Delivery cJSONParse, delivery.payload = p.payload ∧
          delivery.document = document ∧ delivery.events = new.map Fragment.mqttEvent := by
  have received := processReceive_publish client read inside fits bounded
  let got := { client with inBuffer := client.inBuffer.write 0 (p.head ++ piece) }.note
    (.received (p.head ++ piece))
  have long : (p.head ++ piece).length = p.head.length + piece.length := List.length_append
  have head := p.head_length
  have front := headerLength_pos p.body
  obtain ⟨grown, same⟩ := replied_writes got p
    (by simp only [Publication.topicStart] at head; omega) receipt
  have memory : (replied got p receipt).inBuffer.bytes =
      p.head ++ (piece ++ client.inBuffer.bytes.drop (p.head ++ piece).length) := by
    rw [same]
    exact (write_front fits).trans (List.append_assoc _ _ _)
  obtain ⟨first, rest, told, shown, payloads, consecutive⟩ :=
    deliverPublish_pieces p memory whole small (by omega) short more
  rw [same, ← later] at told
  refine ⟨_, first :: rest, received, ?_, ?_, by simp [shown.topic], ?_, ?_⟩
  next =>
    rw [deliverPublish, deliverLoop_writes, grown, writes_append]
    have wrote : writes ((p.reply receipt.drawn).map (.wrote · receipt.write)) =
        p.reply receipt.drawn := by
      simp [writes, List.filterMap_map, Function.comp_def, Occurrence.written?]
    rw [wrote]
    simp [got, Client.note, writes, Occurrence.written?]
  next =>
    have none : fragments ((p.reply receipt.drawn).map (.wrote · receipt.write)) = [] := by
      simp [fragments, List.filterMap_map, Function.comp_def, Occurrence.fragment?]
    rw [told, grown, fragments_append, none, List.append_nil]
    simp [got, Client.note, fragments, Occurrence.fragment?]
  next =>
    rw [List.map_cons, payloads, shown.payload, long]
    simp [List.length_pos_iff, ite_not]
  next =>
    intro cJSONParse document parsed
    have bytes : rest.map Fragment.bytes = chunks := by
      calc rest.map Fragment.bytes = (rest.map Fragment.payload).map (·.getD []) := by
            rw [List.map_map]
            rfl
        _ = (chunks.map some).map (·.getD []) := by rw [payloads]
        _ = chunks := by simp [Function.comp_def]
    exact ⟨{
      payload := p.payload
      document := document
      parsed := parsed
      events := (first :: rest).map Fragment.mqttEvent
      nonempty := by simp
      pieces := by
        have joined : ((first :: rest).map Fragment.bytes).flatten = p.payload := by
          rw [List.map_cons, shown.bytes, bytes, List.flatten_cons, whole]
        rw [← joined, List.flatMap_map]
        rfl
      consecutive := consecutive }, rfl, rfl, rfl⟩

theorem braces_topic : ([114] : List UInt8).length < 65536 := by decide

theorem braces_qos : 2 < 4 := by decide

def braces : Publication where
  dup := ⟨0, Nat.zero_lt_two⟩
  qos := ⟨2, braces_qos⟩
  retain := ⟨0, Nat.zero_lt_two⟩
  topic := [114]
  id := 7
  payload := [123, 125]
  topicSmall := braces_topic

theorem braces_head : braces.head = [0x34, 7, 0, 1, 114, 0, 7] := by
  rw [Publication.head, lengthBytes, if_pos (by decide)]
  rfl

def inPieces : Receipt := ⟨some (braces.head ++ []), ⟨4, 0⟩, drawnId, [some [123], some [125]]⟩

theorem receive_delivery_braces : ∃ next new,
    mqttProcessReceive (espMqttClientInit firmwareSetup) inPieces = some next ∧
    writes next.trace = braces.reply drawnId ∧ fragments next.trace = new ∧
    new.head?.map Fragment.topicBytes = some [114] ∧
    new.map Fragment.payload = [none, some [123], some [125]] ∧
    ∃ delivery : Delivery Json.read, delivery.payload = [123, 125] ∧
      delivery.document = .object [] ∧ delivery.events = new.map Fragment.mqttEvent := by
  have size : braces.bytes.length = 9 := by
    rw [braces.bytes_length, braces_head]
    rfl
  have inside : braces.head.length < bufferSize mqttCfg := by
    rw [braces_head]
    decide
  have fits : (braces.head ++ []).length ≤ bufferSize mqttCfg := by
    rw [braces_head]
    decide
  obtain ⟨next, new, received, wrote, told, topic, payloads, delivered⟩ :=
    @receive_delivery _ (espMqttClientInit firmwareSetup) braces [] [[123], [125]] inPieces rfl []
      rfl rfl inside fits (by decide) (by decide) (by rw [size]; decide)
  exact ⟨next, new, received, wrote, told, topic, payloads, delivered Json.read _ rfl⟩

/-- Where more than one message has come with a read, the first is told of as a whole and replied
to, and the others are lost. The total length that the event names is too small by theirs. -/
theorem receive_overrun (client : Client capacity) {p : Publication} {extra : List UInt8}
    {receipt : Receipt} (read : receipt.read = some (p.bytes ++ extra))
    (inside : p.head.length < capacity) (fits : (p.bytes ++ extra).length ≤ capacity)
    (small : capacity < 65536) :
    ∃ next fragment, mqttProcessReceive client receipt = some next ∧
      next.trace = client.trace ++ .received (p.bytes ++ extra) ::
        ((p.reply receipt.drawn).map (.wrote · receipt.write) ++
          [.event (.data fragment) (if 0 < p.qos then p.id else 0)]) ∧
      fragment.topicBytes = p.topic ∧
      fragment.payload = (if p.payload ++ extra = [] then none else some p.payload) ∧
      fragment.currentDataOffset = 0 ∧
      fragment.totalDataLen = UInt32.ofNat p.payload.length - UInt32.ofNat extra.length := by
  have split : p.bytes ++ extra = p.head ++ (p.payload ++ extra) := by
    rw [p.bytes_eq, List.append_assoc]
  rw [split] at read fits ⊢
  have size := p.bytes_length
  let length := (p.head ++ (p.payload ++ extra)).length
  have long : length = p.bytes.length + extra.length := by
    simp only [length, List.length_append]
    omega
  have received := processReceive_publish client read inside fits small
  let got := { client with
    inBuffer := client.inBuffer.write 0 (p.head ++ (p.payload ++ extra)) }.note
      (.received (p.head ++ (p.payload ++ extra)))
  have head := p.head_length
  have front := headerLength_pos p.body
  obtain ⟨grown, same⟩ := replied_writes got p
    (by simp only [Publication.topicStart] at head; omega) receipt
  let rest := extra ++ client.inBuffer.bytes.drop length
  have memory : got.inBuffer.bytes = p.head ++ (p.payload ++ rest) := by
    simp only [rest, ← List.append_assoc]
    rw [List.append_assoc p.head]
    exact write_front fits
  have total : mqttGetTotalLength got.inBuffer.bytes length = UInt32.ofNat p.bytes.length := by
    rw [memory]
    exact head_totalLength p (by omega) (by omega) _
  let start : Delivering := ⟨0, 0, none, 0, UInt32.ofNat length⟩
  let fragment := start.fragment got.inBuffer.bytes length (UInt32.ofNat p.bytes.length) length
  have first : FirstPiece p length (UInt32.ofNat p.bytes.length) p.payload fragment := by
    simp only [fragment, memory]
    exact first_piece p (by omega) (by omega) (by omega) rest _
  have stops : UInt32.ofNat p.bytes.length ≤ start.messageLengthRead := by
    simp only [start, UInt32.le_iff_toNat_le]
    rw [toNat_small (by omega), toNat_small (by omega)]
    omega
  have told : deliverPublish (replied got p receipt) length
      (mqttGetTotalLength got.inBuffer.bytes length) receipt.more =
      espMqttDispatchEvent (replied got p receipt) (.data fragment) := by
    rw [deliverPublish, total, deliverLoop_stop stops, same]
  have id : mqttGetId (replied got p receipt).inBuffer.bytes capacity =
      if 0 < p.qos then p.id else 0 := by
    rw [same, memory, p.getId _ inside small]
  refine ⟨_, fragment, received.trans (congrArg some told), ?_, first.topic, ?_, first.offset, ?_⟩
  next =>
    have grew : (espMqttDispatchEvent (replied got p receipt) (.data fragment)).trace =
        (replied got p receipt).trace ++ [.event (.data fragment)
          (mqttGetId (replied got p receipt).inBuffer.bytes capacity)] := rfl
    rw [grew, grown, id]
    simp [got, Client.note]
  next =>
    have behind : p.head.length < length ↔ ¬ p.payload ++ extra = [] := by
      rw [← ne_eq, ← List.length_pos_iff, List.length_append]
      omega
    rw [first.payload]
    simp only [behind, ite_not]
  next =>
    rw [first.totalDataLen, long]
    have bytesLong : (UInt32.ofNat p.bytes.length).toNat = p.bytes.length := toNat_small (by omega)
    have extraLong : (UInt32.ofNat extra.length).toNat = extra.length := toNat_small (by omega)
    have allLong : (UInt32.ofNat (p.bytes.length + extra.length)).toNat =
        p.bytes.length + extra.length := toNat_small (by omega)
    have payloadLong : (UInt32.ofNat p.payload.length).toNat = p.payload.length :=
      toNat_small (by omega)
    rw [← UInt32.toNat_inj]
    simp only [UInt32.toNat_add, UInt32.toNat_sub, bytesLong, extraLong, allLong, payloadLong]
    omega

def together : Receipt := ⟨some (braces.bytes ++ [0xd0, 0]), ⟨4, 0⟩, drawnId, []⟩

theorem receive_overrun_braces : ∃ next fragment,
    mqttProcessReceive (espMqttClientInit firmwareSetup) together = some next ∧
      next.trace = [] ++ .received (braces.bytes ++ [0xd0, 0]) ::
        ((braces.reply drawnId).map (.wrote · ⟨4, 0⟩) ++ [.event (.data fragment) 7]) ∧
      fragment.topicBytes = [114] ∧ fragment.payload = some [123, 125] ∧
      fragment.currentDataOffset = 0 ∧ fragment.totalDataLen = 0 := by
  have inside : braces.head.length < bufferSize mqttCfg := by
    rw [braces_head]
    decide
  have fits : (braces.bytes ++ [0xd0, 0]).length ≤ bufferSize mqttCfg := by
    rw [Publication.bytes_eq, braces_head]
    decide
  exact receive_overrun _ rfl inside fits (by decide)

end EspMqtt
