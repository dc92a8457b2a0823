import CanMaster.Downlink.Reporting

set_option autoImplicit false

namespace CanMaster

open Transition

inductive Origin where
  | response
  | pending
  deriving DecidableEq

-- The frames for which `can_transmit` has been called, the origins of the one in the hands of
-- `can_transmit_task` and of those in `txCanQueue`, and the frames that the responses ask for.
structure Outgoing where
  called : List (Origin × CanMsgTimestamped)
  hand : List Origin
  queued : List Origin
  asked : List CanMsgTimestamped

def framesOf (ops : List MqttOp) : List CanMsgTimestamped :=
  ops.filterMap fun
    | .sendFrame frame => some frame
    | _ => none

def noteOutgoing (outgoing : Outgoing) (s : State) : Action → Outgoing
  | .canTransmit _ =>
      match s.canTransmitPc with
      | .receive =>
          { outgoing with hand := outgoing.queued.take 1, queued := outgoing.queued.drop 1 }
      | .transmit frame =>
          { outgoing with called := outgoing.called ++ outgoing.hand.map (·, frame), hand := [] }
      | _ => outgoing
  | .obdWait _ =>
      match s.obdWaitPc with
      | .sendPending _ => { outgoing with queued := outgoing.queued ++ [.pending] }
      | _ => outgoing
  | .mqttClient jdata stale =>
      match s.mqttPending with
      | [] => { outgoing with asked := outgoing.asked ++ framesOf (mqttApply stale jdata) }
      | .sendFrame _ :: _ => { outgoing with queued := outgoing.queued ++ [.response] }
      | _ => outgoing
  | _ => outgoing

def Outgoing.sent (outgoing : Outgoing) (s : State) : List (Origin × CanMsgTimestamped) :=
  outgoing.called ++ (outgoing.hand.zip (transmitting s.canTransmitPc) ++
    outgoing.queued.zip (s.txCanQueue.items.map withoutFlags))

def ofResponses (frames : List (Origin × CanMsgTimestamped)) : List CanMsgTimestamped :=
  (frames.filter fun p => p.1 = .response).map Prod.snd

structure Matched (s : State) (outgoing : Outgoing) : Prop where
  hand : outgoing.hand.length = (transmitting s.canTransmitPc).length
  queued : outgoing.queued.length = s.txCanQueue.items.length

def IsPending (frame : CanMsgTimestamped) : Prop := ∃ stale, frame = responsePending stale

structure Explained (s : State) (outgoing : Outgoing) : Prop where
  matched : Matched s outgoing
  timer : ∀ frame, s.obdWaitPc = .sendPending frame → IsPending frame
  pendings : ∀ frame, (.pending, frame) ∈ outgoing.sent s → IsPending frame
  responses : outgoing.asked.map withoutFlags =
    ofResponses (outgoing.sent s) ++ (framesOf s.mqttPending).map withoutFlags

def queues (s : State) : Action → List (Origin × CanMsgTimestamped)
  | .obdWait _ =>
      match s.obdWaitPc with
      | .sendPending frame => [(.pending, withoutFlags frame)]
      | _ => []
  | .mqttClient _ _ =>
      match s.mqttPending with
      | .sendFrame frame :: _ => [(.response, withoutFlags frame)]
      | _ => []
  | _ => []

theorem withoutFlags_pending (stale : CanMsgTimestamped) :
    withoutFlags (responsePending stale) = responsePending stale := rfl

theorem ofResponses_append (first second : List (Origin × CanMsgTimestamped)) :
    ofResponses (first ++ second) = ofResponses first ++ ofResponses second := by
  simp [ofResponses]

theorem outgoing_other {s t : State} {a : Action} (outgoing : Outgoing) (stepped : Step s a t)
    (other : ∀ accepted, a ≠ .canTransmit accepted) :
    t.canTransmitPc = s.canTransmitPc ∧ (noteOutgoing outgoing s a).called = outgoing.called ∧
      (noteOutgoing outgoing s a).hand = outgoing.hand ∧
      (noteOutgoing outgoing s a).queued = outgoing.queued ++ (queues s a).map Prod.fst ∧
      t.txCanQueue.items.map withoutFlags =
        s.txCanQueue.items.map withoutFlags ++ (queues s a).map Prod.snd := by
  cases stepped with
  | dequeueTx | takeCanTx | transmitted | postCanTransmitted => exact absurd rfl (other _)
  | _ => simp_all [noteOutgoing, queues]

theorem outgoing_transmit {s t : State} {accepted : Bool} {outgoing : Outgoing}
    (stepped : Step s (.canTransmit accepted) t) (matched : Matched s outgoing) :
    Matched t (noteOutgoing outgoing s (.canTransmit accepted)) ∧
      (noteOutgoing outgoing s (.canTransmit accepted)).sent t = outgoing.sent s := by
  obtain ⟨called, hand, queued, asked⟩ := outgoing
  obtain ⟨held, waiting⟩ := matched
  cases stepped with
  | takeCanTx here given =>
    simp only [here, transmitting] at held
    exact ⟨⟨by simpa [noteOutgoing, here, transmitting] using held,
      by simpa [noteOutgoing, here] using waiting⟩,
      by simp [noteOutgoing, Outgoing.sent, here, transmitting]⟩
  | dequeueTx frame rest here head =>
    simp only [here, transmitting, List.length_nil, List.length_eq_zero_iff] at held
    subst held
    rw [head] at waiting
    obtain ⟨origin, others, rfl⟩ := List.exists_cons_of_length_eq_add_one waiting
    constructor
    · constructor
      · simp [noteOutgoing, here, transmitting]
      · simpa [noteOutgoing, here, head] using waiting
    · simp [noteOutgoing, Outgoing.sent, here, head, transmitting, withoutFlags]
  | transmitted frame here =>
    simp only [here, transmitting, List.length_singleton] at held
    obtain ⟨origin, rfl⟩ := List.length_eq_one_iff.mp held
    constructor
    · constructor
      · simp [noteOutgoing, here, transmitting]
      · simpa [noteOutgoing, here] using waiting
    · simp [noteOutgoing, Outgoing.sent, here, transmitting]
  | postCanTransmitted here room =>
    simp only [here, transmitting] at held
    exact ⟨⟨by simpa [noteOutgoing, here, transmitting] using held,
      by simpa [noteOutgoing, here] using waiting⟩,
      by simp [noteOutgoing, Outgoing.sent, here, transmitting]⟩

theorem outgoing_sent {s t : State} {a : Action} {outgoing : Outgoing} (stepped : Step s a t)
    (matched : Matched s outgoing) :
    Matched t (noteOutgoing outgoing s a) ∧
      (noteOutgoing outgoing s a).sent t = outgoing.sent s ++ queues s a := by
  by_cases own : ∃ accepted, a = .canTransmit accepted
  next =>
    obtain ⟨accepted, rfl⟩ := own
    obtain ⟨later, same⟩ := outgoing_transmit stepped matched
    exact ⟨later, by simp [same, queues]⟩
  next =>
    obtain ⟨pc, called, hand, queued, items⟩ :=
      outgoing_other outgoing stepped fun accepted same => own ⟨accepted, same⟩
    have lengths := congrArg List.length items
    simp only [List.length_append, List.length_map] at lengths
    constructor
    · constructor
      · rw [hand, pc]
        exact matched.hand
      · rw [queued, List.length_append, matched.queued, lengths, List.length_map]
    · have unzipped : (queues s a).unzip.1.zip (queues s a).unzip.2 = queues s a :=
        List.zip_unzip _
      rw [List.unzip_eq_map] at unzipped
      rw [Outgoing.sent, called, hand, pc, queued, items,
        List.zip_append (by rw [List.length_map]; exact matched.queued), unzipped, Outgoing.sent]
      simp only [List.append_assoc]

theorem timer_step {s t : State} {a : Action} (stepped : Step s a t)
    (timer : ∀ frame, s.obdWaitPc = .sendPending frame → IsPending frame) :
    ∀ frame, t.obdWaitPc = .sendPending frame → IsPending frame := by
  cases a with
  | obdWait stale =>
    cases stepped with
    | responseDelayed here =>
      intro frame set
      cases set
      exact ⟨stale, rfl⟩
    | _ => nofun
  | _ =>
    have same : t.obdWaitPc = s.obdWaitPc := by cases stepped <;> rfl
    rwa [same]

theorem queues_pending {s : State} {a : Action} {frame : CanMsgTimestamped}
    (timer : ∀ frame, s.obdWaitPc = .sendPending frame → IsPending frame)
    (queued : (.pending, frame) ∈ queues s a) : IsPending frame := by
  cases a with
  | obdWait stale =>
    simp only [queues] at queued
    split at queued
    next sent here =>
      obtain ⟨unset, rfl⟩ := timer sent here
      rw [withoutFlags_pending, List.mem_singleton] at queued
      cases queued
      exact ⟨unset, rfl⟩
    next => cases queued
  | mqttClient jdata stale =>
    simp only [queues] at queued
    split at queued <;> simp at queued
  | _ => simp [queues] at queued

theorem asked_step {s t : State} {a : Action} (outgoing : Outgoing) (stepped : Step s a t) :
    ∃ new, (noteOutgoing outgoing s a).asked = outgoing.asked ++ new ∧
      (framesOf s.mqttPending ++ new).map withoutFlags =
        ofResponses (queues s a) ++ (framesOf t.mqttPending).map withoutFlags := by
  have other (asked : (noteOutgoing outgoing s a).asked = outgoing.asked)
      (pending : t.mqttPending = s.mqttPending) (quiet : ofResponses (queues s a) = []) :
      ∃ new, (noteOutgoing outgoing s a).asked = outgoing.asked ++ new ∧
        (framesOf s.mqttPending ++ new).map withoutFlags =
          ofResponses (queues s a) ++ (framesOf t.mqttPending).map withoutFlags :=
    ⟨[], by rw [asked, List.append_nil], by rw [pending, quiet, List.append_nil, List.nil_append]⟩
  cases a with
  | mqttClient jdata stale =>
    cases stepped with
    | deliver idle =>
      refine ⟨framesOf (mqttApply stale jdata), by simp [noteOutgoing, idle], ?_⟩
      simp [queues, idle, framesOf, ofResponses]
    | enqueueResponse frame ops next room =>
      exact ⟨[], by simp [noteOutgoing, next], by simp [queues, next, framesOf, ofResponses]⟩
    | postNetReceived ops next room =>
      exact ⟨[], by simp [noteOutgoing, next], by simp [queues, next, framesOf, ofResponses]⟩
  | obdWait stale =>
    refine other ?_ (by cases stepped <;> rfl) ?_
    · simp only [noteOutgoing]
      split <;> rfl
    · simp only [queues]
      split <;> rfl
  | canTransmit accepted =>
    refine other ?_ (by cases stepped <;> rfl) rfl
    simp only [noteOutgoing]
    split <;> rfl
  | _ => exact other rfl (by cases stepped <;> rfl) rfl

theorem explained_step {s t : State} {a : Action} {outgoing : Outgoing} (stepped : Step s a t)
    (explained : Explained s outgoing) : Explained t (noteOutgoing outgoing s a) := by
  obtain ⟨matched, timer, pendings, responses⟩ := explained
  obtain ⟨later, sent⟩ := outgoing_sent stepped matched
  obtain ⟨new, asked, balance⟩ := asked_step outgoing stepped
  constructor
  · exact later
  · exact timer_step stepped timer
  · intro frame member
    rw [sent, List.mem_append] at member
    rcases member with before | queued
    next => exact pendings frame before
    next => exact queues_pending timer queued
  · rw [asked, List.map_append, responses, List.append_assoc, ← List.map_append, balance, sent,
      ofResponses_append, List.append_assoc]

structure Drained (s : State) : Prop where
  queue : s.txCanQueue.items = []
  hand : transmitting s.canTransmitPc = []
  callback : s.mqttPending = []

theorem explained_called {s : State} {outgoing : Outgoing} (explained : Explained s outgoing) :
    (∀ frame, (.pending, frame) ∈ outgoing.called → IsPending frame) ∧
      ofResponses outgoing.called <+: outgoing.asked.map withoutFlags ∧
      (Drained s → ofResponses outgoing.called = outgoing.asked.map withoutFlags) := by
  obtain ⟨matched, timer, pendings, responses⟩ := explained
  refine ⟨fun frame member => pendings frame (List.mem_append_left _ member), ?_, ?_⟩
  · rw [responses, Outgoing.sent, ofResponses_append, List.append_assoc]
    exact List.prefix_append _ _
  · intro drained
    rw [responses, Outgoing.sent, drained.queue, drained.hand, drained.callback]
    simp [framesOf]

end CanMaster
