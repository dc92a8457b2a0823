import CanMaster.Control.Forecast
import CanMaster.Downlink.Cycle
import CanMaster.Downlink.Reporting

set_option autoImplicit false

namespace CanMaster

open Transition Mailbox

/-- What an `EV_NET_RECEIVED` is posted for: the number of the response, and how many frames it
has. -/
structure Receipt where
  response : Nat
  frames : Nat
  deriving DecidableEq

-- The owners of the frames for which `can_transmit` has been called, of the one in the hands of
-- `can_transmit_task` and of those in `txCanQueue`, and the response that the callback works on.
-- `current` is the response whose `EV_NET_RECEIVED` was received last in WAIT_RESPONSE. When it was
-- received, `ahead` frames were left up to the last one of that response, and `can_transmit` has
-- been called `calls` times since.
structure Transmissions where
  called : List (Option Nat)
  hand : List (Option Nat)
  queued : List (Option Nat)
  receipt : Receipt
  line : Line Receipt
  current : Option Receipt
  ahead : Nat
  calls : Nat

def Transmissions.left (transmissions : Transmissions) : List (Option Nat) :=
  transmissions.hand ++ transmissions.queued

def Transmissions.sent (transmissions : Transmissions) : List (Option Nat) :=
  transmissions.called ++ transmissions.left

def Transmissions.answer (transmissions : Transmissions) (receipt : Receipt) : Transmissions :=
  { transmissions with
    current := some receipt
    ahead := upTo (some receipt.response) transmissions.left
    calls := 0 }

def framesLeft : List MqttOp → Nat
  | .sendFrame _ :: ops => framesLeft ops + 1
  | _ => 0

def noteTransmissions (transmissions : Transmissions) (s : State) (a : Action) : Transmissions :=
  let noted : Transmissions := { transmissions with
    line := noteLine .netReceived transmissions.receipt transmissions.line s a }
  match a with
  | .control =>
      if s.pending = [] ∧ s.cs = .waitResponse ∧
          s.controlEvents.items.head? = some .netReceived then
        match transmissions.line.waiting with
        | (receipt, _) :: _ => noted.answer receipt
        | [] => noted
      else noted
  | .canTransmit _ =>
      match s.canTransmitPc with
      | .receive =>
          { noted with hand := transmissions.queued.take 1, queued := transmissions.queued.drop 1 }
      | .transmit _ =>
          { noted with
            called := transmissions.called ++ transmissions.hand
            hand := []
            calls := transmissions.calls + 1 }
      | _ => noted
  | .obdWait _ =>
      match s.obdWaitPc with
      | .sendPending _ => { noted with queued := transmissions.queued ++ [none] }
      | _ => noted
  | .mqttClient jdata stale =>
      match s.mqttPending with
      | [] =>
          let response := transmissions.receipt.response + 1
          { noted with receipt := ⟨response, framesLeft (mqttApply stale jdata)⟩ }
      | .sendFrame _ :: _ =>
          { noted with
            queued := transmissions.queued ++ [some transmissions.receipt.response] }
      | _ => noted
  | _ => noted

def transmissionsHistory : System (State × Transmissions) Action :=
  firmware.observed ⟨[], [], [], ⟨0, 0⟩, ⟨0, [], []⟩, none, 0, 0⟩ noteTransmissions

structure Aligned (s : State) (transmissions : Transmissions) : Prop where
  queued : transmissions.queued.length = s.txCanQueue.items.length
  hand : transmissions.hand.length = (transmitting s.canTransmitPc).length

-- What the callback has still to send completes the response that it works on.
structure Owned (s : State) (transmissions : Transmissions) : Prop where
  ends : EndsLast s.mqttPending
  numbered : ∀ response, some response ∈ transmissions.sent →
    response ≤ transmissions.receipt.response
  counted : transmissions.sent.count (some transmissions.receipt.response) +
    framesLeft s.mqttPending = transmissions.receipt.frames

-- All frames of the response have been sent, and no more of them will be.
def Finished (s : State) (transmissions : Transmissions) (receipt : Receipt) : Prop :=
  transmissions.sent.count (some receipt.response) = receipt.frames ∧
    (receipt.response < transmissions.receipt.response ∨
      receipt.response = transmissions.receipt.response ∧ s.mqttPending = [])

def enqueued (transmissions : Transmissions) (s : State) : Action → List (Option Nat)
  | .obdWait _ =>
      match s.obdWaitPc with
      | .sendPending _ => [none]
      | _ => []
  | .mqttClient _ _ =>
      match s.mqttPending with
      | .sendFrame _ :: _ => [some transmissions.receipt.response]
      | _ => []
  | _ => []

theorem noteTransmissions_control (transmissions : Transmissions) (s : State) :
    ∃ line current ahead calls, noteTransmissions transmissions s .control =
      { transmissions with line := line, current := current, ahead := ahead, calls := calls } := by
  simp only [noteTransmissions]
  split
  next => cases transmissions.line.waiting <;> exact ⟨_, _, _, _, rfl⟩
  next => exact ⟨_, _, _, _, rfl⟩

theorem receipt_kept {transmissions : Transmissions} {s : State} {op : MqttOp}
    {ops : List MqttOp} (next : s.mqttPending = op :: ops) (a : Action) :
    (noteTransmissions transmissions s a).receipt = transmissions.receipt := by
  cases a with
  | control =>
    obtain ⟨line, current, ahead, calls, noted⟩ := noteTransmissions_control transmissions s
    rw [noted]
  | canTransmit | obdWait | mqttClient =>
    simp only [noteTransmissions]
    split <;> simp_all
  | _ => rfl

theorem left_note {s t : State} {transmissions : Transmissions} {a : Action}
    (stepped : Step s a t) (aligned : Aligned s transmissions) :
    ∃ n, (a ≠ .control → (noteTransmissions transmissions s a).calls = transmissions.calls + n) ∧
      (noteTransmissions transmissions s a).called =
        transmissions.called ++ transmissions.left.take n ∧
      (noteTransmissions transmissions s a).left =
        transmissions.left.drop n ++ enqueued transmissions s a := by
  have hand := aligned.hand
  cases a with
  | control =>
    obtain ⟨line, current, ahead, calls, noted⟩ := noteTransmissions_control transmissions s
    exact ⟨0, by simp [noted, enqueued, Transmissions.left]⟩
  | canTransmit accepted =>
    cases stepped with
    | transmitted frame here =>
      obtain ⟨owner, held⟩ : ∃ owner, transmissions.hand = [owner] :=
        List.length_eq_one_iff.mp (by simpa [here, transmitting] using hand)
      exact ⟨1, by simp [noteTransmissions, enqueued, here, held, Transmissions.left]⟩
    | dequeueTx frame rest here head =>
      have free : transmissions.hand = [] := by simpa [here, transmitting] using hand
      exact ⟨0, by simp [noteTransmissions, here], by simp [noteTransmissions, here], by
        simp [noteTransmissions, enqueued, here, free, Transmissions.left, -List.drop_one]⟩
    | takeCanTx here given =>
      exact ⟨0, by simp [noteTransmissions, enqueued, here, Transmissions.left]⟩
    | postCanTransmitted here room =>
      exact ⟨0, by simp [noteTransmissions, enqueued, here, Transmissions.left]⟩
  | obdWait stale =>
    refine ⟨0, ?_⟩
    cases stepped <;> simp_all [noteTransmissions, enqueued, Transmissions.left]
  | mqttClient jdata stale =>
    refine ⟨0, ?_⟩
    cases stepped <;> simp_all [noteTransmissions, enqueued, Transmissions.left]
  | _ => exact ⟨0, by simp [noteTransmissions, enqueued, Transmissions.left]⟩

theorem sent_note {s t : State} {transmissions : Transmissions} {a : Action}
    (stepped : Step s a t) (aligned : Aligned s transmissions) :
    (noteTransmissions transmissions s a).sent =
      transmissions.sent ++ enqueued transmissions s a := by
  obtain ⟨n, _, called, left⟩ := left_note stepped aligned
  simp [Transmissions.sent, called, left, ← List.append_assoc _ (transmissions.left.drop n)]

theorem aligned_step {s t : State} {transmissions : Transmissions} {a : Action}
    (stepped : Step s a t) (aligned : Aligned s transmissions) :
    Aligned t (noteTransmissions transmissions s a) := by
  obtain ⟨queued, hand⟩ := aligned
  cases a with
  | control =>
    obtain ⟨line, current, ahead, calls, noted⟩ := noteTransmissions_control transmissions s
    have same := control_sameTasks stepped
    rw [noted]
    constructor
    next => rwa [same.txCanQueue]
    next => rwa [same.canTransmitPc]
  | canTransmit accepted =>
    cases stepped with
    | dequeueTx frame rest here head =>
      constructor
      next => simp [noteTransmissions, here, queued, head]
      next => simp [noteTransmissions, here, transmitting, queued, head]
    | _ => constructor <;> simp_all [noteTransmissions, transmitting]
  | _ =>
    cases stepped <;> constructor <;> simp_all [noteTransmissions]

-- No other task changes what the callback does or sends a frame of a response.
theorem response_other {s t : State} {a : Action} (transmissions : Transmissions)
    (stepped : Step s a t) (other : ∀ jdata stale, a ≠ .mqttClient jdata stale) :
    t.mqttPending = s.mqttPending ∧
      (noteTransmissions transmissions s a).receipt = transmissions.receipt ∧
      ∀ response, some response ∉ enqueued transmissions s a := by
  cases a with
  | control =>
    obtain ⟨line, current, ahead, calls, noted⟩ := noteTransmissions_control transmissions s
    exact ⟨(control_sameTasks stepped).mqttPending, by rw [noted], by simp [enqueued]⟩
  | mqttClient jdata stale => exact absurd rfl (other jdata stale)
  | _ => cases stepped <;> simp_all [noteTransmissions, enqueued]

theorem owned_client {s t : State} {transmissions : Transmissions} {jdata : Option Json}
    {stale : CanMsgTimestamped} (stepped : Step s (.mqttClient jdata stale) t)
    (aligned : Aligned s transmissions) (owned : Owned s transmissions) :
    Owned t (noteTransmissions transmissions s (.mqttClient jdata stale)) := by
  have ends := endsLast_step stepped owned.ends
  have sent := sent_note stepped aligned
  obtain ⟨before, numbered, counted⟩ := owned
  cases stepped with
  | deliver idle =>
    have receipt : (noteTransmissions transmissions s (.mqttClient jdata stale)).receipt =
        ⟨transmissions.receipt.response + 1, framesLeft (mqttApply stale jdata)⟩ := by
      simp [noteTransmissions, idle]
    have fresh : some (transmissions.receipt.response + 1) ∉ transmissions.sent := by
      intro member
      have := numbered _ member
      omega
    simp only [enqueued, idle, List.append_nil] at sent
    constructor
    next => exact ends
    next =>
      rw [sent, receipt]
      exact fun response member => (numbered response member).trans (Nat.le_succ _)
    next =>
      rw [sent, receipt, List.count_eq_zero.mpr fresh]
      exact Nat.zero_add _
  | enqueueResponse frame ops next room =>
    simp only [enqueued, next] at sent
    rw [next, framesLeft] at counted
    constructor
    next => exact ends
    next =>
      rw [sent, receipt_kept next]
      simpa [or_imp, forall_and] using numbered
    next =>
      rw [sent, receipt_kept next, List.count_append, List.count_singleton_self]
      simp only
      omega
  | postNetReceived ops next room =>
    simp only [enqueued, next, List.append_nil] at sent
    rw [next] at before counted
    obtain rfl : ops = [] := before
    constructor
    next => exact ends
    next => rwa [sent, receipt_kept next]
    next => rwa [sent, receipt_kept next]

theorem owned_step {s t : State} {transmissions : Transmissions} {a : Action}
    (stepped : Step s a t) (aligned : Aligned s transmissions) (owned : Owned s transmissions) :
    Owned t (noteTransmissions transmissions s a) := by
  cases a with
  | mqttClient jdata stale => exact owned_client stepped aligned owned
  | _ =>
    obtain ⟨pending, receipt, foreign⟩ := response_other transmissions stepped (by simp)
    constructor
    next => exact endsLast_step stepped owned.ends
    next =>
      rw [sent_note stepped aligned, receipt]
      intro response member
      exact owned.numbered response ((List.mem_append.mp member).resolve_right (foreign response))
    next =>
      rw [sent_note stepped aligned, receipt, pending, List.count_append,
        List.count_eq_zero.mpr (foreign _)]
      exact owned.counted

theorem finished_foreign {s : State} {transmissions : Transmissions} {receipt : Receipt}
    (finished : Finished s transmissions receipt) (a : Action) :
    some receipt.response ∉ enqueued transmissions s a := by
  obtain ⟨_, place⟩ := finished
  cases a with
  | obdWait stale =>
    simp only [enqueued]
    split <;> simp
  | mqttClient jdata stale =>
    simp only [enqueued]
    split
    next frame ops next =>
      have earlier : receipt.response < transmissions.receipt.response := by
        simpa [next] using place
      simp
      omega
    next => simp
  | _ => simp [enqueued]

theorem finished_step {s t : State} {transmissions : Transmissions} {a : Action}
    {receipt : Receipt} (stepped : Step s a t) (aligned : Aligned s transmissions)
    (finished : Finished s transmissions receipt) :
    Finished t (noteTransmissions transmissions s a) receipt := by
  constructor
  next =>
    rw [sent_note stepped aligned, List.count_append,
      List.count_eq_zero.mpr (finished_foreign finished a), Nat.add_zero, finished.1]
  next =>
    obtain ⟨_, place⟩ := finished
    cases a with
    | mqttClient jdata stale =>
      cases stepped with
      | deliver idle =>
        left
        simp only [noteTransmissions, idle]
        omega
      | enqueueResponse frame ops next room =>
        exact .inl (by simpa [receipt_kept next, next] using place)
      | postNetReceived ops next room =>
        exact .inl (by simpa [receipt_kept next, next] using place)
    | _ =>
      obtain ⟨pending, same, _⟩ := response_other transmissions stepped (by simp)
      rwa [same, pending]

theorem finished_posted {s t : State} {transmissions : Transmissions} {a : Action}
    (stepped : Step s a t) (aligned : Aligned s transmissions) (owned : Owned s transmissions)
    (posts : .netReceived ∈ posted s a) :
    Finished t (noteTransmissions transmissions s a) transmissions.receipt := by
  have sent := sent_note stepped aligned
  obtain ⟨before, _, counted⟩ := owned
  cases stepped with
  | postNetReceived ops next room =>
    rw [next] at before counted
    obtain rfl : ops = [] := before
    simp only [enqueued, next, List.append_nil] at sent
    exact ⟨sent ▸ counted, .inr ⟨by rw [receipt_kept next], rfl⟩⟩
  | _ => simp_all [posted]

def Entered (s : State) : Prop :=
  s.cs = .responseTransmitted ∨ .changeState .responseTransmitted ∈ s.pending

structure Accountable (s : State) (transmissions : Transmissions) : Prop where
  handling : Handling s.cs s.pending
  foretold : Foretold .netReceived s transmissions.line
  aligned : Aligned s transmissions
  owned : Owned s transmissions
  waiting : ∀ entry ∈ transmissions.line.waiting, Finished s transmissions entry.1
  current : ∀ receipt, transmissions.current = some receipt → Finished s transmissions receipt
  left : ∀ receipt, transmissions.current = some receipt →
    upTo (some receipt.response) transmissions.left = transmissions.ahead - transmissions.calls
  entered : Entered s → transmissions.current ≠ none

theorem noteTransmissions_line (transmissions : Transmissions) (s : State) (a : Action) :
    (noteTransmissions transmissions s a).line =
      noteLine .netReceived transmissions.receipt transmissions.line s a := by
  cases a with
  | control =>
    simp only [noteTransmissions]
    split
    next => cases transmissions.line.waiting <;> rfl
    next => rfl
  | canTransmit | obdWait | mqttClient =>
    simp only [noteTransmissions]
    split <;> rfl
  | _ => rfl

theorem noteTransmissions_other {a : Action} (transmissions : Transmissions) (s : State)
    (other : a ≠ .control) :
    (noteTransmissions transmissions s a).current = transmissions.current ∧
      (noteTransmissions transmissions s a).ahead = transmissions.ahead := by
  cases a with
  | control => contradiction
  | canTransmit | obdWait | mqttClient =>
    simp only [noteTransmissions]
    split <;> exact ⟨rfl, rfl⟩
  | _ => exact ⟨rfl, rfl⟩

theorem control_answers (transmissions : Transmissions) (s : State) :
    (∃ line, noteTransmissions transmissions s .control = { transmissions with line := line }) ∨
      ∃ line, ∃ entry ∈ transmissions.line.waiting, noteTransmissions transmissions s .control =
        Transmissions.answer { transmissions with line := line } entry.1 := by
  simp only [noteTransmissions]
  split
  next =>
    cases waiting : transmissions.line.waiting with
    | nil => exact .inl ⟨_, rfl⟩
    | cons entry later => exact .inr ⟨_, entry, List.mem_cons_self, rfl⟩
  next => exact .inl ⟨_, rfl⟩

theorem noteTransmissions_current {transmissions : Transmissions} {s : State} {a : Action}
    {receipt : Receipt} (current : (noteTransmissions transmissions s a).current = some receipt) :
    transmissions.current = some receipt ∨ ∃ entry ∈ transmissions.line.waiting, entry.1 = receipt := by
  by_cases control : a = .control
  next =>
    subst control
    rcases control_answers transmissions s with ⟨line, same⟩ | ⟨line, entry, member, answers⟩
    next => exact .inl (by rwa [same] at current)
    next =>
      rw [answers] at current
      exact .inr ⟨entry, member, Option.some.inj current⟩
  next => exact .inl (by rwa [(noteTransmissions_other transmissions s control).1] at current)

theorem left_step {s t : State} {transmissions : Transmissions} {a : Action} {receipt : Receipt}
    (stepped : Step s a t) (accountable : Accountable s transmissions)
    (current : (noteTransmissions transmissions s a).current = some receipt) :
    upTo (some receipt.response) (noteTransmissions transmissions s a).left =
      (noteTransmissions transmissions s a).ahead - (noteTransmissions transmissions s a).calls := by
  by_cases control : a = .control
  next =>
    subst control
    rcases control_answers transmissions s with ⟨line, same⟩ | ⟨line, entry, _, answers⟩
    next =>
      rw [same] at current ⊢
      exact accountable.left receipt current
    next =>
      rw [answers] at current ⊢
      obtain rfl : entry.1 = receipt := Option.some.inj current
      rfl
  next =>
    obtain ⟨same, ahead⟩ := noteTransmissions_other transmissions s control
    obtain ⟨n, calls, _, left⟩ := left_note stepped accountable.aligned
    rw [same] at current
    have foreign := finished_foreign (accountable.current receipt current) a
    rw [left, ahead, calls control, upTo_append foreign, upTo_drop, accountable.left receipt current]
    omega

theorem enters_on {cs : ControlState} {event : ControlEvent}
    (enters : .changeState .responseTransmitted ∈ controlHandler cs event) :
    cs = .waitResponse ∧ event = .netReceived := by
  revert enters
  cases cs <;> cases event <;> decide

theorem entered_receive {s : State} {transmissions : Transmissions} {event : ControlEvent}
    {rest : List ControlEvent} (accountable : Accountable s transmissions) (idle : s.pending = [])
    (head : s.controlEvents.items = event :: rest)
    (entered : s.cs = .responseTransmitted ∨
      .changeState .responseTransmitted ∈ controlHandler s.cs event) :
    (noteTransmissions transmissions s .control).current ≠ none := by
  by_cases answered : s.cs = .waitResponse ∧ event = .netReceived
  next =>
    obtain ⟨waits, rfl⟩ := answered
    have first : s.controlEvents.items.head? = some .netReceived := by simp [head]
    obtain ⟨tag, later, waiting⟩ := foretold_head accountable.foretold idle first
    simp [noteTransmissions, idle, waits, first, waiting, Transmissions.answer]
  next =>
    have same : (noteTransmissions transmissions s .control).current = transmissions.current := by
      simp [noteTransmissions, idle, head, answered]
    rw [same]
    apply accountable.entered
    rcases entered with here | enters
    next => exact .inl here
    next => exact absurd (enters_on enters) answered

theorem entered_step {s t : State} {transmissions : Transmissions} {a : Action}
    (stepped : Step s a t) (accountable : Accountable s transmissions) (entered : Entered t) :
    (noteTransmissions transmissions s a).current ≠ none := by
  have kept (same : (noteTransmissions transmissions s a).current = transmissions.current)
      (before : Entered s) : (noteTransmissions transmissions s a).current ≠ none := by
    rw [same]
    exact accountable.entered before
  by_cases control : a = .control
  next =>
    subst control
    cases stepped with
    | controlReceive event rest idle head => exact entered_receive accountable idle head entered
    | controlGive semaphore ops next =>
      apply kept
      next => simp [noteTransmissions, next]
      next => exact entered.imp id fun member => by simp [next, member]
    | controlChange newState ops next =>
      apply kept
      next => simp [noteTransmissions, next]
      next => exact .inr (by simpa [next, Entered, eq_comm] using entered)
    | controlSend event ops next room =>
      apply kept
      next => simp [noteTransmissions, next]
      next => exact entered.imp id fun member => by simp [next, member]
  next =>
    obtain ⟨cs, _, pending⟩ := other_control stepped control
    apply kept
    next => exact (noteTransmissions_other transmissions s control).1
    next =>
      unfold Entered at entered ⊢
      rwa [cs, pending] at entered

theorem accountable_step {s t : State} {transmissions : Transmissions} {a : Action}
    (stepped : Step s a t) (accountable : Accountable s transmissions) :
    Accountable t (noteTransmissions transmissions s a) := by
  have aligned := accountable.aligned
  constructor
  · exact handling_step stepped accountable.handling
  · rw [noteTransmissions_line]
    exact foretold_step _ (by decide) stepped accountable.handling accountable.foretold
  · exact aligned_step stepped aligned
  · exact owned_step stepped aligned accountable.owned
  · rw [noteTransmissions_line]
    intro entry member
    rcases mem_noteLine member with earlier | ⟨rfl, posts⟩
    next => exact finished_step stepped aligned (accountable.waiting entry earlier)
    next => exact finished_posted stepped aligned accountable.owned posts
  · intro receipt current
    rcases noteTransmissions_current current with same | ⟨entry, member, same⟩
    next => exact finished_step stepped aligned (accountable.current receipt same)
    next => exact same ▸ finished_step stepped aligned (accountable.waiting entry member)
  · exact fun receipt => left_step stepped accountable
  · exact entered_step stepped accountable

theorem accountable_reachable {s : State} {transmissions : Transmissions}
    (reached : transmissionsHistory.Reachable (s, transmissions)) : Accountable s transmissions := by
  have start : Accountable initialState ⟨[], [], [], ⟨0, 0⟩, ⟨0, [], []⟩, none, 0, 0⟩ := by
    constructor
    · exact .restart
    · rfl
    · exact ⟨rfl, rfl⟩
    · exact ⟨trivial, by simp [Transmissions.sent, Transmissions.left], rfl⟩
    · simp
    · simp
    · simp
    · simp [Entered, initialState]
  exact System.observed_invariant start
    (fun _ _ _ _ stepped => accountable_step (step_iff.mp stepped)) reached

structure Leaves (s : State) : Prop where
  here : s.cs = .responseTransmitted
  next : ∃ ops, s.pending = .changeState .canRequestWait :: ops

def Receipt.Transmitted (receipt : Receipt) (transmissions : Transmissions) : Prop :=
  transmissions.called.count (some receipt.response) = receipt.frames

theorem transmitted_iff {s : State} {transmissions : Transmissions}
    (reached : transmissionsHistory.Reachable (s, transmissions)) (leaves : Leaves s) :
    ∃ receipt, transmissions.current = some receipt ∧
      (receipt.Transmitted transmissions ↔ transmissions.ahead ≤ transmissions.calls) := by
  have accountable := accountable_reachable reached
  obtain ⟨receipt, current⟩ :=
    Option.ne_none_iff_exists'.mp (accountable.entered (.inl leaves.here))
  obtain ⟨count, _⟩ := accountable.current receipt current
  refine ⟨receipt, current, ?_⟩
  rw [Transmissions.sent, List.count_append] at count
  calc receipt.Transmitted transmissions
      ↔ transmissions.left.count (some receipt.response) = 0 := by
        unfold Receipt.Transmitted
        omega
    _ ↔ upTo (some receipt.response) transmissions.left = 0 := by
        rw [List.count_eq_zero, upTo_eq_zero]
    _ ↔ transmissions.ahead ≤ transmissions.calls := by
        rw [accountable.left receipt current, Nat.sub_eq_zero_iff_le]

def oneCommandRun : List Action :=
  startUp ++ arrive ++ controls 4 ++ transmits 10 ++ controls 4 ++
    List.replicate 3
      (.mqttClient (some (.object [("commands", .array [commandJson blankFrame])])) blankFrame) ++
    controls 3

def transmittedRun : List Action :=
  oneCommandRun ++ List.replicate 4 (.canTransmit true) ++ controls 1

theorem command_transmitted : ∃ transmissions receipt,
    transmissionsHistory.Reachable (after transmittedRun, transmissions) ∧
      Leaves (after transmittedRun) ∧ transmissions.current = some receipt ∧
      receipt.frames = 1 ∧ receipt.Transmitted transmissions := by
  have reached : transmissionsHistory.Reachable (after transmittedRun,
      ⟨[some 1], [], [], ⟨1, 1⟩, ⟨1, [], []⟩, some ⟨1, 1⟩, 1, 1⟩) := ⟨transmittedRun, rfl⟩
  have leaves : Leaves (after transmittedRun) := ⟨rfl, _, rfl⟩
  obtain ⟨receipt, current, transmitted⟩ := transmitted_iff reached leaves
  cases current
  exact ⟨_, _, reached, leaves, rfl, rfl, transmitted.mpr (Nat.le_refl 1)⟩

-- The announcement of one more frame reaches `control_task` before `can_transmit_task` has run.
def leftRun : List Action := oneCommandRun ++ announce ++ controls 1

theorem command_left : ∃ transmissions receipt,
    transmissionsHistory.Reachable (after leftRun, transmissions) ∧ Leaves (after leftRun) ∧
      transmissions.current = some receipt ∧ transmissions.called = [] ∧
      ¬ receipt.Transmitted transmissions := by
  refine ⟨⟨[], [], [some 1], ⟨1, 1⟩, ⟨1, [], []⟩, some ⟨1, 1⟩, 1, 0⟩, ⟨1, 1⟩, ⟨leftRun, rfl⟩,
    ⟨rfl, _, rfl⟩, rfl, rfl, fun transmitted => ?_⟩
  exact Nat.zero_ne_one transmitted

end CanMaster
