import CanMaster.Downlink.Responses

set_option autoImplicit false

namespace CanMaster

open Transition

-- The cycles for which a frame of a response has been queued, the cycle of the token that is given
-- or was taken last, and the cycle of the one that `obd_wait_task` has taken.
structure Pendings where
  responses : Responses
  answered : List Nat
  token : Nat
  timer : Nat

def notePendings (pendings : Pendings) (s : State) (a : Action) (answers : Option Nat) :
    Pendings :=
  let noted : Pendings := { pendings with
    responses := noteResponses pendings.responses s a answers }
  match a with
  | .control =>
      match s.pending with
      | .give .obdTxWait :: _ =>
          { noted with
            token :=
              if s.semaphores.obdTxWait then pendings.token
              else pendings.responses.line.cycle + 1 }
      | _ => noted
  | .obdWait _ =>
      match s.obdWaitPc with
      | .takeObdTxWait => { noted with timer := pendings.token }
      | _ => noted
  | .mqttClient _ _ =>
      match s.mqttPending with
      | .sendFrame _ :: _ =>
          { noted with
            answered := pendings.responses.tag.published.toList ++ pendings.answered }
      | _ => noted
  | _ => noted

def pendingsHistory : System (State × Pendings) (Action × Option Nat) :=
  firmware.labelled ⟨⟨[], ⟨false, none⟩, [], ⟨0, [], []⟩⟩, [], 0, 0⟩ notePendings

def ControlState.Requests (cs : ControlState) : Prop := cs = .sendRequest ∨ cs = .waitResponse

instance : DecidablePred ControlState.Requests := fun cs =>
  inferInstanceAs (Decidable (cs = .sendRequest ∨ cs = .waitResponse))

def Awaited (s : State) (pendings : Pendings) (cycle : Nat) : Prop :=
  s.cs.Requests ∧ pendings.responses.line.cycle = cycle ∧ cycle ∉ pendings.answered

def EnqueuesPending (s : State) : Prop :=
  (∃ frame, s.obdWaitPc = .sendPending frame) ∧ ¬ s.txCanQueue.Full

def PendingDue (p : State × Pendings) : Prop :=
  EnqueuesPending p.1 → Awaited p.1 p.2 p.2.timer

def framePending : ObdWaitPc → Bool
  | .responseDelay => true
  | .sendPending _ => true
  | _ => false

def FrameOwed (s : State) : Prop :=
  s.semaphores.obdTxWait = true ∨ framePending s.obdWaitPc = true

instance : DecidablePred FrameOwed := fun s =>
  inferInstanceAs (Decidable (s.semaphores.obdTxWait = true ∨ framePending s.obdWaitPc = true))

def EndsCycle (s : State) : Prop :=
  s.pending = [] ∧ s.cs.Requests ∧
    ∃ event ∈ s.controlEvents.items.head?, ¬ (controlNext s.cs event).Requests

instance : DecidablePred EndsCycle := fun s =>
  inferInstanceAs (Decidable (s.pending = [] ∧ s.cs.Requests ∧
    ∃ event ∈ s.controlEvents.items.head?, ¬ (controlNext s.cs event).Requests))

def sendsFrame (ops : List MqttOp) : Bool :=
  ops.any fun op => match op with
    | .sendFrame _ => true
    | _ => false

-- The message has a frame for the request of the cycle that `control_task` is in.
def AnswersCycle (s : State) (responses : Responses) (jdata : Option Json)
    (stale : CanMsgTimestamped) (answers : Option Nat) : Prop :=
  s.mqttPending = [] ∧ sendsFrame (mqttApply stale jdata) = true ∧ s.cs.Requests ∧
    answers.bind (responses.published[·]?) = some responses.line.cycle

instance (s : State) (responses : Responses) (jdata : Option Json) (stale : CanMsgTimestamped)
    (answers : Option Nat) : Decidable (AnswersCycle s responses jdata stale answers) :=
  inferInstanceAs (Decidable (s.mqttPending = [] ∧ sendsFrame (mqttApply stale jdata) = true ∧
    s.cs.Requests ∧ answers.bind (responses.published[·]?) = some responses.line.cycle))

-- The cycle is ended and its response comes only after RESPONSE_DELAY, which in turn does not end
-- before `control_task` is in SEND_REQUEST.
def Punctual (p : State × Pendings) (a : Action × Option Nat) : Prop :=
  match a.1 with
  | .control => EndsCycle p.1 → ¬ FrameOwed p.1
  | .mqttClient jdata stale =>
      AnswersCycle p.1 p.2.responses jdata stale a.2 → ¬ FrameOwed p.1
  | .obdWait _ => p.1.obdWaitPc = .responseDelay → .changeState .sendRequest ∉ p.1.pending
  | _ => True

instance (p : State × Pendings) (a : Action × Option Nat) : Decidable (Punctual p a) := by
  unfold Punctual
  split <;> infer_instance

def Holds (s : State) (pendings : Pendings) (cycle : Nat) : Prop :=
  s.semaphores.obdTxWait = true ∧ pendings.token = cycle ∨
    framePending s.obdWaitPc = true ∧ pendings.timer = cycle

inductive Standing (s : State) (pendings : Pendings) (cycle : Nat) : Prop where
  | entering (next : s.pending = [.changeState .sendRequest])
      (entered : cycle = pendings.responses.line.cycle + 1)
      (early : ∀ frame, s.obdWaitPc ≠ .sendPending frame)
  | awaited (awaited : Awaited s pendings cycle) (stays : (landing s.cs s.pending).Requests)
      (quiet : sendsFrame s.mqttPending = true → pendings.responses.tag.published ≠ some cycle)

structure Tracked (s : State) (pendings : Pendings) : Prop where
  handling : Handling s.cs s.pending
  published : ∀ cycle ∈ pendings.responses.published, cycle ≤ pendings.responses.line.cycle
  answered : ∀ cycle ∈ pendings.answered, cycle ≤ pendings.responses.line.cycle
  numbered : ∀ request, pendings.responses.message.answers = some request →
    request < pendings.responses.published.length
  standing : ∀ cycle, Holds s pendings cycle → Standing s pendings cycle

theorem holds_owed {s : State} {pendings : Pendings} {cycle : Nat}
    (holds : Holds s pendings cycle) : FrameOwed s :=
  holds.imp And.left And.left

theorem pendingDue_tracked (p : State × Pendings) (tracked : Tracked p.1 p.2) : PendingDue p := by
  rintro ⟨⟨frame, here⟩, _⟩
  have holds : Holds p.1 p.2 p.2.timer := .inr ⟨by rw [here]; rfl, rfl⟩
  cases tracked.standing _ holds with
  | entering next entered early => exact absurd here (early frame)
  | awaited awaited stays quiet => exact awaited

theorem noteLine_cycle {τ : Type} (kind : ControlEvent) (tag : τ) (line : Line τ) (s : State)
    (a : Action) : line.cycle ≤ (noteLine kind tag line s a).cycle := by
  cases a with
  | control =>
    simp only [noteLine]
    split <;> simp
  | _ => exact Nat.le_refl _

theorem noteLine_cycle_other {τ : Type} {a : Action} (kind : ControlEvent) (tag : τ)
    (line : Line τ) (s : State) (other : a ≠ .control) :
    (noteLine kind tag line s a).cycle = line.cycle := by
  cases a with
  | control => contradiction
  | _ => rfl

theorem notePendings_responses (pendings : Pendings) (s : State) (a : Action)
    (answers : Option Nat) :
    (notePendings pendings s a answers).responses =
      noteResponses pendings.responses s a answers := by
  cases a with
  | control | obdWait | mqttClient =>
    simp only [notePendings]
    split <;> rfl
  | _ => rfl

theorem published_grows (responses : Responses) (s : State) (a : Action) (answers : Option Nat) :
    ∃ later, (noteResponses responses s a answers).published = responses.published ++ later ∧
      ∀ cycle ∈ later, cycle = responses.line.cycle := by
  simp only [noteResponses]
  split
  next =>
    split
    next => exact ⟨_, rfl, by simp⟩
    next => exact ⟨[], by simp⟩
  next => exact ⟨[], by simp⟩

theorem tag_published {responses : Responses} {cycle : Nat}
    (published : responses.tag.published = some cycle) : cycle ∈ responses.published := by
  obtain ⟨request, _, found⟩ := Option.bind_eq_some_iff.mp published
  exact List.mem_of_getElem? found

theorem numbered_step {responses : Responses} (s : State) (a : Action) (answers : Option Nat)
    (numbered : ∀ request, responses.message.answers = some request →
      request < responses.published.length) (request : Nat)
    (known : (noteResponses responses s a answers).message.answers = some request) :
    request < (noteResponses responses s a answers).published.length := by
  obtain ⟨later, grown, _⟩ := published_grows responses s a answers
  have earlier : request < responses.published.length := by
    simp only [noteResponses] at known
    split at known
    next => simpa using (Option.filter_eq_some_iff.mp known).2
    next => exact numbered request known
  rw [grown, List.length_append]
  omega

theorem tag_kept {responses : Responses} {s : State} {a : Action} (answers : Option Nat)
    (numbered : ∀ request, responses.message.answers = some request →
      request < responses.published.length)
    (same : (noteResponses responses s a answers).message = responses.message) :
    (noteResponses responses s a answers).tag.published = responses.tag.published := by
  obtain ⟨later, grown, _⟩ := published_grows responses s a answers
  simp only [Responses.tag, same, grown]
  cases known : responses.message.answers with
  | none => rfl
  | some request => exact List.getElem?_append_left (numbered request known)

theorem published_le {responses : Responses} (s : State) (a : Action) (answers : Option Nat)
    (bounded : ∀ cycle ∈ responses.published, cycle ≤ responses.line.cycle) :
    ∀ cycle ∈ (noteResponses responses s a answers).published,
      cycle ≤ (noteResponses responses s a answers).line.cycle := by
  obtain ⟨later, grown, present⟩ := published_grows responses s a answers
  have entered : responses.line.cycle ≤ (noteResponses responses s a answers).line.cycle :=
    noteLine_cycle .netReceived responses.tag responses.line s a
  rw [grown]
  intro cycle member
  rcases List.mem_append.mp member with earlier | fresh
  next => exact (bounded cycle earlier).trans entered
  next => exact present cycle fresh ▸ entered

theorem answered_le {pendings : Pendings} (s : State) (a : Action) (answers : Option Nat)
    (published : ∀ cycle ∈ pendings.responses.published, cycle ≤ pendings.responses.line.cycle)
    (answered : ∀ cycle ∈ pendings.answered, cycle ≤ pendings.responses.line.cycle) :
    ∀ cycle ∈ (notePendings pendings s a answers).answered,
      cycle ≤ (notePendings pendings s a answers).responses.line.cycle := by
  have entered : pendings.responses.line.cycle ≤
      (noteResponses pendings.responses s a answers).line.cycle :=
    noteLine_cycle .netReceived pendings.responses.tag pendings.responses.line s a
  rw [notePendings_responses]
  intro cycle member
  refine le_trans ?_ entered
  cases a with
  | mqttClient jdata stale =>
    simp only [notePendings] at member
    split at member
    next =>
      rcases List.mem_append.mp member with fresh | earlier
      next => exact published cycle (tag_published (Option.mem_toList.mp fresh))
      next => exact answered cycle earlier
    next => exact answered cycle member
  | control | obdWait =>
    simp only [notePendings] at member
    split at member <;> exact answered cycle member
  | _ => exact answered cycle member

theorem none_owed {s : State} {pendings : Pendings} {ops : List ControlOp}
    (tracked : Tracked s pendings) (next : s.pending = .give .obdTxWait :: ops) (cycle : Nat) :
    ¬ Holds s pendings cycle := by
  intro holds
  have handling := tracked.handling
  cases tracked.standing cycle holds with
  | entering only entered early => simp [only] at next
  | awaited awaited stays quiet =>
    obtain ⟨requests, _⟩ := awaited
    rw [next] at handling
    generalize s.cs = cs at handling requests
    cases handling
    simp [ControlState.Requests] at requests

theorem control_answered (pendings : Pendings) (s : State) (answers : Option Nat) :
    (notePendings pendings s .control answers).answered = pendings.answered ∧
      (notePendings pendings s .control answers).responses.tag.published =
        pendings.responses.tag.published := by
  constructor
  next =>
    simp only [notePendings]
    split <;> rfl
  next =>
    rw [notePendings_responses]
    rfl

theorem standing_receive {s : State} {pendings : Pendings} {event : ControlEvent}
    {rest : List ControlEvent} {cycle : Nat} (answers : Option Nat)
    (punctual : EndsCycle s → ¬ FrameOwed s) (owed : FrameOwed s)
    (idle : s.pending = []) (head : s.controlEvents.items = event :: rest)
    (standing : Standing s pendings cycle) :
    Standing
      { s with controlEvents := s.controlEvents.tail, pending := controlHandler s.cs event }
      (notePendings pendings s .control answers) cycle := by
  obtain ⟨same, tag⟩ := control_answered pendings s answers
  cases standing with
  | entering next entered early => simp [idle] at next
  | awaited awaited stays quiet =>
    obtain ⟨requests, entered, unanswered⟩ := awaited
    have goes : (controlNext s.cs event).Requests := by
      by_contra leaves
      exact punctual ⟨idle, requests, event, by simp [head], leaves⟩ owed
    apply Standing.awaited
    next =>
      refine ⟨requests, ?_, same ▸ unanswered⟩
      simpa [notePendings, noteResponses, noteLine, idle] using entered
    next => exact goes
    next => exact tag ▸ quiet

-- Inside the cycle only the change to WAIT_RESPONSE is left to do.
theorem stays_change {cs newState : ControlState} {ops : List ControlOp}
    (handling : Handling cs (.changeState newState :: ops)) (requests : cs.Requests)
    (stays : (landing cs (.changeState newState :: ops)).Requests) :
    newState = .waitResponse ∧ ops = [] := by
  cases handling <;> simp_all [ControlState.Requests, landing]

theorem standing_change {s : State} {pendings : Pendings} {newState : ControlState}
    {ops : List ControlOp} {cycle : Nat} (answers : Option Nat) (tracked : Tracked s pendings)
    (next : s.pending = .changeState newState :: ops) (standing : Standing s pendings cycle) :
    Standing { s with prevState := s.cs, cs := newState, pending := ops }
      (notePendings pendings s .control answers) cycle := by
  obtain ⟨same, tag⟩ := control_answered pendings s answers
  cases standing with
  | entering only entered early =>
    obtain ⟨rfl, rfl⟩ : newState = .sendRequest ∧ ops = [] := by simpa [next] using only
    apply Standing.awaited
    next =>
      refine ⟨.inl rfl, ?_, fun member => ?_⟩
      next => simp [notePendings, noteResponses, noteLine, next, entered]
      next =>
        have := tracked.answered cycle (same ▸ member)
        omega
    next => exact .inl rfl
    next =>
      rw [tag]
      intro _ published
      have := tracked.published cycle (tag_published published)
      omega
  | awaited awaited stays quiet =>
    obtain ⟨requests, entered, unanswered⟩ := awaited
    have handling := tracked.handling
    rw [next] at handling stays
    obtain ⟨rfl, rfl⟩ := stays_change handling requests stays
    apply Standing.awaited
    next =>
      refine ⟨.inr rfl, ?_, same ▸ unanswered⟩
      simpa [notePendings, noteResponses, noteLine, next] using entered
    next => exact .inr rfl
    next => exact tag ▸ quiet

theorem standing_give {s : State} {pendings : Pendings} {semaphore : Semaphore}
    {ops : List ControlOp} {cycle : Nat} (answers : Option Nat)
    (next : s.pending = .give semaphore :: ops) (standing : Standing s pendings cycle) :
    Standing { s with semaphores := s.semaphores.give semaphore, pending := ops }
      (notePendings pendings s .control answers) cycle := by
  obtain ⟨same, tag⟩ := control_answered pendings s answers
  cases standing with
  | entering only entered early => simp [next] at only
  | awaited awaited stays quiet =>
    obtain ⟨requests, entered, unanswered⟩ := awaited
    rw [next] at stays
    apply Standing.awaited
    next =>
      refine ⟨requests, ?_, same ▸ unanswered⟩
      rw [notePendings_responses]
      simpa [noteResponses, noteLine, next] using entered
    next => exact stays
    next => exact tag ▸ quiet

theorem standing_control {s t : State} {pendings : Pendings} {cycle : Nat} (answers : Option Nat)
    (stepped : Step s .control t) (tracked : Tracked s pendings)
    (punctual : EndsCycle s → ¬ FrameOwed s)
    (holds : Holds t (notePendings pendings s .control answers) cycle) :
    Standing t (notePendings pendings s .control answers) cycle := by
  cases stepped with
  | controlReceive event rest idle head =>
    have before : Holds s pendings cycle := by simpa [Holds, notePendings, idle] using holds
    exact standing_receive answers punctual (holds_owed before) idle head
      (tracked.standing cycle before)
  | controlGive semaphore ops next =>
    by_cases begins : semaphore = .obdTxWait
    next =>
      subst begins
      have none := none_owed tracked next
      have taken : s.semaphores.obdTxWait = false := by
        by_contra given
        exact none pendings.token (.inl ⟨by simpa using given, rfl⟩)
      have waits : framePending s.obdWaitPc = false := by
        by_contra delays
        exact none pendings.timer (.inr ⟨by simpa using delays, rfl⟩)
      have handling := tracked.handling
      rw [next] at handling
      apply Standing.entering
      next =>
        generalize s.cs = cs at handling
        cases handling
        rfl
      next => simpa [Holds, notePendings, noteResponses, noteLine, next, taken, waits, eq_comm,
        Semaphores.give] using holds
      next =>
        intro frame here
        rw [here] at waits
        cases waits
    next =>
      have before : Holds s pendings cycle := by
        cases semaphore with
        | obdTxWait => contradiction
        | _ => simpa [Holds, notePendings, next, Semaphores.give] using holds
      exact standing_give answers next (tracked.standing cycle before)
  | controlChange newState ops next =>
    have before : Holds s pendings cycle := by simpa [Holds, notePendings, next] using holds
    exact standing_change answers tracked next (tracked.standing cycle before)
  | controlSend event ops next room =>
    have before : Holds s pendings cycle := by simpa [Holds, notePendings, next] using holds
    have handling := tracked.handling
    rw [next] at handling
    obtain ⟨rfl, rfl, outside⟩ := handling_send handling
    cases tracked.standing cycle before with
    | entering only entered early => simp [next] at only
    | awaited awaited stays quiet =>
      obtain ⟨requests, _⟩ := awaited
      rcases outside with here | here <;> simp [here, ControlState.Requests] at requests

theorem other_cycle {a : Action} (pendings : Pendings) (s : State) (answers : Option Nat)
    (other : a ≠ .control) :
    (notePendings pendings s a answers).responses.line.cycle = pendings.responses.line.cycle := by
  rw [notePendings_responses]
  exact noteLine_cycle_other .netReceived pendings.responses.tag pendings.responses.line s other

theorem standing_other {s t : State} {pendings : Pendings} {a : Action} {cycle : Nat}
    (answers : Option Nat) (stepped : Step s a t) (other : a ≠ .control)
    (tracked : Tracked s pendings)
    (fresh : ∀ published ∈ (notePendings pendings s a answers).answered,
      published ∈ pendings.answered ∨
        sendsFrame s.mqttPending = true ∧ pendings.responses.tag.published = some published)
    (message : (noteResponses pendings.responses s a answers).message =
      pendings.responses.message)
    (sends : sendsFrame t.mqttPending = true → sendsFrame s.mqttPending = true)
    (early : ∀ frame, t.obdWaitPc = .sendPending frame →
      (∃ frame, s.obdWaitPc = .sendPending frame) ∨ .changeState .sendRequest ∉ s.pending)
    (standing : Standing s pendings cycle) :
    Standing t (notePendings pendings s a answers) cycle := by
  obtain ⟨cs, _, pending⟩ := other_control stepped other
  have entered := other_cycle pendings s answers other
  have tag := tag_kept answers tracked.numbered message
  cases standing with
  | entering next cycle before =>
    apply Standing.entering
    next => rw [pending, next]
    next => rw [cycle, entered]
    next =>
      intro frame here
      rcases early frame here with ⟨frame, there⟩ | absent
      next => exact before frame there
      next => simp [next] at absent
  | awaited awaited stays quiet =>
    apply Standing.awaited
    next =>
      obtain ⟨requests, here, unanswered⟩ := awaited
      refine ⟨cs ▸ requests, entered.trans here, fun member => ?_⟩
      rcases fresh cycle member with answered | ⟨sends, published⟩
      next => exact unanswered answered
      next => exact quiet sends published
    next => rwa [cs, pending]
    next =>
      intro frames
      rw [notePendings_responses, tag]
      exact quiet (sends frames)

theorem deliver_quiet {s : State} {pendings : Pendings} {jdata : Option Json}
    {stale : CanMsgTimestamped} {answers : Option Nat}
    (punctual : AnswersCycle s pendings.responses jdata stale answers → ¬ FrameOwed s)
    (owed : FrameOwed s) (requests : s.cs.Requests) (idle : s.mqttPending = [])
    (sends : sendsFrame (mqttApply stale jdata) = true) :
    (notePendings pendings s (.mqttClient jdata stale) answers).responses.tag.published ≠
      some pendings.responses.line.cycle := by
  rw [notePendings_responses]
  intro published
  refine punctual ⟨idle, sends, requests, ?_⟩ owed
  simp only [Responses.tag, noteResponses, idle] at published
  obtain ⟨request, known, found⟩ := Option.bind_eq_some_iff.mp published
  exact Option.bind_eq_some_iff.mpr ⟨request, (Option.filter_eq_some_iff.mp known).1, found⟩

theorem standing_mqttClient {s t : State} {pendings : Pendings} {jdata : Option Json}
    {stale : CanMsgTimestamped} {cycle : Nat} (answers : Option Nat)
    (stepped : Step s (.mqttClient jdata stale) t) (tracked : Tracked s pendings)
    (punctual : AnswersCycle s pendings.responses jdata stale answers → ¬ FrameOwed s)
    (holds : Holds s pendings cycle) :
    Standing t (notePendings pendings s (.mqttClient jdata stale) answers) cycle := by
  have standing := tracked.standing cycle holds
  cases stepped with
  | deliver idle =>
    have same := other_cycle pendings s answers
      (nofun : Action.mqttClient jdata stale ≠ .control)
    cases standing with
    | entering next entered early => exact .entering next (by rw [same, entered]) early
    | awaited awaited stays quiet =>
      obtain ⟨requests, entered, unanswered⟩ := awaited
      apply Standing.awaited
      next => exact ⟨requests, same.trans entered, by simpa [notePendings, idle] using unanswered⟩
      next => exact stays
      next => exact fun sends => entered ▸
        deliver_quiet punctual (holds_owed holds) requests idle sends
  | enqueueResponse frame ops next room =>
    apply standing_other answers (.enqueueResponse frame ops next room) (by simp) tracked
    next =>
      intro published member
      simp only [notePendings, next, List.mem_append, Option.mem_toList] at member
      exact member.symm.imp id fun published => ⟨by simp [next, sendsFrame], published⟩
    next => simp [noteResponses, next]
    next => simp [next, sendsFrame]
    next => exact fun frame here => .inl ⟨frame, here⟩
    next => exact standing
  | postNetReceived ops next room =>
    apply standing_other answers (.postNetReceived ops next room) (by simp) tracked
    next => exact fun published member => .inl (by simpa [notePendings, next] using member)
    next => simp [noteResponses, next]
    next => simp [next, sendsFrame]
    next => exact fun frame here => .inl ⟨frame, here⟩
    next => exact standing

theorem standing_obdWait {s t : State} {pendings : Pendings} {stale : CanMsgTimestamped}
    {cycle : Nat} (answers : Option Nat) (stepped : Step s (.obdWait stale) t)
    (tracked : Tracked s pendings)
    (punctual : s.obdWaitPc = .responseDelay → .changeState .sendRequest ∉ s.pending)
    (holds : Holds t (notePendings pendings s (.obdWait stale) answers) cycle) :
    Standing t (notePendings pendings s (.obdWait stale) answers) cycle := by
  have before : Holds s pendings cycle := by
    cases stepped <;> simp_all [Holds, notePendings, framePending]
  apply standing_other answers stepped (by simp) tracked
  next =>
    intro published member
    left
    simp only [notePendings] at member
    split at member <;> exact member
  next => rfl
  next => cases stepped <;> exact id
  next =>
    cases stepped with
    | responseDelayed here => exact fun frame _ => .inr (punctual here)
    | _ => simp
  next => exact tracked.standing cycle before

theorem tracked_step {s t : State} {pendings : Pendings} {a : Action} {answers : Option Nat}
    (stepped : Step s a t) (punctual : Punctual (s, pendings) (a, answers))
    (tracked : Tracked s pendings) : Tracked t (notePendings pendings s a answers) := by
  have responses := notePendings_responses pendings s a answers
  constructor
  · exact handling_step stepped tracked.handling
  · rw [responses]
    exact published_le s a answers tracked.published
  · exact answered_le s a answers tracked.published tracked.answered
  · rw [responses]
    exact numbered_step s a answers tracked.numbered
  · intro cycle holds
    cases a with
    | control => exact standing_control answers stepped tracked punctual holds
    | obdWait stale => exact standing_obdWait answers stepped tracked punctual holds
    | mqttClient jdata stale =>
      have before : Holds s pendings cycle := by
        cases stepped <;> simp_all [Holds, notePendings]
      exact standing_mqttClient answers stepped tracked punctual before
    | _ =>
      have before : Holds s pendings cycle := by
        cases stepped <;> exact holds
      apply standing_other answers stepped (by simp) tracked
      next => exact fun published member => .inl member
      next => rfl
      next => cases stepped <;> exact id
      next => cases stepped <;> exact fun frame here => .inl ⟨frame, here⟩
      next => exact tracked.standing cycle before

theorem pendingDue_punctual (actions : List (Action × Option Nat))
    (punctual : pendingsHistory.Along Punctual pendingsHistory.init actions) :
    pendingsHistory.Always PendingDue pendingsHistory.init actions := by
  have start : Tracked pendingsHistory.init.1 pendingsHistory.init.2 := by
    constructor
    · exact .restart
    · exact fun _ member => absurd member List.not_mem_nil
    · exact fun _ member => absurd member List.not_mem_nil
    · exact fun _ known => nomatch known
    · exact fun _ holds => absurd (holds_owed holds) (by decide)
  apply System.always_of_along _ pendingDue_tracked start punctual
  intro p a q stepped meets tracked
  obtain ⟨inner, noted⟩ := System.labelled_step.mp stepped
  rw [← noted]
  exact tracked_step (step_iff.mp inner) meets tracked

-- The cycle has been left, or a frame of its response has been queued.
def Over (s : State) (pendings : Pendings) (cycle : Nat) : Prop :=
  cycle ≤ pendings.responses.line.cycle ∧
    (s.cs.Requests → pendings.responses.line.cycle = cycle → cycle ∈ pendings.answered)

theorem answered_grows {pendings : Pendings} {cycle : Nat} (s : State) (a : Action)
    (answers : Option Nat) (member : cycle ∈ pendings.answered) :
    cycle ∈ (notePendings pendings s a answers).answered := by
  cases a with
  | control | obdWait =>
    simp only [notePendings]
    split <;> exact member
  | mqttClient jdata stale =>
    simp only [notePendings]
    split
    next => exact List.mem_append_right _ member
    next => exact member
  | _ => exact member

theorem over_change {s : State} {pendings : Pendings} {newState : ControlState}
    {ops : List ControlOp} {cycle : Nat} (answers : Option Nat) (handling : Handling s.cs s.pending)
    (next : s.pending = .changeState newState :: ops) (ended : Over s pendings cycle) :
    Over { s with prevState := s.cs, cs := newState, pending := ops }
      (notePendings pendings s .control answers) cycle := by
  obtain ⟨entered, answered⟩ := ended
  have same := (control_answered pendings s answers).1
  rw [next] at handling
  cases newState with
  | sendRequest =>
    have later : (notePendings pendings s .control answers).responses.line.cycle =
        pendings.responses.line.cycle + 1 := by
      simp [notePendings, noteResponses, noteLine, next]
    refine ⟨by omega, fun _ present => ?_⟩
    omega
  | waitResponse =>
    have kept : (notePendings pendings s .control answers).responses.line.cycle =
        pendings.responses.line.cycle := by
      simp [notePendings, noteResponses, noteLine, next]
    have requests : s.cs.Requests := by
      generalize s.cs = cs at handling
      cases handling
      exact .inl rfl
    exact ⟨by omega, fun _ present => same ▸ answered requests (by omega)⟩
  | _ =>
    have kept : (notePendings pendings s .control answers).responses.line.cycle =
        pendings.responses.line.cycle := by
      simp [notePendings, noteResponses, noteLine, next]
    exact ⟨by omega, fun requests => by simp [ControlState.Requests] at requests⟩

theorem over_step {s t : State} {pendings : Pendings} {a : Action} {cycle : Nat}
    (answers : Option Nat) (stepped : Step s a t) (handling : Handling s.cs s.pending)
    (ended : Over s pendings cycle) : Over t (notePendings pendings s a answers) cycle := by
  have still (cs : t.cs = s.cs)
      (kept : (notePendings pendings s a answers).responses.line.cycle =
        pendings.responses.line.cycle) : Over t (notePendings pendings s a answers) cycle := by
    obtain ⟨entered, answered⟩ := ended
    unfold Over
    rw [cs, kept]
    exact ⟨entered, fun requests present => answered_grows s a answers (answered requests present)⟩
  by_cases control : a = .control
  next =>
    subst control
    cases stepped with
    | controlChange newState ops next => exact over_change answers handling next ended
    | controlReceive event rest idle head =>
      exact still rfl (by simp [notePendings, noteResponses, noteLine, idle])
    | controlGive semaphore ops next =>
      exact still rfl (by rw [notePendings_responses]; simp [noteResponses, noteLine, next])
    | controlSend event ops next room =>
      exact still rfl (by simp [notePendings, noteResponses, noteLine, next])
  next => exact still (other_control stepped control).1 (other_cycle pendings s answers control)

-- A frame whose cycle is over is due in no state that follows.
theorem pending_late {s t : State} {pendings later : Pendings}
    (reached : pendingsHistory.Reachable (s, pendings)) (ended : Over s pendings pendings.timer)
    (reaches : pendingsHistory.Reaches (s, pendings) (t, later))
    (same : later.timer = pendings.timer) (enqueues : EnqueuesPending t) :
    ¬ PendingDue (t, later) := by
  have kept (p : State × Pendings) (a : Action × Option Nat) (q : State × Pendings)
      (stepped : pendingsHistory.step p a = some q)
      (held : Handling p.1.cs p.1.pending ∧ Over p.1 p.2 pendings.timer) :
      Handling q.1.cs q.1.pending ∧ Over q.1 q.2 pendings.timer := by
    obtain ⟨inner, noted⟩ := System.labelled_step.mp stepped
    have listed := step_iff.mp inner
    exact ⟨handling_step listed held.1, noted ▸ over_step a.2 listed held.1 held.2⟩
  have handling : Handling s.cs s.pending := by
    apply System.labelled_invariant Handling.restart _ reached
    exact fun _ _ _ _ _ stepped => handling_step (step_iff.mp stepped)
  obtain ⟨_, _, answered⟩ := System.reaches_invariant kept reaches ⟨handling, ended⟩
  intro due
  obtain ⟨requests, present, unanswered⟩ := due enqueues
  exact unanswered (same ▸ answered requests (present.trans same))

-- RESPONSE_DELAY ends, and its frame is enqueued, before the response arrives.
def dueRun : List (Action × Option Nat) :=
  unlabelled (waitRun ++ timers 3) ++
    List.replicate 3 (.mqttClient
      (some (.object [("commands", .array [commandJson blankFrame])])) blankFrame, some 0) ++
    unlabelled (controls 3)

theorem pending_due : pendingsHistory.Along Punctual pendingsHistory.init dueRun ∧
    pendingsHistory.Always PendingDue pendingsHistory.init dueRun ∧
    EnqueuesPending (after (waitRun ++ timers 2)) := by
  have punctual : pendingsHistory.Along Punctual pendingsHistory.init dueRun := by decide +kernel
  exact ⟨punctual, pendingDue_punctual dueRun punctual, ⟨_, rfl⟩, by decide⟩

-- The request is answered while `obd_wait_task` still delays its pending frame.
def overdueState : State :=
  after (waitRun ++ timers 1 ++ firstAnswer.map Prod.fst ++ controls 3 ++ timers 1)

theorem pending_overdue : ∃ pendings, pendingsHistory.Reachable (overdueState, pendings) ∧
    EnqueuesPending overdueState ∧ overdueState.cs = .responseTransmitted ∧
    ¬ PendingDue (overdueState, pendings) := by
  have enqueues : EnqueuesPending overdueState := ⟨⟨_, rfl⟩, by decide⟩
  refine ⟨⟨⟨[1], ⟨true, some 0⟩, [0], ⟨1, [], []⟩⟩, [], 1, 1⟩,
    ⟨unlabelled (waitRun ++ timers 1) ++ firstAnswer ++ unlabelled (controls 3 ++ timers 1), rfl⟩,
    enqueues, rfl, fun due => ?_⟩
  obtain ⟨busy, _⟩ := due enqueues
  exact absurd busy (by decide)

end CanMaster
