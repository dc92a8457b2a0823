import CanMaster.Control.Handling

set_option autoImplicit false

namespace CanMaster

open Transition

/-- The number of the present cycle, the cycles that the token of `obd_tx_wait`, the delay of
`obd_wait_task` and each `EV_BIG_TIMEOUT` in `controlEvents` come from, and whether the timer
was idle when the present cycle began. -/
structure TimerHistory where
  cycle : Nat
  token : Nat
  timer : Nat
  queued : List Nat
  idle : Bool

-- Nothing of an earlier cycle is left: no token, no delay and no timeout.
def TimerIdle (s : State) : Prop :=
  s.semaphores.obdTxWait = false ∧ s.obdWaitPc = .takeObdTxWait ∧
    .bigTimeout ∉ s.controlEvents.items

instance (s : State) : Decidable (TimerIdle s) := inferInstanceAs (Decidable (_ ∧ _))

-- Giving a semaphore that is already given gives no new token.
def noteTimer (history : TimerHistory) (s : State) : Action → TimerHistory
  | .control =>
      match s.pending with
      | [] =>
          if s.controlEvents.items.head? = some .bigTimeout then
            { history with queued := history.queued.tail }
          else history
      | .give .obdTxWait :: _ =>
          { history with
            cycle := history.cycle + 1
            token := if s.semaphores.obdTxWait then history.token else history.cycle + 1
            idle := decide (TimerIdle s) }
      | _ => history
  | .obdWait _ =>
      match s.obdWaitPc with
      | .takeObdTxWait => { history with timer := history.token }
      | .sendTimeout => { history with queued := history.queued ++ [history.timer] }
      | _ => history
  | _ => history

def timerHistory : System (State × TimerHistory) Action :=
  firmware.observed ⟨0, 0, 0, [], true⟩ noteTimer

-- The cycles of the timeouts to come, in the order in which they will come.
def timeoutLine (s : State) (history : TimerHistory) : List Nat :=
  history.queued ++ (if s.obdWaitPc = .takeObdTxWait then [] else [history.timer]) ++
    if s.semaphores.obdTxWait then [history.token] else []

def InCycle (s : State) : Prop :=
  (landing s.cs s.pending = .sendRequest ∨ landing s.cs s.pending = .waitResponse) ∧
    .give .obdTxWait ∉ s.pending

structure TimerLine (s : State) (history : TimerHistory) : Prop where
  handling : Handling s.cs s.pending
  counted : history.queued.length = s.controlEvents.items.count .bigTimeout
  earlier : ∀ cycle ∈ timeoutLine s history, cycle ≤ history.cycle
  first : InCycle s →
    ∃ cycle, (timeoutLine s history).head? = some cycle ∧
      (cycle = history.cycle ↔ history.idle = true)

theorem timerIdle_iff {s : State} {history : TimerHistory} (line : TimerLine s history) :
    TimerIdle s ↔ timeoutLine s history = [] := by
  have none : history.queued = [] ↔ .bigTimeout ∉ s.controlEvents.items := by
    rw [← List.count_eq_zero, ← line.counted, List.length_eq_zero_iff]
  simp only [TimerIdle, timeoutLine, List.append_eq_nil_iff, ← none]
  by_cases given : s.semaphores.obdTxWait = true <;>
    by_cases waiting : s.obdWaitPc = .takeObdTxWait <;> simp [given, waiting]

theorem inCycle_bigTimeout (cs : ControlState) :
    controlNext cs .bigTimeout ≠ .sendRequest ∧ controlNext cs .bigTimeout ≠ .waitResponse := by
  cases cs <;> decide

theorem inCycle_before (cs : ControlState) (event : ControlEvent)
    (goes : controlNext cs event = .sendRequest ∨ controlNext cs event = .waitResponse)
    (silent : .give .obdTxWait ∉ controlHandler cs event) :
    cs = .sendRequest ∨ cs = .waitResponse := by
  revert goes silent
  cases cs <;> cases event <;> decide

theorem timerLine_same {s t : State} {history : TimerHistory} (line : TimerLine s history)
    (handling : Handling t.cs t.pending)
    (count : t.controlEvents.items.count .bigTimeout = s.controlEvents.items.count .bigTimeout)
    (pc : t.obdWaitPc = s.obdWaitPc)
    (given : t.semaphores.obdTxWait = s.semaphores.obdTxWait) (cycle : InCycle t → InCycle s) :
    TimerLine t history := by
  have same : timeoutLine t history = timeoutLine s history := by
    simp only [timeoutLine, pc, given]
  constructor
  · exact handling
  · rw [count, line.counted]
  · rw [same]
    exact line.earlier
  · rw [same]
    exact fun inside => line.first (cycle inside)

theorem timerLine_receive {s : State} {history : TimerHistory} {event : ControlEvent}
    {rest : List ControlEvent} (line : TimerLine s history) (idle : s.pending = [])
    (head : s.controlEvents.items = event :: rest) :
    TimerLine
      { s with
        controlEvents := s.controlEvents.tail
        pending := controlHandler s.cs event }
      (noteTimer history s .control) := by
  have handling := handling_control (.controlReceive event rest idle head) line.handling
  by_cases timeout : event = .bigTimeout
  next =>
    subst timeout
    have noted : noteTimer history s .control = { history with queued := history.queued.tail } := by
      simp [noteTimer, idle, head]
    have counted := line.counted
    rw [head, List.count_cons_self] at counted
    have shorter : List.Sublist (timeoutLine s { history with queued := history.queued.tail })
        (timeoutLine s history) :=
      ((List.tail_sublist _).append_right _).append_right _
    rw [noted]
    constructor
    · exact handling
    · simp [counted, head]
    · exact fun cycle member => line.earlier cycle (shorter.subset member)
    · rintro ⟨goes, _⟩
      have ended := inCycle_bigTimeout s.cs
      exact (goes.elim ended.1 ended.2).elim
  next =>
    have noted : noteTimer history s .control = history := by
      simp [noteTimer, idle, head, timeout]
    rw [noted]
    apply timerLine_same line handling _ rfl rfl
    next =>
      rintro ⟨goes, silent⟩
      have before := inCycle_before s.cs event goes silent
      simpa [InCycle, idle, landing] using before
    next => simp [head, timeout]

theorem timerLine_begin {s : State} {history : TimerHistory} {ops : List ControlOp}
    (line : TimerLine s history) (next : s.pending = .give .obdTxWait :: ops) :
    TimerLine { s with semaphores := s.semaphores.give .obdTxWait, pending := ops }
      (noteTimer history s .control) := by
  have handling := handling_control (.controlGive .obdTxWait ops next) line.handling
  have begun : timeoutLine { s with semaphores := s.semaphores.give .obdTxWait, pending := ops }
      (noteTimer history s .control) =
        timeoutLine s history ++ if s.semaphores.obdTxWait then [] else [history.cycle + 1] := by
    by_cases given : s.semaphores.obdTxWait = true <;>
      simp [timeoutLine, noteTimer, next, Semaphores.give, given]
  have noted : (noteTimer history s .control).cycle = history.cycle + 1 ∧
      (noteTimer history s .control).idle = decide (TimerIdle s) ∧
      (noteTimer history s .control).queued = history.queued := by
    simp [noteTimer, next]
  obtain ⟨cycle, idle, queued⟩ := noted
  constructor
  · exact handling
  · rw [queued]
    exact line.counted
  · rw [begun, cycle]
    intro later member
    rcases List.mem_append.mp member with earlier | fresh
    next =>
      have := line.earlier later earlier
      omega
    next =>
      split at fresh <;> simp at fresh
      omega
  · intro _
    rw [begun, cycle, idle, decide_eq_true_iff, timerIdle_iff line]
    cases waiting : timeoutLine s history with
    | nil =>
      have fresh := ((timerIdle_iff line).mpr waiting).1
      exact ⟨history.cycle + 1, by simp [fresh], by simp⟩
    | cons oldest others =>
      have old := line.earlier oldest (by simp [waiting])
      refine ⟨oldest, by simp, ?_⟩
      simp
      omega

theorem timerLine_control {s t : State} {history : TimerHistory} (stepped : Step s .control t)
    (line : TimerLine s history) : TimerLine t (noteTimer history s .control) := by
  have handling := handling_control stepped line.handling
  cases stepped with
  | controlReceive event rest idle head => exact timerLine_receive line idle head
  | controlGive semaphore ops next =>
    by_cases begins : semaphore = .obdTxWait
    next =>
      subst begins
      exact timerLine_begin line next
    next =>
      have noted : noteTimer history s .control = history := by
        cases semaphore <;> simp_all [noteTimer]
      rw [noted]
      apply timerLine_same line handling rfl rfl
      next => cases semaphore <;> first | contradiction | rfl
      next => simp [InCycle, next, landing, Ne.symm begins]
  | controlChange newState ops next =>
    have noted : noteTimer history s .control = history := by simp [noteTimer, next]
    rw [noted]
    exact timerLine_same line handling rfl rfl rfl (by simp [InCycle, next, landing])
  | controlSend event ops next room =>
    have before := line.handling
    rw [next] at before
    obtain ⟨rfl, rfl, _⟩ := handling_send before
    have noted : noteTimer history s .control = history := by simp [noteTimer, next]
    rw [noted]
    apply timerLine_same line handling _ rfl rfl
    next => simp [InCycle, next, landing]
    next => simp

theorem inCycle_other {s t : State} {a : Action} (stepped : Step s a t) (other : a ≠ .control) :
    InCycle t → InCycle s := by
  obtain ⟨cs, _, pending⟩ := other_control stepped other
  simp [InCycle, cs, pending]

theorem noteTimer_obdWait (history : TimerHistory) (s : State) (stale : CanMsgTimestamped) :
    (noteTimer history s (.obdWait stale)).cycle = history.cycle ∧
      (noteTimer history s (.obdWait stale)).idle = history.idle := by
  simp only [noteTimer]
  split <;> simp

theorem timerLine_obdWait {s t : State} {history : TimerHistory} {stale : CanMsgTimestamped}
    (stepped : Step s (.obdWait stale) t) (line : TimerLine s history) :
    TimerLine t (noteTimer history s (.obdWait stale)) := by
  have handling := handling_step stepped line.handling
  have inside := inCycle_other stepped (by simp)
  obtain ⟨cycle, idle⟩ := noteTimer_obdWait history s stale
  -- A token, a delay and a timeout keep their place in the line when one becomes the next.
  have moves
      (counted : (noteTimer history s (.obdWait stale)).queued.length =
        t.controlEvents.items.count .bigTimeout)
      (same : timeoutLine t (noteTimer history s (.obdWait stale)) = timeoutLine s history) :
      TimerLine t (noteTimer history s (.obdWait stale)) := by
    constructor
    · exact handling
    · exact counted
    · rw [same, cycle]
      exact line.earlier
    · rw [same, cycle, idle]
      exact fun present => line.first (inside present)
  have counted := line.counted
  cases stepped with
  | takeObdTxWait here given =>
    apply moves
    next => simpa [noteTimer, here] using counted
    next => simp [noteTimer, timeoutLine, here, given]
  | responseDelayed here =>
    apply moves
    next => simpa [noteTimer, here] using counted
    next => simp [noteTimer, timeoutLine, here]
  | enqueuePending frame here room =>
    apply moves
    next => simpa [noteTimer, here] using counted
    next => simp [noteTimer, timeoutLine, here]
  | bigDelayed here =>
    apply moves
    next => simpa [noteTimer, here] using counted
    next => simp [noteTimer, timeoutLine, here]
  | postBigTimeout here room =>
    apply moves
    next => simp [noteTimer, here, counted]
    next => simp [noteTimer, timeoutLine, here]

theorem timerLine_step {s t : State} {history : TimerHistory} {a : Action}
    (stepped : Step s a t) (line : TimerLine s history) :
    TimerLine t (noteTimer history s a) := by
  have away (other : a ≠ .control) (silent : .bigTimeout ∉ posted s a)
      (pc : t.obdWaitPc = s.obdWaitPc)
      (given : t.semaphores.obdTxWait = s.semaphores.obdTxWait) : TimerLine t history := by
    apply timerLine_same line (handling_step stepped line.handling) _ pc given
    next => exact inCycle_other stepped other
    next => rw [other_events stepped other, List.count_append, List.count_eq_zero.mpr silent,
      Nat.add_zero]
  have uplink (other : a ≠ .control) (up : a.Uplink) : TimerLine t history := by
    have same := uplink_sameDownlink stepped up
    exact away other (uplink_posted up).2 same.obdWaitPc same.obdTxWait
  cases a with
  | control => exact timerLine_control stepped line
  | obdWait stale => exact timerLine_obdWait stepped line
  | canReceive bus => exact uplink (by simp) trivial
  | mqttTransmit tv attempt => exact uplink (by simp) trivial
  | canTransmit accepted =>
    apply away (by simp)
    next => simp only [posted]; split <;> simp
    next => cases stepped <;> rfl
    next => cases stepped <;> rfl
  | mqttClient jdata stale =>
    apply away (by simp)
    next => simp only [posted]; split <;> simp
    next => cases stepped <;> rfl
    next => cases stepped <;> rfl

theorem timerLine_reachable {s : State} {history : TimerHistory}
    (reached : timerHistory.Reachable (s, history)) : TimerLine s history := by
  have start : TimerLine initialState ⟨0, 0, 0, [], true⟩ := by
    constructor
    · exact .restart
    · rfl
    · simp [timeoutLine, initialState]
    · simp [InCycle, initialState, landing]
  exact System.observed_invariant start
    (fun _ _ _ _ stepped => timerLine_step (step_iff.mp stepped)) reached

/-- `control_task` is about to receive a timeout that makes it leave SEND_REQUEST or
WAIT_RESPONSE. -/
structure TimesOut (s : State) : Prop where
  idle : s.pending = []
  head : s.controlEvents.items.head? = some .bigTimeout
  waits : s.cs = .sendRequest ∨ s.cs = .waitResponse

theorem timeout_own_iff {s : State} {history : TimerHistory}
    (reached : timerHistory.Reachable (s, history)) (timesOut : TimesOut s) :
    history.queued.head? = some history.cycle ↔ history.idle = true := by
  have line := timerLine_reachable reached
  obtain ⟨rest, head⟩ : ∃ rest, s.controlEvents.items = .bigTimeout :: rest := by
    simpa [List.head?_eq_some_iff] using timesOut.head
  have inside : InCycle s := by
    simp [InCycle, timesOut.idle, landing, timesOut.waits]
  obtain ⟨cycle, first, own⟩ := line.first inside
  have counted := line.counted
  rw [head, List.count_cons_self] at counted
  obtain ⟨tag, tags, queued⟩ := List.exists_cons_of_length_eq_add_one counted
  simp only [timeoutLine, queued, List.cons_append, List.head?_cons, Option.some.injEq] at first
  rw [queued, List.head?_cons, Option.some.injEq, first, own]

def timedOutRun : List Action := startUp ++ arrive ++ controls 4 ++ timers 5

theorem timeout_own : ∃ history, timerHistory.Reachable (after timedOutRun, history) ∧
    TimesOut (after timedOutRun) ∧ history.queued.head? = some history.cycle := by
  have reached : timerHistory.Reachable (after timedOutRun, ⟨1, 1, 1, [1], true⟩) :=
    ⟨timedOutRun, rfl⟩
  have timesOut : TimesOut (after timedOutRun) := ⟨rfl, rfl, .inl rfl⟩
  exact ⟨_, reached, timesOut, (timeout_own_iff reached timesOut).mpr rfl⟩

-- The first cycle is answered while its timer runs, and the timer ends the second one.
def staleTimerRun : List Action :=
  startUp ++ arrive ++ controls 4 ++ transmits 10 ++ timers 1 ++ controls 4 ++
    List.replicate 2 answer ++ controls 3 ++ arrive ++ controls 4 ++ arrive ++
    controls 4 ++ timers 4

theorem timeout_stale : ∃ history, timerHistory.Reachable (after staleTimerRun, history) ∧
    TimesOut (after staleTimerRun) ∧ history.queued.head? = some 1 ∧ history.cycle = 2 :=
  ⟨⟨2, 2, 1, [1], false⟩, ⟨staleTimerRun, rfl⟩, ⟨rfl, rfl, .inl rfl⟩, rfl, rfl⟩

end CanMaster
