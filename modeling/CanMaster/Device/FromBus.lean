import Mathlib.Data.List.Flatten
import CanMaster.Device.OnWire
import CanMaster.Uplink.Arrivals
import CanMaster.Uplink.Filling

set_option autoImplicit false

namespace Device

open CanMaster (AppAction AppState Arrivals ArrivalsKept CanMessage CanMsgTimestamped MasterRequest
  MqttTransmitPc Records noteArrivals requestFrames uplinkFrames)
open EspMqtt Transition

variable {capacity : Nat} {setup : Setup capacity}
  {cJSONParse : List UInt8 → Option Json} {cJSONPrint : Json → String}

structure Journey where
  arrivals : Arrivals
  outcomes : Outcomes

def noteApp (arrivals : Arrivals) (b : AppState) : AppAction → Arrivals
  | .task a => noteArrivals arrivals b.tasks a
  | _ => arrivals

def noteJourney (cJSONPrint : Json → String) (journey : Journey) (d : Whole capacity) (a : Act) :
    Journey where
  arrivals :=
    match a with
    | .app a => noteApp journey.arrivals d.app a
    | _ => journey.arrivals
  outcomes := noteOutcome cJSONPrint journey.outcomes d a

def journeyHistory (cJSONParse : List UInt8 → Option Json) (cJSONPrint : Json → String)
    (setup : Setup capacity) : System (Whole capacity × Journey) Act :=
  (device cJSONParse cJSONPrint setup).observed ⟨⟨[], []⟩, []⟩ (noteJourney cJSONPrint)

def closed : MqttTransmitPc → List (Option MasterRequest)
  | .publish request => [request]
  | _ => []

structure Balanced (b : AppState) (arrivals : Arrivals) (outcomes : Outcomes) : Prop where
  kept : ArrivalsKept b.tasks arrivals
  filling : CanMaster.Filling b.tasks
  built : outcomes.map Prod.fst ++ closed b.tasks.mqttTransmitPc = arrivals.built.map some

theorem closed_transmit {s t : CanMaster.State} {arrivals : Arrivals} {tv : CanMaster.Timeval}
    {tried : CanMaster.PublishAttempt} (stepped : CanMaster.Step s (.mqttTransmit tv tried) t)
    (filling : CanMaster.Filling s)
    (apart : CanMaster.publishes s (.mqttTransmit tv tried) = false)
    {before : List (Option MasterRequest)}
    (built : before ++ closed s.mqttTransmitPc = arrivals.built.map some) :
    before ++ closed t.mqttTransmitPc =
      (noteArrivals arrivals s (.mqttTransmit tv tried)).built.map some := by
  cases stepped with
  | openEmpty here empty =>
    simp [CanMaster.Filling, CanMaster.Fills, here, empty] at filling
  | dequeueRx request cntMsg frame rest here more head =>
    obtain ⟨n, rfl⟩ := Nat.exists_eq_succ_of_ne_zero (Nat.ne_of_gt more)
    simpa [noteArrivals, here, closed] using built
  | dequeueFailed request cntMsg here more empty =>
    obtain ⟨n, rfl⟩ := Nat.exists_eq_succ_of_ne_zero (Nat.ne_of_gt more)
    simpa [noteArrivals, here, closed] using built
  | closeRequest request here =>
    simp only [here, closed, List.append_nil] at built
    simp [noteArrivals, here, closed, built]
  | publish request here => simp [CanMaster.publishes, here] at apart
  | takeNetTx here | countNone here | countSome here | postTransmitStart here | openRequest here
  | recount request here | postTransmitEnd here | delayed here =>
    simpa [noteArrivals, here, closed] using built

theorem closed_step {s t : CanMaster.State} {arrivals : Arrivals} {a : CanMaster.Action}
    (stepped : CanMaster.Step s a t) (filling : CanMaster.Filling s)
    (apart : CanMaster.publishes s a = false) {before : List (Option MasterRequest)}
    (built : before ++ closed s.mqttTransmitPc = arrivals.built.map some) :
    before ++ closed t.mqttTransmitPc = (noteArrivals arrivals s a).built.map some := by
  cases a with
  | mqttTransmit tv tried => exact closed_transmit stepped filling apart built
  | canReceive bus =>
    have same : t.mqttTransmitPc = s.mqttTransmitPc := by cases stepped <;> rfl
    have noted : (noteArrivals arrivals s (.canReceive bus)).built = arrivals.built := by
      cases bus with
      | none => rfl
      | some bus =>
        rw [noteArrivals]
        split <;> rfl
    rwa [same, noted]
  | control =>
    rw [(CanMaster.control_sameTasks stepped).mqttTransmitPc]
    exact built
  | _ =>
    rw [(CanMaster.downlink_sameUplink stepped trivial).mqttTransmitPc]
    exact built

theorem noteArrivals_fault {b : AppState} {a : CanMaster.Action} (faults : CanMaster.Faults b a)
    (apart : CanMaster.publishes b.tasks a = false) (arrivals : Arrivals) :
    noteArrivals arrivals b.tasks a = arrivals := by
  have sends : CanMaster.sends b.tasks a = true := by
    rcases faults with ⟨sends, -⟩ | ⟨publishes, -⟩
    next => exact sends
    next => simp [apart] at publishes
  cases a with
  | canReceive bus =>
    apply CanMaster.noteArrivals_elsewhere
    intro here
    simp [CanMaster.sends, CanMaster.posted, here] at sends
  | mqttTransmit tv tried =>
    rw [noteArrivals]
    split
    next here => simp [CanMaster.sends, CanMaster.posted, here] at sends
    next => rfl
  | _ => rfl

theorem apart_publishes {b : AppState} {a : CanMaster.Action} (away : apart b (.task a) = true) :
    CanMaster.publishes b.tasks a = false := by
  cases a with
  | mqttTransmit tv tried => simpa [apart] using away
  | _ => rfl

theorem balanced_app {b c : AppState} {a : AppAction} {arrivals : Arrivals} {outcomes : Outcomes}
    (away : apart b a = true) (stepped : CanMaster.application.step b a = some c)
    (balanced : Balanced b arrivals outcomes) :
    Balanced c (noteApp arrivals b a) outcomes := by
  obtain ⟨kept, filling, built⟩ := balanced
  cases (CanMaster.appStep_listed stepped).2 with
  | fault a ready faults =>
    rw [noteApp, noteArrivals_fault faults (apart_publishes away)]
    exact ⟨kept, filling, built⟩
  | task a t ready sound inner =>
    constructor
    · exact CanMaster.arrivalsKept_step inner kept
    · exact CanMaster.filling_step inner filling
    · exact closed_step inner filling (apart_publishes away) built
  | _ => exact ⟨kept, filling, built⟩

theorem handler_tasks (cJSONParse : List UInt8 → Option Json) (stale : CanMsgTimestamped)
    (b : AppState) (event : Event) :
    ∃ pending, (mqttEventHandler cJSONParse stale b event).tasks =
      { b.tasks with mqttPending := pending } := by
  cases event <;> exact ⟨_, rfl⟩

theorem balanced_step {d next : Whole capacity} {a : Act} {journey : Journey}
    (stepped : WholeStep cJSONParse cJSONPrint setup d a next)
    (balanced : Balanced d.app journey.arrivals journey.outcomes) :
    Balanced next.app (noteJourney cJSONPrint journey d a).arrivals
      (noteJourney cJSONPrint journey d a).outcomes := by
  cases stepped with
  | app a app away inner => exact balanced_app away inner balanced
  | task a client own sound created heard idle inner => exact balanced
  | callback stale drawn tick write event rest told sound idle =>
    obtain ⟨pending, tasks⟩ := handler_tasks cJSONParse stale d.app event
    obtain ⟨kept, filling, built⟩ := balanced
    constructor
    · rw [tasks]
      exact CanMaster.arrivalsKept_same kept rfl rfl rfl
    · rwa [CanMaster.Filling, tasks]
    · rwa [tasks]
  | publish tv drawn tick write request here sound created set honest =>
    obtain ⟨kept, filling, built⟩ := balanced
    constructor
    · refine CanMaster.arrivalsKept_same kept rfl rfl ?_
      simp [uplinkFrames, CanMaster.building, here, noteJourney]
    · trivial
    · rw [here] at built
      simpa [noteJourney, noteOutcome, here, set, closed] using built
  | noHandle tv drawn tick write request here sound created unset =>
    obtain ⟨kept, filling, built⟩ := balanced
    refine ⟨kept, filling, ?_⟩
    simpa [noteJourney, noteOutcome, here, unset] using built

theorem journey_outcomes : Simulation (journeyHistory cJSONParse cJSONPrint setup)
    (outcomeHistory cJSONParse cJSONPrint setup) (fun _ => True) (fun p => (p.1, p.2.outcomes))
    (fun _ a => [a]) where
  same := rfl
  begins := trivial
  step := by
    intro p a q stepped _
    obtain ⟨inner, noted⟩ := System.observed_step.mp stepped
    have outcome : (outcomeHistory cJSONParse cJSONPrint setup).step (p.1, p.2.outcomes) a =
        some (q.1, q.2.outcomes) :=
      System.observed_step.mpr ⟨inner, congrArg Journey.outcomes noted⟩
    exact ⟨trivial, by simp [outcome]⟩

theorem forall₂_sublist {α β : Type} {R : α → β → Prop} {arrived : List α} {kept all : List β}
    (included : kept.Sublist all) (related : List.Forall₂ R arrived all) :
    ∃ seen : List α, seen.Sublist arrived ∧ List.Forall₂ R seen kept := by
  induction included generalizing arrived with
  | slnil => exact ⟨[], List.nil_sublist _, .nil⟩
  | cons lost included ih =>
    cases related with
    | cons first rest =>
      obtain ⟨seen, earlier, same⟩ := ih rest
      exact ⟨seen, earlier.cons _, same⟩
  | cons_cons one included ih =>
    cases related with
    | cons first rest =>
      obtain ⟨seen, earlier, same⟩ := ih rest
      exact ⟨_, earlier.cons_cons _, .cons first same⟩

def sentFrames (outcomes : Outcomes) : List CanMsgTimestamped :=
  (sent outcomes).flatMap requestFrames

theorem built_frames (requests : List MasterRequest) :
    (requests.map some).flatMap requestFrames = requests.flatMap MasterRequest.commands := by
  rw [List.flatMap_map]
  rfl

theorem sentFrames_sublist {b : AppState} {arrivals : Arrivals} {outcomes : Outcomes}
    (balanced : Balanced b arrivals outcomes) :
    (sentFrames outcomes).Sublist (uplinkFrames b.tasks arrivals) := by
  have published : (sent outcomes).Sublist (arrivals.built.map some) := by
    rw [← balanced.built]
    exact (List.filter_sublist.map _).trans (List.sublist_append_left _ _)
  have frames := published.flatMap requestFrames
  rw [built_frames] at frames
  simp only [uplinkFrames, List.append_assoc]
  exact frames.trans (List.sublist_append_left _ _)

theorem sentFrames_prefix {b : AppState} {arrivals : Arrivals} {outcomes : Outcomes}
    (balanced : Balanced b arrivals outcomes) (all : ∀ outcome ∈ outcomes, outcome.2 = true) :
    sentFrames outcomes <+: uplinkFrames b.tasks arrivals := by
  have published : sent outcomes <+: arrivals.built.map some := by
    rw [← balanced.built, sent, List.filter_eq_self.mpr all]
    exact List.prefix_append _ _
  obtain ⟨others, same⟩ := published
  have frames := congrArg (List.flatMap requestFrames) same
  rw [List.flatMap_append, built_frames] at frames
  simp only [uplinkFrames, List.append_assoc, ← frames]
  exact List.prefix_append _ _

def askingRun : List Act :=
  (CanMaster.startUp ++ CanMaster.arrive ++ CanMaster.controls 4 ++ CanMaster.transmits 7).map
    fun a => .app (.task a)

def requestRun : List Act :=
  connectedRun ++ askingRun ++ [.publish ⟨0, 0⟩ drawnId 10 ⟨100, 11⟩]

end Device
