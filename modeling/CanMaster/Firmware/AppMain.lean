import CanMaster.Firmware.Steps

set_option autoImplicit false

namespace CanMaster

open Transition

inductive Task where
  | mqttClient
  | mqttTransmit
  | obdWait
  | canTransmit
  | canReceive
  | control
  deriving DecidableEq

def Action.task : Action → Task
  | .control => .control
  | .canReceive _ => .canReceive
  | .canTransmit _ => .canTransmit
  | .mqttTransmit _ _ => .mqttTransmit
  | .obdWait _ => .obdWait
  | .mqttClient _ _ => .mqttClient

inductive AppOp where
  | mqttInitM
  | canInit
  | createTask (task : Task)

-- The semaphores and the frame queues exist already.
def appMain : List AppOp := [
  .mqttInitM,
  .canInit,
  .createTask .mqttTransmit,
  .createTask .obdWait,
  .createTask .canTransmit,
  .createTask .canReceive,
  .createTask .control]

def AppOp.created : AppOp → List Task
  | .mqttInitM => [.mqttClient]
  | .canInit => []
  | .createTask task => [task]

-- `queueCreated` says that `control_task` has created `controlEvents`, and `client` that the
-- handle of the file has been set. `MqttInitM` fills a local of the same name.
structure AppState where
  remaining : List AppOp
  created : List Task
  queueCreated : Bool
  client : Bool
  connected : Bool
  faulted : Bool
  tasks : State

inductive AppAction where
  | appMain
  | createQueue
  | connect (accepted : Bool)
  | disconnect
  | task (a : Action)

-- Does a step of the task send to `controlEvents`?
def sends (s : State) : Action → Bool
  | .control =>
      match s.pending with
      | .send _ :: _ => true
      | _ => false
  | a => posted s a ≠ []

def publishes (s : State) : Action → Bool
  | .mqttTransmit _ _ =>
      match s.mqttTransmitPc with
      | .publish _ => true
      | _ => false
  | _ => false

-- Is the step the beginning of a callback with data?
def delivers (s : State) : Action → Bool
  | .mqttClient _ _ => s.mqttPending = []
  | _ => false

-- The first step of `control_task` creates the queue, and data arrives on a connection.
structure Ready (b : AppState) (a : Action) : Prop where
  created : a.task ∈ b.created
  queue : a.task = .control → b.queueCreated = true
  data : delivers b.tasks a = true → b.connected = true

-- A send to a queue that is not there fails its assertion, and a publish reads the state of
-- the client through the handle.
def Faults (b : AppState) (a : Action) : Prop :=
  (sends b.tasks a = true ∧ b.queueCreated = false) ∨
    (publishes b.tasks a = true ∧ b.client = false)

instance (b : AppState) (a : Action) : Decidable (Ready b a) :=
  decidable_of_iff
    (a.task ∈ b.created ∧ (a.task = .control → b.queueCreated = true) ∧
      (delivers b.tasks a = true → b.connected = true))
    ⟨fun ⟨created, queue, data⟩ => ⟨created, queue, data⟩,
      fun ⟨created, queue, data⟩ => ⟨created, queue, data⟩⟩

instance (b : AppState) (a : Action) : Decidable (Faults b a) :=
  inferInstanceAs (Decidable (_ ∨ _))

def taskStep (b : AppState) (a : Action) : Option AppState :=
  if Ready b a then
    if Faults b a then some { b with faulted := true }
    else
      (step b.tasks a).map fun tasks =>
        { b with tasks := tasks, client := b.client || delivers b.tasks a }
  else none

-- The callback sets the handle on every event. A connection that is refused is an event too,
-- and the client task dispatches none while it is inside the callback. A fault ends the run.
def appStep (b : AppState) (a : AppAction) : Option AppState :=
  if b.faulted then none
  else
    match a with
    | .appMain =>
        match b.remaining with
        | [] => none
        | op :: rest => some { b with remaining := rest, created := op.created ++ b.created }
    | .createQueue =>
        if .control ∈ b.created ∧ b.queueCreated = false then
          some { b with queueCreated := true }
        else none
    | .connect accepted =>
        if .mqttClient ∈ b.created ∧ b.tasks.mqttPending = [] ∧ b.connected = false then
          some { b with client := true, connected := accepted }
        else none
    | .disconnect =>
        if b.tasks.mqttPending = [] ∧ b.connected = true then
          some { b with client := true, connected := false }
        else none
    | .task a => taskStep b a

def appInitial : AppState where
  remaining := appMain
  created := []
  queueCreated := false
  client := false
  connected := false
  faulted := false
  tasks := initialState

def application : System AppState AppAction := ⟨appInitial, appStep⟩

inductive AppStep (b : AppState) : AppAction → AppState → Prop where
  | appMain (op : AppOp) (rest : List AppOp) (next : b.remaining = op :: rest) :
      AppStep b .appMain { b with remaining := rest, created := op.created ++ b.created }
  | createQueue (created : .control ∈ b.created) (fresh : b.queueCreated = false) :
      AppStep b .createQueue { b with queueCreated := true }
  | connect (accepted : Bool) (created : .mqttClient ∈ b.created)
      (idle : b.tasks.mqttPending = []) (apart : b.connected = false) :
      AppStep b (.connect accepted) { b with client := true, connected := accepted }
  | disconnect (idle : b.tasks.mqttPending = []) (connected : b.connected = true) :
      AppStep b .disconnect { b with client := true, connected := false }
  | fault (a : Action) (ready : Ready b a) (faults : Faults b a) :
      AppStep b (.task a) { b with faulted := true }
  | task (a : Action) (t : State) (ready : Ready b a) (sound : ¬ Faults b a)
      (stepped : Step b.tasks a t) :
      AppStep b (.task a) { b with tasks := t, client := b.client || delivers b.tasks a }

theorem taskStep_listed {b c : AppState} {a : Action} (stepped : taskStep b a = some c) :
    AppStep b (.task a) c := by
  unfold taskStep at stepped
  split at stepped
  next ready =>
    split at stepped
    next faults =>
      cases stepped
      exact .fault a ready faults
    next sound =>
      obtain ⟨t, inner, rfl⟩ := Option.map_eq_some_iff.mp stepped
      exact .task a t ready sound (step_iff.mp inner)
  next => cases stepped

theorem appStep_listed {b c : AppState} {a : AppAction}
    (stepped : application.step b a = some c) : b.faulted = false ∧ AppStep b a c := by
  have taken : appStep b a = some c := stepped
  unfold appStep at taken
  split at taken
  next => cases taken
  next sound =>
    refine ⟨by simpa using sound, ?_⟩
    cases a with
    | appMain =>
      cases next : b.remaining with
      | nil => simp [next] at taken
      | cons op rest =>
        simp only [next, Option.some.injEq] at taken
        exact taken ▸ .appMain op rest next
    | createQueue =>
      simp only [Option.ite_none_right_eq_some, Option.some.injEq] at taken
      obtain ⟨⟨created, fresh⟩, rfl⟩ := taken
      exact .createQueue created fresh
    | connect accepted =>
      simp only [Option.ite_none_right_eq_some, Option.some.injEq] at taken
      obtain ⟨⟨created, idle, apart⟩, rfl⟩ := taken
      exact .connect accepted created idle apart
    | disconnect =>
      simp only [Option.ite_none_right_eq_some, Option.some.injEq] at taken
      obtain ⟨⟨idle, connected⟩, rfl⟩ := taken
      exact .disconnect idle connected
    | task a => exact taskStep_listed taken

theorem tasks_reachable {b : AppState} (reached : application.Reachable b) :
    firmware.Reachable b.tasks := by
  have start : firmware.Reachable application.init.tasks := firmware.reaches_refl _
  have kept (b : AppState) (a : AppAction) (c : AppState) (stepped : application.step b a = some c)
      (held : firmware.Reachable b.tasks) : firmware.Reachable c.tasks := by
    cases (appStep_listed stepped).2 with
    | task a t ready sound inner => exact held.step (step_iff.mpr inner)
    | _ => exact held
  exact System.reachable_invariant start kept reached

end CanMaster
