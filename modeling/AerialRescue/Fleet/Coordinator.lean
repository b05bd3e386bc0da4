import AerialRescue.Lib.Run
import AerialRescue.Lib.Table
import Mathlib.Data.List.Induction

/-!
# The coordinator of fleet runs

`FleetCoordinator` of the fleet simulator: one record for each run identifier,
whose task enters the executor once.  Everything that the coordinator does
between two suspensions is one action, since no section under its lock waits
for anything; the actions of calls and tasks come in any order.

The executor is not part of the model.  Its calls end as it likes, with a
terminal status, an error or a cancellation that was asked for.
-/

namespace AerialRescue.Fleet.Coordinator

open AerialRescue.Lib AerialRescue.Lib.Run

/-! ## Runs -/

/-- `FleetRunState` -/
inductive FleetRunState where
  | accepted
  | running
  | exhausted
  | cancelled
  | failed
deriving DecidableEq

/-- `_ACTIVE_STATES` -/
def FleetRunState.isActive : FleetRunState → Bool
  | .accepted | .running => true
  | _ => false

/-- `FleetControlRunStatus` -/
structure RunStatus where
  missionId : String
  runId : String
  state : FleetRunState
  completedTickCount : Nat
  telemetryPublicationCount : Nat
deriving DecidableEq

/-- A status that the executor returns when a run is isOver. -/
structure TerminalStatus where
  status : RunStatus
  terminal : status.state.isActive = false

/-- `FleetControlStartRequest`, with what is in it beside the identifiers. -/
structure StartRequest (Document : Type) where
  runId : String
  missionId : String
  document : Document
deriving DecidableEq

/-- `ControlRefusal`, as far as the coordinator raises it. -/
inductive ControlRefusal where
  | runConflict
  | capacityExceeded
  | runNotFound
  | pathBodyMismatch
  | cancellationNotEstablished
deriving DecidableEq

/-- How far a run's task is: not begun, inside `executor.execute`, at its end,
or left through a cancellation. -/
inductive Phase where
  | created
  | executing
  | ended
  | aborted
deriving DecidableEq

/-- The task does nothing more. -/
def Phase.isOver : Phase → Bool
  | .ended | .aborted => true
  | _ => false

/-- `_RunRecord`, with the request and the progress of its task. -/
structure RunRecord (Document Digest : Type) where
  request : StartRequest Document
  digest : Digest
  status : RunStatus
  cancelled : Bool
  phase : Phase
  /-- `task.cancel()` was called. -/
  abortRequested : Bool
deriving DecidableEq

/-- Where a call of `shutdown` is after its section under the lock. -/
inductive ShutdownState where
  | gathering
  /-- The bound passed, and the tasks were cancelled. -/
  | forcing
  | returned
  | raised
deriving DecidableEq

/-- A call of `shutdown`, with the runs whose tasks it collected. -/
structure Shutdown where
  awaited : List String
  state : ShutdownState
deriving DecidableEq

variable {Document Digest : Type}

/-- `_status` -/
def status (request : StartRequest Document) (state : FleetRunState) :
    RunStatus where
  missionId := request.missionId
  runId := request.runId
  state := state
  completedTickCount := 0
  telemetryPublicationCount := 0

/-- The key of a record. -/
def runKey (record : RunRecord Document Digest) : String :=
  record.request.runId

namespace RunRecord

/-- The record that `start` makes. -/
def accepted (request : StartRequest Document) (digest : Digest) :
    RunRecord Document Digest where
  request := request
  digest := digest
  status := Coordinator.status request .accepted
  cancelled := false
  phase := .created
  abortRequested := false

/-- The status is in `_ACTIVE_STATES`. -/
def isActive (record : RunRecord Document Digest) : Bool :=
  record.status.state.isActive

/-- `_execute`, up to the call of the executor. -/
def enter (record : RunRecord Document Digest) : RunRecord Document Digest :=
  { record with
    status := Coordinator.status record.request .running
    phase := .executing }

/-- `_execute`, from the executor's result. -/
def finish (result : TerminalStatus) (record : RunRecord Document Digest) :
    RunRecord Document Digest :=
  { record with
    status :=
      if result.status.runId = record.request.runId ∧
          result.status.missionId = record.request.missionId then
        result.status
      else Coordinator.status record.request .failed
    phase := .ended }

/-- `_execute`, from the executor's error. -/
def fail (record : RunRecord Document Digest) : RunRecord Document Digest :=
  { record with
    status := Coordinator.status record.request .failed
    phase := .ended }

/-- A cancellation leaves `_execute` with the status as it is. -/
def abort (record : RunRecord Document Digest) : RunRecord Document Digest :=
  { record with phase := .aborted }

/-- `cancelled.set()` -/
def signal (record : RunRecord Document Digest) : RunRecord Document Digest :=
  { record with cancelled := true }

/-- `task.cancel()` on the tasks that a call of `shutdown` collected. -/
def requestAbort (awaited : List String)
    (record : RunRecord Document Digest) : RunRecord Document Digest :=
  { record with
    abortRequested :=
      record.abortRequested || decide (runKey record ∈ awaited) }

/-- A task that was cancelled before its first step takes none. -/
def mayEnter (record : RunRecord Document Digest) : Bool :=
  record.phase = .created && !record.abortRequested

def isExecuting (record : RunRecord Document Digest) : Bool :=
  record.phase = .executing

/-- The executor may end by a cancellation of its own. -/
def mayAbort (record : RunRecord Document Digest) : Bool :=
  record.phase = .executing ||
    (record.phase = .created && record.abortRequested)

@[simp]
theorem runKey_enter (record : RunRecord Document Digest) :
    runKey record.enter = runKey record :=
  rfl

@[simp]
theorem runKey_signal (record : RunRecord Document Digest) :
    runKey record.signal = runKey record :=
  rfl

@[simp]
theorem runKey_requestAbort (awaited : List String)
    (record : RunRecord Document Digest) :
    runKey (record.requestAbort awaited) = runKey record :=
  rfl

end RunRecord

/-- The fields of `FleetCoordinator`, the run identifiers that
`executor.execute` was entered for, the calls of `cancel` with the run whose
task they wait for, and the calls of `shutdown`. -/
structure FleetCoordinator (Document Digest : Type) where
  capacity : Nat
  started : Bool
  runs : Table (@runKey Document Digest)
  entries : List String
  cancels : List (Option String)
  shutdowns : List Shutdown

/-- What calls and tasks do between two suspensions. -/
inductive Action (Document : Type) where
  | startup
  | start (request : StartRequest Document)
  | status (runId : String)
  | taskBegins (runId : String)
  | executeReturns (runId : String) (result : TerminalStatus)
  | executeRaises (runId : String)
  | taskAborts (runId : String)
  | cancel (runId missionId : String)
  | cancelReturns (call : Nat)
  | cancelTimesOut (call : Nat)
  | cancelRaises (call : Nat)
  | shutdown
  | shutdownTimesOut (call : Nat)
  | shutdownRaises (call : Nat)
  | shutdownInterrupted (call : Nat)
  | shutdownReturns (call : Nat)

/-- What a call returns or raises. -/
abbrev Answer := Except ControlRefusal RunStatus

namespace FleetCoordinator

/-- `FleetCoordinator(…)` -/
def new (capacity : Nat) : FleetCoordinator Document Digest where
  capacity := capacity
  started := false
  runs := Table.empty
  entries := []
  cancels := []
  shutdowns := []

/-- How many runs are in an active state. -/
def active (coordinator : FleetCoordinator Document Digest) : Nat :=
  coordinator.runs.rows.countP RunRecord.isActive

/-- The record of a new run joins the others. -/
def addRun (coordinator : FleetCoordinator Document Digest)
    (record : RunRecord Document Digest) :
    FleetCoordinator Document Digest :=
  { coordinator with
    runs := (coordinator.runs.insert? record).getD coordinator.runs }

/-- `start`, with what it returns or raises. -/
def start [DecidableEq Digest] (digest : StartRequest Document → Digest)
    (coordinator : FleetCoordinator Document Digest)
    (request : StartRequest Document) :
    FleetCoordinator Document Digest × Answer :=
  match coordinator.runs.find? request.runId with
  | some known =>
      if known.digest ≠ digest request then
        (coordinator, .error .runConflict)
      else (coordinator, .ok known.status)
  | none =>
      if coordinator.capacity ≤ coordinator.active then
        (coordinator, .error .capacityExceeded)
      else
        let record := RunRecord.accepted request (digest request)
        (coordinator.addRun record, .ok record.status)

/-- `status` -/
def status (coordinator : FleetCoordinator Document Digest)
    (runId : String) : Answer :=
  match coordinator.runs.find? runId with
  | some record => .ok record.status
  | none => .error .runNotFound

/-- A step of a run's task from where the task is. -/
def taskStep (coordinator : FleetCoordinator Document Digest)
    (runId : String) (may : RunRecord Document Digest → Bool)
    (change : RunRecord Document Digest → RunRecord Document Digest)
    (keeps : ∀ record, runKey (change record) = runKey record) :
    FleetCoordinator Document Digest :=
  if (coordinator.runs.find? runId).any may then
    { coordinator with runs := coordinator.runs.amend runId change keeps }
  else coordinator

/-- The run's task begins and enters the executor. -/
def taskBegins (coordinator : FleetCoordinator Document Digest)
    (runId : String) : FleetCoordinator Document Digest :=
  if (coordinator.runs.find? runId).any RunRecord.mayEnter then
    { coordinator with
      runs :=
        coordinator.runs.amend runId RunRecord.enter RunRecord.runKey_enter
      entries := coordinator.entries ++ [runId] }
  else coordinator

/-- `cancel`, up to where it waits for the run's task. -/
def cancel (coordinator : FleetCoordinator Document Digest)
    (runId missionId : String) :
    FleetCoordinator Document Digest × Option Answer :=
  match coordinator.runs.find? runId with
  | none => (coordinator, some (.error .runNotFound))
  | some record =>
      if record.status.missionId ≠ missionId then
        (coordinator, some (.error .pathBodyMismatch))
      else
        ({ coordinator with
            runs :=
              coordinator.runs.amend runId RunRecord.signal
                RunRecord.runKey_signal
            cancels := coordinator.cancels ++ [some runId] },
          none)

/-- The record that a call of `cancel` waits for. -/
def cancelled? (coordinator : FleetCoordinator Document Digest)
    (call : Nat) : Option (RunRecord Document Digest) :=
  (coordinator.cancels[call]?).join.bind coordinator.runs.find?

/-- A call of `cancel` is isOver. -/
def endCancel (coordinator : FleetCoordinator Document Digest)
    (call : Nat) : FleetCoordinator Document Digest :=
  { coordinator with cancels := coordinator.cancels.set call none }

/-- `cancel`, from the end of the run's task. -/
def cancelReturns (coordinator : FleetCoordinator Document Digest)
    (call : Nat) : FleetCoordinator Document Digest × Option Answer :=
  match coordinator.cancelled? call with
  | none => (coordinator, none)
  | some record =>
      if record.phase = .ended then
        (coordinator.endCancel call,
          some (coordinator.status (runKey record)))
      else (coordinator, none)

/-- `cancel`, when its bound passes. -/
def cancelTimesOut (coordinator : FleetCoordinator Document Digest)
    (call : Nat) : FleetCoordinator Document Digest × Option Answer :=
  match coordinator.cancelled? call with
  | none => (coordinator, none)
  | some _ =>
      (coordinator.endCancel call, some (.error .cancellationNotEstablished))

/-- `shutdown`, up to where it waits for the tasks. -/
def shutdown (coordinator : FleetCoordinator Document Digest) :
    FleetCoordinator Document Digest :=
  { coordinator with
    started := false
    runs := coordinator.runs.amendAll RunRecord.signal RunRecord.runKey_signal
    shutdowns :=
      coordinator.shutdowns ++
        [{ awaited := coordinator.runs.rows.map runKey
           state := .gathering }] }

/-- A call of `shutdown` goes on to another state. -/
def setShutdown (coordinator : FleetCoordinator Document Digest)
    (call : Nat) (held : Shutdown) (state : ShutdownState) :
    FleetCoordinator Document Digest :=
  { coordinator with
    shutdowns :=
      coordinator.shutdowns.set call { held with state := state } }

/-- The tasks that a call of `shutdown` collected are cancelled. -/
def abortAwaited (coordinator : FleetCoordinator Document Digest)
    (awaited : List String) : FleetCoordinator Document Digest :=
  { coordinator with
    runs :=
      coordinator.runs.amendAll (RunRecord.requestAbort awaited)
        (RunRecord.runKey_requestAbort awaited) }

/-- What a call of `shutdown` collected meets a condition. -/
def awaitedAll (coordinator : FleetCoordinator Document Digest)
    (awaited : List String) (condition : Phase → Bool) : Bool :=
  awaited.all fun runId =>
    (coordinator.runs.find? runId).all fun record => condition record.phase

/-- The gathered tasks let the call of `shutdown` go on: they came to their
end, or they are at least over once their cancellation was asked for. -/
def mayReturn (coordinator : FleetCoordinator Document Digest)
    (held : Shutdown) : Bool :=
  match held.state with
  | .gathering =>
      coordinator.awaitedAll held.awaited fun phase => phase = .ended
  | .forcing => coordinator.awaitedAll held.awaited Phase.isOver
  | _ => false

/-- A call of `shutdown` leaves the state it is in for another. -/
def shutdownStep (coordinator : FleetCoordinator Document Digest)
    (call : Nat) (may : Shutdown → Bool) (aborts : Bool)
    (state : ShutdownState) : FleetCoordinator Document Digest :=
  match coordinator.shutdowns[call]? with
  | none => coordinator
  | some held =>
      if may held then
        if aborts then
          (coordinator.abortAwaited held.awaited).setShutdown call held state
        else coordinator.setShutdown call held state
      else coordinator

end FleetCoordinator

/-- A call of `shutdown` still waits for tasks. -/
def Shutdown.isWaiting (held : Shutdown) : Bool :=
  held.state = .gathering || held.state = .forcing

def Shutdown.isGathering (held : Shutdown) : Bool :=
  held.state = .gathering

/-! ## What an action does to the runs -/

section Moves

variable (digest : StartRequest Document → Digest)

/-- What an action does to the record of a run. -/
inductive Turns :
    RunRecord Document Digest → RunRecord Document Digest → Prop
  | kept {before after : RunRecord Document Digest}
      (request : after.request = before.request)
      (digest : after.digest = before.digest)
      (status : after.status = before.status)
      (phase : after.phase = before.phase) : Turns before after
  | entered {before : RunRecord Document Digest}
      (created : before.phase = .created) : Turns before before.enter
  | ended {before after : RunRecord Document Digest}
      (request : after.request = before.request)
      (digest : after.digest = before.digest)
      (executing : before.phase = .executing) (phase : after.phase = .ended)
      (terminal : after.isActive = false) : Turns before after
  | aborted {before : RunRecord Document Digest}
      (unfinished : before.phase.isOver = false) : Turns before before.abort

/-- Every record of a table turned, in its place. -/
def Turned
    (before after : Table (@runKey Document Digest)) :
    Prop :=
  ∃ (change : RunRecord Document Digest → RunRecord Document Digest)
    (keeps : ∀ record, runKey (change record) = runKey record),
    after = before.amendAll change keeps ∧
      ∀ record ∈ before.rows, Turns record (change record)

/-- What an action does to the records and to the entries. -/
inductive Moves (coordinator : FleetCoordinator Document Digest) :
    Action Document → FleetCoordinator Document Digest → Prop
  | kept {action : Action Document}
      {next : FleetCoordinator Document Digest}
      (turned : Turned coordinator.runs next.runs)
      (entries : next.entries = coordinator.entries)
      (capacity : next.capacity = coordinator.capacity) :
      Moves coordinator action next
  | entered {next : FleetCoordinator Document Digest} (runId : String)
      (record : RunRecord Document Digest)
      (found : coordinator.runs.find? runId = some record)
      (created : record.phase = .created)
      (entered : next.runs.find? runId = some record.enter)
      (turned : Turned coordinator.runs next.runs)
      (entries : next.entries = coordinator.entries ++ [runId])
      (capacity : next.capacity = coordinator.capacity) :
      Moves coordinator (.taskBegins runId) next
  | added {next : FleetCoordinator Document Digest}
      (request : StartRequest Document)
      (free : coordinator.runs.find? request.runId = none)
      (room : coordinator.active < coordinator.capacity)
      (inserted :
        coordinator.runs.insert?
            (RunRecord.accepted request (digest request)) =
          some next.runs)
      (entries : next.entries = coordinator.entries)
      (capacity : next.capacity = coordinator.capacity) :
      Moves coordinator (.start request) next

variable {digest}

theorem Turns.request {before after : RunRecord Document Digest}
    (turns : Turns before after) : after.request = before.request := by
  cases turns with
  | kept request _ _ _ => exact request
  | entered _ => rfl
  | ended request _ _ _ _ => exact request
  | aborted _ => rfl

theorem Turns.sameDigest {before after : RunRecord Document Digest}
    (turns : Turns before after) : after.digest = before.digest := by
  cases turns with
  | kept _ digest _ _ => exact digest
  | entered _ => rfl
  | ended _ digest _ _ _ => exact digest
  | aborted _ => rfl

/-- A task that is over stays as it is. -/
theorem Turns.isOver {before after : RunRecord Document Digest}
    (turns : Turns before after) (isOver : before.phase.isOver = true) :
    after.phase = before.phase ∧ after.status = before.status := by
  cases turns with
  | kept _ _ status phase => exact ⟨phase, status⟩
  | entered created => simp [created, Phase.isOver] at isOver
  | ended _ _ executing _ _ => simp [executing, Phase.isOver] at isOver
  | aborted unfinished => simp [unfinished] at isOver

/-- A task that has begun does not go back. -/
theorem Turns.begun {before after : RunRecord Document Digest}
    (turns : Turns before after) (begun : before.phase ≠ .created) :
    after.phase ≠ .created := by
  cases turns with
  | kept _ _ _ phase => rwa [phase]
  | entered created => exact absurd created begun
  | ended _ _ _ phase _ => simp [phase]
  | aborted _ => simp [RunRecord.abort]

namespace Turned

variable
  {before after : Table (@runKey Document Digest)}

theorem refl
    (table : Table (@runKey Document Digest)) :
    Turned table table := by
  refine ⟨id, fun _ => rfl, Table.ext (List.map_id _).symm, ?_⟩
  exact fun record _ => .kept rfl rfl rfl rfl

/-- One record turns, and the others are kept. -/
theorem amend {runId : String}
    {change : RunRecord Document Digest → RunRecord Document Digest}
    (keeps : ∀ record, runKey (change record) = runKey record)
    (turns :
      ∀ record, before.find? runId = some record →
        Turns record (change record)) :
    Turned before (before.amend runId change keeps) := by
  have keyed : ∀ record,
      runKey (if runKey record = runId then change record else record) =
        runKey record := by
    intro record
    split
    · exact keeps record
    · rfl
  refine ⟨_, keyed, Table.ext rfl, ?_⟩
  intro record member
  split
  · rename_i same
    exact turns record (Table.find?_eq_some.2 ⟨member, same⟩)
  · exact .kept rfl rfl rfl rfl

/-- A flag of every record changes. -/
theorem amendAll
    {change : RunRecord Document Digest → RunRecord Document Digest}
    (keeps : ∀ record, runKey (change record) = runKey record)
    (turns : ∀ record, Turns record (change record)) :
    Turned before (before.amendAll change keeps) :=
  ⟨change, keeps, rfl, fun record _ => turns record⟩

theorem find? (turned : Turned before after) {runId : String}
    {record : RunRecord Document Digest}
    (found : before.find? runId = some record) :
    ∃ next, after.find? runId = some next ∧ Turns record next := by
  rcases turned with ⟨change, keeps, rfl, turns⟩
  refine ⟨change record, ?_, turns record (Table.find?_mem found)⟩
  rw [Table.find?_amendAll, found]
  rfl

theorem source (turned : Turned before after)
    {next : RunRecord Document Digest} (member : next ∈ after.rows) :
    ∃ record ∈ before.rows, Turns record next := by
  rcases turned with ⟨change, keeps, rfl, turns⟩
  rcases List.mem_map.1 member with ⟨record, held, rfl⟩
  exact ⟨record, held, turns record held⟩

theorem keys (turned : Turned before after) :
    after.rows.map runKey = before.rows.map runKey := by
  rcases turned with ⟨change, keeps, rfl, turns⟩
  rw [Table.amendAll, List.map_map]
  exact List.map_congr_left fun record _ => keeps record

end Turned

namespace FleetCoordinator

/-- The runs are what they were. -/
theorem moves_same {coordinator next : FleetCoordinator Document Digest}
    {action : Action Document} (runs : next.runs = coordinator.runs)
    (entries : next.entries = coordinator.entries)
    (capacity : next.capacity = coordinator.capacity) :
    Moves digest coordinator action next :=
  .kept (runs ▸ Turned.refl coordinator.runs) entries capacity

theorem moves_taskStep {coordinator : FleetCoordinator Document Digest}
    {action : Action Document} {runId : String}
    {may : RunRecord Document Digest → Bool}
    {change : RunRecord Document Digest → RunRecord Document Digest}
    {keeps : ∀ record, runKey (change record) = runKey record}
    (turns : ∀ record, may record = true → Turns record (change record)) :
    Moves digest coordinator action
      (coordinator.taskStep runId may change keeps) := by
  unfold taskStep
  split
  · rename_i permitted
    refine .kept (Turned.amend keeps ?_) rfl rfl
    intro record found
    rw [found] at permitted
    exact turns record permitted
  · exact moves_same rfl rfl rfl

theorem moves_taskBegins (coordinator : FleetCoordinator Document Digest)
    (runId : String) :
    Moves digest coordinator (.taskBegins runId)
      (coordinator.taskBegins runId) := by
  unfold taskBegins
  split
  · rename_i permitted
    rw [Option.any_eq_true] at permitted
    rcases permitted with ⟨record, found, may⟩
    simp only [RunRecord.mayEnter, Bool.and_eq_true, decide_eq_true_eq]
      at may
    refine .entered runId record found may.1 ?_
      (Turned.amend RunRecord.runKey_enter ?_) rfl rfl
    · rw [Table.find?_amend_self, found]
      rfl
    · intro held same
      rw [found, Option.some.injEq] at same
      rw [← same]
      exact .entered may.1
  · exact moves_same rfl rfl rfl

theorem moves_cancel (coordinator : FleetCoordinator Document Digest)
    {action : Action Document} (runId missionId : String) :
    Moves digest coordinator action
      (coordinator.cancel runId missionId).1 := by
  unfold cancel
  split
  · exact moves_same rfl rfl rfl
  · split
    · exact moves_same rfl rfl rfl
    · refine .kept (Turned.amend RunRecord.runKey_signal ?_) rfl rfl
      exact fun _ _ => .kept rfl rfl rfl rfl

theorem moves_cancelReturns (coordinator : FleetCoordinator Document Digest)
    {action : Action Document} (call : Nat) :
    Moves digest coordinator action (coordinator.cancelReturns call).1 := by
  unfold cancelReturns
  split
  · exact moves_same rfl rfl rfl
  · split
    · exact moves_same rfl rfl rfl
    · exact moves_same rfl rfl rfl

theorem moves_cancelTimesOut (coordinator : FleetCoordinator Document Digest)
    {action : Action Document} (call : Nat) :
    Moves digest coordinator action (coordinator.cancelTimesOut call).1 := by
  unfold cancelTimesOut
  split
  · exact moves_same rfl rfl rfl
  · exact moves_same rfl rfl rfl

theorem moves_shutdownStep {coordinator : FleetCoordinator Document Digest}
    {action : Action Document} {call : Nat} {may : Shutdown → Bool}
    {aborts : Bool} {state : ShutdownState} :
    Moves digest coordinator action
      (coordinator.shutdownStep call may aborts state) := by
  unfold shutdownStep
  split
  · exact moves_same rfl rfl rfl
  · split
    · split
      · refine .kept
          (Turned.amendAll (RunRecord.runKey_requestAbort _) ?_) rfl rfl
        exact fun _ => .kept rfl rfl rfl rfl
      · exact moves_same rfl rfl rfl
    · exact moves_same rfl rfl rfl

end FleetCoordinator

theorem turns_finish (result : TerminalStatus)
    {record : RunRecord Document Digest}
    (executing : record.isExecuting = true) :
    Turns record (record.finish result) := by
  refine .ended rfl rfl (of_decide_eq_true executing) rfl ?_
  simp only [RunRecord.isActive, RunRecord.finish]
  split
  · exact result.terminal
  · rfl

theorem turns_abort {record : RunRecord Document Digest}
    (may : record.mayAbort = true) : Turns record record.abort := by
  refine .aborted ?_
  simp only [RunRecord.mayAbort, Bool.or_eq_true, Bool.and_eq_true,
    decide_eq_true_eq] at may
  rcases may with executing | ⟨created, _⟩
  · rw [executing]
    rfl
  · rw [created]
    rfl

end Moves

/-! ## Runs of the coordinator -/

section Runs

variable [DecidableEq Digest] (digest : StartRequest Document → Digest)

/-- The coordinator after an action, and what a call returned in it. -/
def apply (coordinator : FleetCoordinator Document Digest) :
    Action Document → FleetCoordinator Document Digest × Option Answer
  | .startup => ({ coordinator with started := true }, none)
  | .start request =>
      ((coordinator.start digest request).1,
        some (coordinator.start digest request).2)
  | .status runId => (coordinator, some (coordinator.status runId))
  | .taskBegins runId => (coordinator.taskBegins runId, none)
  | .executeReturns runId result =>
      (coordinator.taskStep runId RunRecord.isExecuting
          (RunRecord.finish result) fun _ => rfl,
        none)
  | .executeRaises runId =>
      (coordinator.taskStep runId RunRecord.isExecuting RunRecord.fail
          fun _ => rfl,
        none)
  | .taskAborts runId =>
      (coordinator.taskStep runId RunRecord.mayAbort RunRecord.abort
          fun _ => rfl,
        none)
  | .cancel runId missionId => coordinator.cancel runId missionId
  | .cancelReturns call => coordinator.cancelReturns call
  | .cancelTimesOut call => coordinator.cancelTimesOut call
  | .cancelRaises call => (coordinator.endCancel call, none)
  | .shutdown => (coordinator.shutdown, none)
  | .shutdownTimesOut call =>
      (coordinator.shutdownStep call Shutdown.isGathering true .forcing, none)
  | .shutdownRaises call =>
      (coordinator.shutdownStep call Shutdown.isWaiting false .raised, none)
  | .shutdownInterrupted call =>
      (coordinator.shutdownStep call Shutdown.isWaiting true .raised, none)
  | .shutdownReturns call =>
      (coordinator.shutdownStep call coordinator.mayReturn false .returned,
        none)

/-- The coordinator after an action. -/
def step (coordinator : FleetCoordinator Document Digest)
    (action : Action Document) : FleetCoordinator Document Digest :=
  (apply digest coordinator action).1

/-- What a call returned or raised in an action. -/
def answer (coordinator : FleetCoordinator Document Digest)
    (action : Action Document) : Option Answer :=
  (apply digest coordinator action).2

/-- The coordinator after the actions. -/
def after (capacity : Nat) (actions : List (Action Document)) :
    FleetCoordinator Document Digest :=
  run (step digest) (FleetCoordinator.new capacity) actions

variable {digest}

open FleetCoordinator

theorem moves_start (coordinator : FleetCoordinator Document Digest)
    (request : StartRequest Document) :
    Moves digest coordinator (.start request)
      (coordinator.start digest request).1 := by
  unfold start
  cases found : coordinator.runs.find? request.runId with
  | some known =>
      simp only
      split
      · exact moves_same rfl rfl rfl
      · exact moves_same rfl rfl rfl
  | none =>
      simp only
      split
      · exact moves_same rfl rfl rfl
      · rename_i room
        have free :
            coordinator.runs.find?
                (runKey (RunRecord.accepted request (digest request))) =
              none :=
          found
        rcases Table.exists_insert? free with ⟨runs, inserted⟩
        refine .added request found (Nat.lt_of_not_le room) ?_ rfl rfl
        rw [inserted, addRun, inserted]
        rfl

/-- Every action only does what `Moves` lists. -/
theorem step_moves (coordinator : FleetCoordinator Document Digest)
    (action : Action Document) :
    Moves digest coordinator action (step digest coordinator action) := by
  cases action with
  | startup => exact moves_same rfl rfl rfl
  | start request => exact moves_start coordinator request
  | status runId => exact moves_same rfl rfl rfl
  | taskBegins runId => exact moves_taskBegins coordinator runId
  | executeReturns runId result =>
      exact moves_taskStep fun _ may => turns_finish result may
  | executeRaises runId =>
      exact moves_taskStep fun _ may =>
        .ended rfl rfl (of_decide_eq_true may) rfl rfl
  | taskAborts runId => exact moves_taskStep fun _ may => turns_abort may
  | cancel runId missionId => exact moves_cancel coordinator runId missionId
  | cancelReturns call => exact moves_cancelReturns coordinator call
  | cancelTimesOut call => exact moves_cancelTimesOut coordinator call
  | cancelRaises call => exact moves_same rfl rfl rfl
  | shutdown =>
      refine .kept (Turned.amendAll RunRecord.runKey_signal ?_) rfl rfl
      exact fun _ => .kept rfl rfl rfl rfl
  | shutdownTimesOut call => exact moves_shutdownStep
  | shutdownRaises call => exact moves_shutdownStep
  | shutdownInterrupted call => exact moves_shutdownStep
  | shutdownReturns call => exact moves_shutdownStep

/-! ## The invariant -/

/-- A record holds the digest of its request, and is active as long as its
task did not come to its end. -/
structure RunRecord.Sound (digest : StartRequest Document → Digest)
    (record : RunRecord Document Digest) : Prop where
  digest : record.digest = digest record.request
  active : record.isActive = decide (record.phase ≠ .ended)

/-- What holds of every state that the coordinator reaches. -/
structure Sound (digest : StartRequest Document → Digest)
    (coordinator : FleetCoordinator Document Digest) : Prop where
  records : ∀ record ∈ coordinator.runs.rows, record.Sound digest
  entries : coordinator.entries.Nodup
  entered :
    ∀ runId ∈ coordinator.entries, ∃ record,
      coordinator.runs.find? runId = some record ∧ record.phase ≠ .created
  capacity : coordinator.active ≤ coordinator.capacity

omit [DecidableEq Digest] in
theorem Turns.sound {before after : RunRecord Document Digest}
    (turns : Turns before after) (sound : before.Sound digest) :
    after.Sound digest := by
  constructor
  · rw [turns.sameDigest, turns.request]
    exact sound.digest
  · cases turns with
    | kept request same status phase =>
        rw [phase, ← sound.active, RunRecord.isActive, status]
        rfl
    | entered created => rfl
    | ended request same executing phase terminal =>
        rw [terminal, phase]
        rfl
    | aborted unfinished =>
        have running : before.phase ≠ .ended := by
          rintro ended
          simp [ended, Phase.isOver] at unfinished
        have active := sound.active
        rw [decide_eq_true running] at active
        exact active

omit [DecidableEq Digest] in
/-- No action makes a run active that was not. -/
theorem Turns.active {before after : RunRecord Document Digest}
    (turns : Turns before after) (sound : before.Sound digest)
    (active : after.isActive = true) : before.isActive = true := by
  rw [sound.active, decide_eq_true_eq]
  rintro ended
  rcases turns.isOver (by rw [ended]; rfl) with ⟨phase, status⟩
  have still := (turns.sound sound).active
  rw [active, phase, ended] at still
  cases still

omit [DecidableEq Digest] in
theorem Turned.active {before after : FleetCoordinator Document Digest}
    (turned : Turned before.runs after.runs)
    (sound : ∀ record ∈ before.runs.rows, record.Sound digest) :
    after.active ≤ before.active := by
  rcases turned with ⟨change, keeps, runs, turns⟩
  unfold FleetCoordinator.active
  rw [runs, Table.amendAll, List.countP_map]
  apply List.countP_mono_left
  intro record member active
  exact (turns record member).active (sound record member) active

omit [DecidableEq Digest] in
theorem Moves.sound {coordinator next : FleetCoordinator Document Digest}
    {action : Action Document} (moves : Moves digest coordinator action next)
    (sound : Sound digest coordinator) : Sound digest next := by
  have turnedRecords : Turned coordinator.runs next.runs →
      ∀ record ∈ next.runs.rows, record.Sound digest := by
    intro turned record member
    rcases turned.source member with ⟨held, heldMember, turns⟩
    exact turns.sound (sound.records held heldMember)
  have turnedEntered : Turned coordinator.runs next.runs →
      ∀ runId ∈ coordinator.entries, ∃ record,
        next.runs.find? runId = some record ∧ record.phase ≠ .created := by
    intro turned runId member
    rcases sound.entered runId member with ⟨held, found, begun⟩
    rcases turned.find? found with ⟨record, foundNext, turns⟩
    exact ⟨record, foundNext, turns.begun begun⟩
  cases moves with
  | kept turned entries capacity =>
      constructor
      · exact turnedRecords turned
      · rw [entries]
        exact sound.entries
      · rw [entries]
        exact turnedEntered turned
      · rw [capacity]
        exact Nat.le_trans (turned.active sound.records) sound.capacity
  | entered runId record found created entered turned entries capacity =>
      constructor
      · exact turnedRecords turned
      · rw [entries]
        refine List.nodup_append.2
          ⟨sound.entries, List.nodup_singleton _, ?_⟩
        rintro before member _ (_ | ⟨_, nothing⟩) rfl
        · rcases sound.entered before member with ⟨held, heldFound, begun⟩
          rw [found, Option.some.injEq] at heldFound
          exact begun (heldFound ▸ created)
        · cases nothing
      · rw [entries]
        intro other member
        rcases List.mem_append.1 member with earlier | last
        · exact turnedEntered turned other earlier
        · rw [List.mem_singleton.1 last]
          exact ⟨record.enter, entered, by simp [RunRecord.enter]⟩
      · rw [capacity]
        exact Nat.le_trans (turned.active sound.records) sound.capacity
  | added request free room inserted entries capacity =>
      have rows := Table.insert?_rows inserted
      constructor
      · rw [rows]
        intro record member
        rcases List.mem_append.1 member with earlier | last
        · exact sound.records record earlier
        · rw [List.mem_singleton.1 last]
          exact ⟨rfl, rfl⟩
      · rw [entries]
        exact sound.entries
      · rw [entries]
        intro runId member
        rcases sound.entered runId member with ⟨held, found, begun⟩
        exact ⟨held, Table.find?_insert?_of_some inserted found, begun⟩
      · rw [capacity, FleetCoordinator.active, rows, List.countP_append]
        exact room

omit [DecidableEq Digest] in
theorem sound_new (capacity : Nat) :
    Sound digest
      (FleetCoordinator.new capacity : FleetCoordinator Document Digest) where
  records record member := by
    cases member
  entries := List.nodup_nil
  entered runId member := by
    cases member
  capacity := Nat.zero_le _

theorem sound_after (capacity : Nat) (actions : List (Action Document)) :
    Sound digest (after digest capacity actions) := by
  refine run_keeps_always ?_ actions (sound_new capacity)
  exact fun coordinator action sound =>
    (step_moves coordinator action).sound sound

omit [DecidableEq Digest] in
/-- A terminal status stays. -/
theorem Moves.terminal {coordinator next : FleetCoordinator Document Digest}
    {action : Action Document} (moves : Moves digest coordinator action next)
    (sound : Sound digest coordinator) {runId : String}
    {record : RunRecord Document Digest}
    (found : coordinator.runs.find? runId = some record)
    (terminal : record.isActive = false) :
    ∃ held, next.runs.find? runId = some held ∧
      held.status = record.status := by
  have isOver : record.phase.isOver = true := by
    have active := (sound.records record (Table.find?_mem found)).active
    rw [terminal] at active
    have ended := of_decide_eq_false active.symm
    rw [not_not] at ended
    rw [ended]
    rfl
  have turned : Turned coordinator.runs next.runs →
      ∃ held, next.runs.find? runId = some held ∧
        held.status = record.status := by
    intro turned
    rcases turned.find? found with ⟨held, foundNext, turns⟩
    exact ⟨held, foundNext, (turns.isOver isOver).2⟩
  cases moves with
  | kept turnedRuns entries capacity => exact turned turnedRuns
  | entered _ _ _ _ _ turnedRuns _ _ => exact turned turnedRuns
  | added request free room inserted entries capacity =>
      exact ⟨record, Table.find?_insert?_of_some inserted found, rfl⟩

/-- No run of the coordinator changes a terminal status. -/
theorem terminal_run {coordinator : FleetCoordinator Document Digest}
    (sound : Sound digest coordinator) {runId : String}
    {record : RunRecord Document Digest}
    (found : coordinator.runs.find? runId = some record)
    (terminal : record.isActive = false) (later : List (Action Document)) :
    ∃ held, (run (step digest) coordinator later).runs.find? runId =
        some held ∧ held.status = record.status := by
  have keeps : ∀ (state : FleetCoordinator Document Digest) action,
      (Sound digest state ∧ ∃ held, state.runs.find? runId = some held ∧
          held.status = record.status) →
        Sound digest (step digest state action) ∧
          ∃ held, (step digest state action).runs.find? runId = some held ∧
            held.status = record.status := by
    rintro state action ⟨soundState, held, foundHeld, same⟩
    have moves : Moves digest state action (step digest state action) :=
      step_moves state action
    have stillTerminal : held.isActive = false := by
      rw [RunRecord.isActive, same]
      exact terminal
    rcases moves.terminal soundState foundHeld stillTerminal with
      ⟨next, foundNext, sameNext⟩
    exact ⟨moves.sound soundState, next, foundNext, sameNext.trans same⟩
  exact (run_keeps_always keeps later ⟨sound, record, found, rfl⟩).2

/-! ## What the calls return -/

theorem start_known {coordinator : FleetCoordinator Document Digest}
    {request : StartRequest Document} {known : RunRecord Document Digest}
    (found : coordinator.runs.find? request.runId = some known) :
    coordinator.start digest request =
      (coordinator,
        if known.digest = digest request then .ok known.status
        else .error .runConflict) := by
  unfold start
  rw [found]
  by_cases same : known.digest = digest request
  · simp [same]
  · simp [same]

/-- The action is one of a call of `cancel`. -/
def Action.isCancel : Action Document → Bool
  | .cancel _ _ => true
  | .cancelReturns _ => true
  | .cancelTimesOut _ => true
  | .cancelRaises _ => true
  | _ => false

omit [DecidableEq Digest] in
theorem cancelReturns_ok {coordinator : FleetCoordinator Document Digest}
    {call : Nat} {returned : RunStatus}
    (answered :
      (coordinator.cancelReturns call).2 = some (.ok returned)) :
    ∃ runId record, coordinator.cancels[call]? = some (some runId) ∧
      coordinator.runs.find? runId = some record ∧ record.phase = .ended ∧
      returned = record.status := by
  unfold cancelReturns at answered
  cases waited : coordinator.cancelled? call with
  | none =>
      rw [waited] at answered
      cases answered
  | some record =>
      rw [waited] at answered
      simp only at answered
      split at answered
      · rename_i ended
        simp only [cancelled?, Option.bind_eq_some_iff,
          Option.join_eq_some_iff] at waited
        rcases waited with ⟨runId, named, found⟩
        have same := Table.find?_key found
        rw [FleetCoordinator.status, same, found, Option.some.injEq,
          Except.ok.injEq] at answered
        exact ⟨runId, record, named, found, ended, answered.symm⟩
      · cases answered

/-- A call of `cancel` returns a status at the end of the task alone. -/
theorem cancel_ok {coordinator : FleetCoordinator Document Digest}
    {action : Action Document} (isCancel : action.isCancel = true)
    {returned : RunStatus}
    (answered : answer digest coordinator action = some (.ok returned)) :
    ∃ call runId record, action = .cancelReturns call ∧
      coordinator.cancels[call]? = some (some runId) ∧
      coordinator.runs.find? runId = some record ∧ record.phase = .ended ∧
      returned = record.status := by
  cases action with
  | cancel runId missionId =>
      simp only [answer, apply, FleetCoordinator.cancel] at answered
      split at answered
      · cases answered
      · split at answered
        · cases answered
        · cases answered
  | cancelReturns call =>
      rcases cancelReturns_ok answered with ⟨runId, record, facts⟩
      exact ⟨call, runId, record, rfl, facts⟩
  | cancelTimesOut call =>
      simp only [answer, apply, FleetCoordinator.cancelTimesOut] at answered
      split at answered
      · cases answered
      · cases answered
  | cancelRaises call => cases answered
  | _ => cases isCancel

/-! ## Shutdown -/

/-- What an action does to the calls of `shutdown`. -/
inductive Calls (coordinator : FleetCoordinator Document Digest) :
    Action Document → FleetCoordinator Document Digest → Prop
  | kept {action : Action Document}
      {next : FleetCoordinator Document Digest}
      (shutdowns : next.shutdowns = coordinator.shutdowns) :
      Calls coordinator action next
  | called {next : FleetCoordinator Document Digest}
      (shutdowns :
        next.shutdowns =
          coordinator.shutdowns ++
            [⟨coordinator.runs.rows.map runKey, .gathering⟩]) :
      Calls coordinator .shutdown next
  | passed {action : Action Document}
      {next : FleetCoordinator Document Digest} (call : Nat)
      (held : Shutdown) (state : ShutdownState)
      (waiting : held ∈ coordinator.shutdowns)
      (shutdowns :
        next.shutdowns =
          coordinator.shutdowns.set call { held with state := state })
      (returns : state = .returned → coordinator.mayReturn held = true)
      (runs : state = .returned → next.runs = coordinator.runs) :
      Calls coordinator action next

omit [DecidableEq Digest] in
theorem calls_shutdownStep {coordinator : FleetCoordinator Document Digest}
    {action : Action Document} {call : Nat} {may : Shutdown → Bool}
    {aborts : Bool} {state : ShutdownState}
    (returns :
      state = .returned → aborts = false ∧
        ∀ held, may held = true → coordinator.mayReturn held = true) :
    Calls coordinator action
      (coordinator.shutdownStep call may aborts state) := by
  unfold shutdownStep
  split
  · exact .kept rfl
  · rename_i held named
    have waiting := List.mem_of_getElem? named
    split
    · rename_i permitted
      split
      · rename_i aborted
        refine .passed call held state waiting rfl ?_ ?_
        · exact fun returned => (returns returned).2 held permitted
        · intro returned
          rw [(returns returned).1] at aborted
          cases aborted
      · refine .passed call held state waiting rfl ?_ fun _ => rfl
        exact fun returned => (returns returned).2 held permitted
    · exact .kept rfl

omit [DecidableEq Digest] in
@[simp]
theorem taskStep_shutdowns {coordinator : FleetCoordinator Document Digest}
    {runId : String} {may : RunRecord Document Digest → Bool}
    {change : RunRecord Document Digest → RunRecord Document Digest}
    {keeps : ∀ record, runKey (change record) = runKey record} :
    (coordinator.taskStep runId may change keeps).shutdowns =
      coordinator.shutdowns := by
  unfold taskStep
  split
  · rfl
  · rfl

theorem step_calls (coordinator : FleetCoordinator Document Digest)
    (action : Action Document) :
    Calls coordinator action (step digest coordinator action) := by
  cases action with
  | startup => exact .kept rfl
  | start request =>
      refine .kept ?_
      simp only [step, apply, FleetCoordinator.start]
      split
      · split
        · rfl
        · rfl
      · split
        · rfl
        · rfl
  | status runId => exact .kept rfl
  | taskBegins runId =>
      refine .kept ?_
      simp only [step, apply, taskBegins]
      split
      · rfl
      · rfl
  | executeReturns runId result => exact .kept taskStep_shutdowns
  | executeRaises runId => exact .kept taskStep_shutdowns
  | taskAborts runId => exact .kept taskStep_shutdowns
  | cancel runId missionId =>
      refine .kept ?_
      simp only [step, apply, FleetCoordinator.cancel]
      split
      · rfl
      · split
        · rfl
        · rfl
  | cancelReturns call =>
      refine .kept ?_
      simp only [step, apply, FleetCoordinator.cancelReturns]
      split
      · rfl
      · split
        · rfl
        · rfl
  | cancelTimesOut call =>
      refine .kept ?_
      simp only [step, apply, FleetCoordinator.cancelTimesOut]
      split
      · rfl
      · rfl
  | cancelRaises call => exact .kept rfl
  | shutdown => exact .called rfl
  | shutdownTimesOut call =>
      exact calls_shutdownStep fun returned => by
        cases returned
  | shutdownRaises call =>
      exact calls_shutdownStep fun returned => by
        cases returned
  | shutdownInterrupted call =>
      exact calls_shutdownStep fun returned => by
        cases returned
  | shutdownReturns call =>
      exact calls_shutdownStep fun _ => ⟨rfl, fun _ may => may⟩

/-- The call of `start` adds a run. -/
def adds (coordinator : FleetCoordinator Document Digest) :
    Action Document → Bool
  | .start request =>
      (coordinator.runs.find? request.runId).isNone &&
        coordinator.active < coordinator.capacity
  | _ => false

/-- No call of `start` adds a run once a call of `shutdown` has collected the
tasks. -/
def Quiet (coordinator : FleetCoordinator Document Digest)
    (action : Action Document) : Prop :=
  coordinator.shutdowns ≠ [] → adds coordinator action = false

instance Quiet.decidable (coordinator : FleetCoordinator Document Digest)
    (action : Action Document) : Decidable (Quiet coordinator action) :=
  inferInstanceAs
    (Decidable
      (coordinator.shutdowns ≠ [] → adds coordinator action = false))

omit [DecidableEq Digest] in
theorem Moves.turned {coordinator next : FleetCoordinator Document Digest}
    {action : Action Document} (moves : Moves digest coordinator action next)
    (nothing : adds coordinator action = false) :
    Turned coordinator.runs next.runs := by
  cases moves with
  | kept turned _ _ => exact turned
  | entered _ _ _ _ _ turned _ _ => exact turned
  | added request free room inserted _ _ =>
      simp [adds, free, room] at nothing

/-- The calls of `shutdown` collected every run, and the tasks are over once
one of them has returned. -/
structure Collected (coordinator : FleetCoordinator Document Digest) :
    Prop where
  runs :
    ∀ held ∈ coordinator.shutdowns, ∀ record ∈ coordinator.runs.rows,
      runKey record ∈ held.awaited
  isOver :
    ∀ held ∈ coordinator.shutdowns, held.state = .returned →
      ∀ record ∈ coordinator.runs.rows, record.phase.isOver = true

omit [DecidableEq Digest] in
theorem awaitedAll_mem {coordinator : FleetCoordinator Document Digest}
    {awaited : List String} {condition : Phase → Bool}
    (all : coordinator.awaitedAll awaited condition = true)
    {record : RunRecord Document Digest}
    (member : record ∈ coordinator.runs.rows)
    (collected : runKey record ∈ awaited) :
    condition record.phase = true := by
  have found : coordinator.runs.find? (runKey record) = some record :=
    Table.find?_eq_some.2 ⟨member, rfl⟩
  have here := List.all_eq_true.1 all (runKey record) collected
  rw [found] at here
  exact here

omit [DecidableEq Digest] in
/-- A call of `shutdown` returns once the tasks that it collected are isOver. -/
theorem mayReturn_over {coordinator : FleetCoordinator Document Digest}
    {held : Shutdown} (may : coordinator.mayReturn held = true)
    {record : RunRecord Document Digest}
    (member : record ∈ coordinator.runs.rows)
    (collected : runKey record ∈ held.awaited) :
    record.phase.isOver = true := by
  unfold mayReturn at may
  split at may
  · have ended := of_decide_eq_true (awaitedAll_mem may member collected)
    rw [ended]
    rfl
  · exact awaitedAll_mem may member collected
  · cases may

omit [DecidableEq Digest] in
theorem collected_new (capacity : Nat) :
    Collected
      (FleetCoordinator.new capacity : FleetCoordinator Document Digest) where
  runs held member := by
    cases member
  isOver held member := by
    cases member

omit [DecidableEq Digest] in
theorem Turned.isOver {before after : FleetCoordinator Document Digest}
    (turned : Turned before.runs after.runs)
    (isOver : ∀ record ∈ before.runs.rows, record.phase.isOver = true) :
    ∀ record ∈ after.runs.rows, record.phase.isOver = true := by
  intro record member
  rcases turned.source member with ⟨held, heldMember, turns⟩
  rw [(turns.isOver (isOver held heldMember)).1]
  exact isOver held heldMember

omit [DecidableEq Digest] in
theorem Turned.collected {before after : FleetCoordinator Document Digest}
    (turned : Turned before.runs after.runs) {awaited : List String}
    (collected : ∀ record ∈ before.runs.rows, runKey record ∈ awaited) :
    ∀ record ∈ after.runs.rows, runKey record ∈ awaited := by
  intro record member
  rcases turned.source member with ⟨held, heldMember, turns⟩
  rw [runKey, turns.request]
  exact collected held heldMember

theorem collected_step {coordinator : FleetCoordinator Document Digest}
    {action : Action Document} (quiet : Quiet coordinator action)
    (collected : Collected coordinator) :
    Collected (step digest coordinator action) := by
  have moves :
      Moves digest coordinator action (step digest coordinator action) :=
    step_moves coordinator action
  have turned : ∀ {held}, held ∈ coordinator.shutdowns →
      Turned coordinator.runs (step digest coordinator action).runs := by
    intro held member
    exact moves.turned (quiet (List.ne_nil_of_mem member))
  have calls : Calls coordinator action (step digest coordinator action) :=
    step_calls coordinator action
  generalize step digest coordinator action = next at *
  cases calls with
  | kept shutdowns =>
      constructor
      · rw [shutdowns]
        intro held member
        exact (turned member).collected (collected.runs held member)
      · rw [shutdowns]
        intro held member returned
        exact (turned member).isOver (collected.isOver held member returned)
  | called shutdowns =>
      have turnedRuns : Turned coordinator.runs next.runs := moves.turned rfl
      constructor
      · rw [shutdowns]
        intro held member
        rcases List.mem_append.1 member with earlier | last
        · exact turnedRuns.collected (collected.runs held earlier)
        · rw [List.mem_singleton.1 last]
          exact turnedRuns.collected fun record => List.mem_map_of_mem
      · rw [shutdowns]
        intro held member returned
        rcases List.mem_append.1 member with earlier | last
        · exact turnedRuns.isOver (collected.isOver held earlier returned)
        · rw [List.mem_singleton.1 last] at returned
          cases returned
  | passed call waited state waiting shutdowns returns runs =>
      constructor
      · rw [shutdowns]
        intro held member
        rcases List.mem_or_eq_of_mem_set member with earlier | rfl
        · exact (turned waiting).collected (collected.runs held earlier)
        · exact (turned waiting).collected (collected.runs waited waiting)
      · rw [shutdowns]
        intro held member returned
        rcases List.mem_or_eq_of_mem_set member with earlier | rfl
        · exact (turned waiting).isOver (collected.isOver held earlier returned)
        · rw [runs returned]
          intro record here
          exact mayReturn_over (returns returned) here
            (collected.runs waited waiting record here)

omit [DecidableEq Digest] in
theorem Calls.nonempty {coordinator next : FleetCoordinator Document Digest}
    {action : Action Document} (calls : Calls coordinator action next)
    (called : coordinator.shutdowns ≠ []) : next.shutdowns ≠ [] := by
  cases calls with
  | kept shutdowns => rwa [shutdowns]
  | called shutdowns => simp [shutdowns]
  | passed call waited state waiting shutdowns _ _ =>
      rw [shutdowns]
      simpa using called

omit [DecidableEq Digest] in
theorem Moves.capacity {coordinator next : FleetCoordinator Document Digest}
    {action : Action Document}
    (moves : Moves digest coordinator action next) :
    next.capacity = coordinator.capacity := by
  cases moves with
  | kept _ _ capacity => exact capacity
  | entered _ _ _ _ _ _ _ capacity => exact capacity
  | added _ _ _ _ _ capacity => exact capacity

omit [DecidableEq Digest] in
/-- The executor is entered for no run while every task is isOver. -/
theorem Moves.entries_over
    {coordinator next : FleetCoordinator Document Digest}
    {action : Action Document} (moves : Moves digest coordinator action next)
    (isOver :
      ∀ record ∈ coordinator.runs.rows, record.phase.isOver = true) :
    next.entries = coordinator.entries := by
  cases moves with
  | kept _ entries _ => exact entries
  | entered runId record found created _ _ _ _ =>
      have done := isOver record (Table.find?_mem found)
      rw [created] at done
      cases done
  | added _ _ _ _ entries _ => exact entries

/-- Tasks that are over while no run is added stay over, and none enters the
executor. -/
theorem over_run {coordinator : FleetCoordinator Document Digest}
    {later : List (Action Document)}
    (quiet : Along (step digest) Quiet coordinator later)
    (called : coordinator.shutdowns ≠ [])
    (isOver :
      ∀ record ∈ coordinator.runs.rows, record.phase.isOver = true) :
    (run (step digest) coordinator later).entries = coordinator.entries ∧
      ∀ record ∈ (run (step digest) coordinator later).runs.rows,
        record.phase.isOver = true := by
  have keeps : ∀ (state : FleetCoordinator Document Digest) action,
      Quiet state action →
      (state.shutdowns ≠ [] ∧ state.entries = coordinator.entries ∧
        ∀ record ∈ state.runs.rows, record.phase.isOver = true) →
      (step digest state action).shutdowns ≠ [] ∧
        (step digest state action).entries = coordinator.entries ∧
        ∀ record ∈ (step digest state action).runs.rows,
          record.phase.isOver = true := by
    rintro state action quietHere ⟨calledHere, entries, overHere⟩
    have moves : Moves digest state action (step digest state action) :=
      step_moves state action
    refine ⟨?_, (moves.entries_over overHere).trans entries, ?_⟩
    · exact (step_calls state action).nonempty calledHere
    · exact (moves.turned (quietHere calledHere)).isOver overHere
  exact (run_keeps keeps quiet ⟨called, rfl, isOver⟩).2

theorem collected_after {capacity : Nat} {actions : List (Action Document)}
    (quiet :
      Along (step digest) Quiet (FleetCoordinator.new capacity) actions) :
    Collected (after digest capacity actions) := by
  have keeps : ∀ (state : FleetCoordinator Document Digest) action,
      Quiet state action → Collected state →
        Collected (step digest state action) :=
    fun _ _ quietHere collected => collected_step quietHere collected
  exact run_keeps keeps quiet (collected_new capacity)

theorem capacity_after (capacity : Nat) (actions : List (Action Document)) :
    (after digest capacity actions).capacity = capacity := by
  have keeps : ∀ (state : FleetCoordinator Document Digest) action,
      state.capacity = capacity →
        (step digest state action).capacity = capacity := by
    intro state action same
    have moves : Moves digest state action (step digest state action) :=
      step_moves state action
    exact moves.capacity.trans same
  exact run_keeps_always keeps actions rfl

/-- A call of `shutdown` has returned. -/
def HasReturned (coordinator : FleetCoordinator Document Digest) : Prop :=
  ∃ held ∈ coordinator.shutdowns, held.state = .returned

/-- No call of the executor is running. -/
def NoneExecuting (coordinator : FleetCoordinator Document Digest) : Prop :=
  ∀ record ∈ coordinator.runs.rows, record.phase ≠ .executing

omit [DecidableEq Digest] in
theorem noneExecuting_of_over
    {coordinator : FleetCoordinator Document Digest}
    (isOver :
      ∀ record ∈ coordinator.runs.rows, record.phase.isOver = true) :
    NoneExecuting coordinator := by
  intro record member executing
  have done := isOver record member
  rw [executing] at done
  cases done

variable (digest)

/--
In every run of the coordinator the executor is entered at most once for a run
identifier, the active runs are within the capacity, a repeated start changes
nothing and returns the known status or refuses a request of another digest, a
terminal status stays, and a call of `cancel` returns a terminal status at the
end of the run's task.  Where no start adds a run once a call of `shutdown` has
collected the tasks, no call of the executor runs or begins after a call of
`shutdown` has returned.
-/
theorem coordinator_sound (capacity : Nat)
    (actions : List (Action Document)) :
    (after digest capacity actions).entries.Nodup ∧
      (after digest capacity actions).active ≤ capacity ∧
      (∀ request known,
        (after digest capacity actions).runs.find? request.runId =
            some known →
          step digest (after digest capacity actions) (.start request) =
              after digest capacity actions ∧
            (request = known.request →
              answer digest (after digest capacity actions)
                  (.start request) =
                some (.ok known.status)) ∧
            (digest request ≠ digest known.request →
              answer digest (after digest capacity actions)
                  (.start request) =
                some (.error .runConflict))) ∧
      (∀ runId record,
        (after digest capacity actions).runs.find? runId = some record →
          record.isActive = false → ∀ later,
            ∃ held,
              (after digest capacity (actions ++ later)).runs.find? runId =
                  some held ∧
                held.status = record.status) ∧
      (∀ action returned, action.isCancel = true →
        answer digest (after digest capacity actions) action =
            some (.ok returned) →
          ∃ call runId record, action = .cancelReturns call ∧
            (after digest capacity actions).cancels[call]? =
              some (some runId) ∧
            (after digest capacity actions).runs.find? runId =
              some record ∧
            record.phase = .ended ∧ returned = record.status ∧
            record.isActive = false) ∧
      ∀ later,
        Along (step digest) Quiet (FleetCoordinator.new capacity)
            (actions ++ later) →
          HasReturned (after digest capacity actions) →
            NoneExecuting (after digest capacity (actions ++ later)) ∧
              (after digest capacity (actions ++ later)).entries =
                (after digest capacity actions).entries := by
  have sound : Sound digest (after digest capacity actions) :=
    sound_after capacity actions
  refine ⟨sound.entries, ?_, ?_, ?_, ?_, ?_⟩
  · have bounded := sound.capacity
    rwa [capacity_after] at bounded
  · intro request known found
    have same := (sound.records known (Table.find?_mem found)).digest
    simp only [step, answer, apply, start_known found, true_and]
    constructor
    · rintro rfl
      rw [if_pos same]
    · intro other
      rw [if_neg (fun equal => other (equal.symm.trans same))]
  · intro runId record found terminal later
    rw [after, run_append]
    exact terminal_run sound found terminal later
  · intro action returned isCancel answered
    rcases cancel_ok isCancel answered with
      ⟨call, runId, record, named, waited, found, ended, same⟩
    have active := (sound.records record (Table.find?_mem found)).active
    rw [ended] at active
    exact ⟨call, runId, record, named, waited, found, ended, same, active⟩
  · rintro later quiet ⟨held, member, returned⟩
    rcases quiet.split with ⟨quietBefore, quietLater⟩
    have collected : Collected (after digest capacity actions) :=
      collected_after quietBefore
    rcases over_run quietLater (List.ne_nil_of_mem member)
        (collected.isOver held member returned) with ⟨entries, isOver⟩
    rw [after, run_append]
    exact ⟨noneExecuting_of_over isOver, entries⟩

end Runs

/-! ## Two runs -/

/-- A request whose document is a number. -/
def numberedRequest (runId : String) (document : Nat) : StartRequest Nat where
  runId := runId
  missionId := "mission-1"
  document := document

/-- The status that the executor returns for a cancelled run. -/
def cancelledStatus (runId : String) : TerminalStatus where
  status :=
    { missionId := "mission-1"
      runId := runId
      state := .cancelled
      completedTickCount := 3
      telemetryPublicationCount := 6 }
  terminal := rfl

theorem coordinator_sound_oneRun :
    let actions : List (Action Nat) :=
      [.startup, .start (numberedRequest "run-1" 1), .taskBegins "run-1",
        .cancel "run-1" "mission-1", .shutdown,
        .executeReturns "run-1" (cancelledStatus "run-1"),
        .shutdownReturns 0]
    let later : List (Action Nat) :=
      [.start (numberedRequest "run-1" 2), .cancelReturns 0,
        .taskBegins "run-1"]
    let coordinator := after id 4 (actions ++ later)
    HasReturned (after id 4 actions) ∧ NoneExecuting coordinator ∧
      coordinator.entries = (after id 4 actions).entries := by
  intro actions later coordinator
  have returned : HasReturned (after id 4 actions) := by
    exact ⟨⟨["run-1"], .returned⟩, by decide, rfl⟩
  have quiet :
      Along (step id) Quiet (FleetCoordinator.new 4) (actions ++ later) := by
    decide
  rcases coordinator_sound id 4 actions with ⟨_, _, _, _, _, shutdownSound⟩
  exact ⟨returned, shutdownSound later quiet returned⟩

/-- A run that was started while `shutdown` waited is executed after it has
returned. -/
theorem lateStart_executing :
    ¬ ∀ (actions : List (Action Nat)), HasReturned (after id 4 actions) →
      NoneExecuting (after id 4 actions) := by
  intro always
  have returned :=
    always
      [.startup, .start (numberedRequest "run-1" 1), .taskBegins "run-1",
        .shutdown, .start (numberedRequest "run-2" 2), .taskBegins "run-2",
        .executeReturns "run-1" (cancelledStatus "run-1"),
        .shutdownReturns 0]
      ⟨⟨["run-1"], .returned⟩, by decide, rfl⟩
  exact returned
    { request := numberedRequest "run-2" 2
      digest := numberedRequest "run-2" 2
      status := status (numberedRequest "run-2" 2) .running
      cancelled := false
      phase := .executing
      abortRequested := false }
    (by decide) rfl

end AerialRescue.Fleet.Coordinator
