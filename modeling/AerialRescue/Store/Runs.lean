import AerialRescue.Store.Recording

/-!
# Dashboard runs

One run is a live run of an operational mission or a session that replays a
recording; the check constraint of the table admits no other combination of
identities.  A run keeps the canonical bytes of the state it was prepared
with.
-/

namespace AerialRescue.Store

open AerialRescue.Contracts
open AerialRescue.Domain.Mission
open AerialRescue.Lib

/-- The two current-run representations. -/
inductive RunMode where
  | degradedLive
  | replay
deriving DecidableEq

/-- The identities that the check constraint lets a run carry. -/
inductive RunName where
  | live (missionId runId : String)
  | session (sessionId : String)
deriving DecidableEq

def RunName.mode : RunName → RunMode
  | .live _ _ => .degradedLive
  | .session _ => .replay

/-- `run_identity`: the run or the session. -/
def RunName.identity : RunName → String
  | .live _ runId => runId
  | .session sessionId => sessionId

def RunName.missionId : RunName → Option String
  | .live missionId _ => some missionId
  | .session _ => none

/-- One live run or replay session. -/
structure DashboardRun where
  name : RunName
  scenarioId : String
  scenarioRevision : Nat
  preparedInitialState : Bytes
deriving DecidableEq

/-- The primary key of the runs. -/
def DashboardRun.runIdentity (run : DashboardRun) : String :=
  run.name.identity

/-- One live run joined to its mission. -/
structure DashboardRecordingRun where
  missionId : String
  runId : String
  scenarioId : String
  scenarioRevision : Nat
  lifecycle : MissionState
  preparedInitialState : Bytes
deriving DecidableEq

/-- `recording_run` -/
def recordingRun (missions : Table DashboardMission.missionId)
    (runs : Table DashboardRun.runIdentity) (missionId runId : String) :
    Option DashboardRecordingRun := do
  let run ← runs.rows.find? fun run => run.name = .live missionId runId
  let mission ← missions.find? missionId
  pure
    { missionId, runId
      scenarioId := run.scenarioId
      scenarioRevision := run.scenarioRevision
      lifecycle := mission.lifecycle
      preparedInitialState := run.preparedInitialState }

theorem recordingRun_eq_some {missions : Table DashboardMission.missionId}
    {runs : Table DashboardRun.runIdentity} {missionId runId : String}
    {selected : DashboardRecordingRun}
    (found : recordingRun missions runs missionId runId = some selected) :
    ∃ mission,
      missions.find? missionId = some mission ∧
        selected.missionId = missionId ∧ selected.runId = runId ∧
        selected.lifecycle = mission.lifecycle := by
  simp only [recordingRun, Option.bind_eq_bind, Option.bind_eq_some_iff,
    Option.pure_def, Option.some.injEq] at found
  rcases found with ⟨run, _, mission, held, rfl⟩
  exact ⟨mission, held, rfl, rfl, rfl⟩

end AerialRescue.Store
