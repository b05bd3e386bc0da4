import AerialRescue.Dashboard.BoundaryParity
import AerialRescue.Dashboard.CanonicalDecoding
import AerialRescue.Dashboard.TimelineParity
import AerialRescue.Lib.Run

/-!
# The browser's source session

`sources/source-session.ts`: the inputs of one dashboard source after another,
processed one at a time, each across the awaits of its digest verification,
next to the operations that replace the source, lock the runtime and dispose of
the session.

The generated validators of the document schemas are the fields of `Schemas`.
Promises that the session does not compute itself, the consumer of unhandled
inputs and the request for a snapshot, end in whatever way an action says.
-/

namespace AerialRescue.Dashboard.SourceSession

open AerialRescue.Contracts
open AerialRescue.Contracts.Canonical
open AerialRescue.Contracts.Envelopes
open AerialRescue.Contracts.Rpc
open AerialRescue.Contracts.View
open AerialRescue.Dashboard.CanonicalDecoding
open AerialRescue.Dashboard.CanonicalText
open AerialRescue.Dashboard.DomainReducer
open AerialRescue.Dashboard.JsonParse
open AerialRescue.Dashboard.ReducerParity
open AerialRescue.Dashboard.TimelineParity.Browser
open AerialRescue.Lib.Binary64

/-! ## Documents -/

/-- The run modes of the dashboard. -/
inductive RunMode where
  | degradedLive
  | replay
deriving DecidableEq

/-- `LiveRun` or `ReplayRun` -/
inductive CurrentRun where
  | live (missionId runId : String)
  | replay (sessionId : String)
deriving DecidableEq

def CurrentRun.mode : CurrentRun → RunMode
  | .live _ _ => .degradedLive
  | .replay _ => .replay

/-- `DashboardSnapshot` -/
structure DashboardSnapshot extends BrowserSnapshot where
  runtimeId : String
  currentRun : Option CurrentRun

/-- `DashboardSourceSignal` -/
inductive SourceSignal where
  | connecting
  | disconnected
  | offline
  | recovered
deriving DecidableEq

def SourceSignal.text : SourceSignal → String
  | .connecting => "connecting"
  | .disconnected => "disconnected"
  | .offline => "offline"
  | .recovered => "recovered"

/-- The schemas of the documents that a source delivers. -/
inductive SchemaId where
  | snapshot
  | eventFrame
  | overload
  | sourceSignal
deriving DecidableEq

/-- The documents that the generated validators accept. -/
structure Schemas where
  snapshot : ScriptValue → Option DashboardSnapshot
  eventFrame : ScriptValue → Option EventFrame
  overload : ScriptValue → Option Unit
  sourceSignal : ScriptValue → Option SourceSignal

/-- What the session takes from outside. -/
structure Boundary where
  host : Host
  number : String → Double
  /-- The validator of the event frame's schema, as the reducer calls it. -/
  accepts : Value → Bool
  schemas : Schemas
  /-- Whether there is a `consumeUnhandledInput`. -/
  consumesUnhandled : Bool

/-! ## The published state -/

/-- `DashboardSourceStatus` -/
inductive SourceStatus where
  | idle
  | connecting
  | connected
  | disconnected
  | offline
  | recovered
  | runtimeChanged
  | modeMismatch
  | resynchronizing
  | disposed
deriving DecidableEq

def SourceSignal.status : SourceSignal → SourceStatus
  | .connecting => .connecting
  | .disconnected => .disconnected
  | .offline => .offline
  | .recovered => .recovered

/-- The refusals that name their input only. -/
inductive RefusalCode where
  | cursorWitnessMismatch
  | malformedJson
  | canonicalProfileRefused
  | unknownFrame
  | signalNameMismatch
  | unsupportedChannel
  | processingFailed
  | resnapshotFailed
  | runIdentityMismatch
deriving DecidableEq

/-- `DashboardSourceRefusal` -/
inductive SourceRefusal where
  | input (code : RefusalCode) (inputName : String)
  | schemaValidationFailed (inputName : String) (schemaId : SchemaId)
  | reducerRefused (inputName : String) (reducerCode : ReducerRefusal)
  | runModeMismatch (actualMode expectedMode : RunMode) (inputName : String)
deriving DecidableEq

/-- `DashboardServerSourceState` -/
structure ServerState where
  currentRun : Option CurrentRun
  refusal : Option SourceRefusal
  runtimeId : Option String
  status : SourceStatus
deriving DecidableEq

/-- `DashboardMissionSourceState` -/
structure MissionState where
  checkpoint : ReducerCheckpoint
  timeline : List OrderedDashboardEvent

/-- `DashboardSourceSessionState` -/
structure SessionState where
  mission : MissionState
  server : ServerState

/-- `emptyReducerCheckpoint` -/
def emptyReducerCheckpoint : ReducerCheckpoint where
  state :=
    { currentMission := none
      fleet := []
      sectors := []
      latestAuditOrdinal := 0 }
  latestEventDigest := none

/-- `initialState` -/
def initialState : SessionState where
  mission := ⟨emptyReducerCheckpoint, []⟩
  server := ⟨none, none, none, .idle⟩

/-! ## The session -/

/-- `DashboardSourceInput` -/
structure Input where
  channel : String
  lastEventId : Option String
  name : String
  raw : String
deriving DecidableEq

/-- What an input awaits, with what it resumes from. -/
inductive Awaiting where
  /-- `checkpointFromSnapshot` -/
  | snapshot (document : DashboardSnapshot)
  /-- `foldVerifiedOrderedDashboardEvent`, of the checkpoint it was called
  with. -/
  | eventFrame (checkpoint : ReducerCheckpoint) (document : EventFrame)
  /-- `consumeUnhandledInput` -/
  | consumer
  /-- `requestSnapshot` -/
  | request

/-- An input that is being processed.  `since` is the session's generation when
it began to wait. -/
structure Suspended where
  sourceGeneration : Nat
  since : Nat
  input : Input
  awaiting : Awaiting

/-- `DashboardSourceSession`.  The promise chain `processing` is the input that
waits and those behind it; `sources` are the generations whose source has the
session as its consumer. -/
structure Session where
  activeSubscription : Option Nat
  currentState : SessionState
  disposed : Bool
  expectedLiveRun : Option (String × String)
  expectedRunMode : Option RunMode
  generation : Nat
  suspended : Option Suspended
  waiting : List (Nat × Input)
  sources : List Nat

namespace Session

/-- A session that no source was opened for. -/
def initial : Session where
  activeSubscription := none
  currentState := initialState
  disposed := false
  expectedLiveRun := none
  expectedRunMode := none
  generation := 0
  suspended := none
  waiting := []
  sources := []

/-- How a part of the processing ends. -/
inductive Outcome where
  | finished
  | raised
  | awaits (awaiting : Awaiting)

/-- `publish`, whose subscriber may raise. -/
def publish (raises : Bool) (session : Session) (state : SessionState) :
    Session × Outcome :=
  ({ session with currentState := state },
    if raises then .raised else .finished)

/-- The published server state with another refusal. -/
def refusedState (session : Session) (refusal : SourceRefusal) :
    SessionState :=
  { session.currentState with
    server := { session.currentState.server with refusal := some refusal } }

/-- `refuse` -/
def refuse (raises : Bool) (session : Session) (refusal : SourceRefusal) :
    Session × Outcome :=
  publish raises session (session.refusedState refusal)

/-- The published state with another status and no refusal. -/
def statusState (session : Session) (status : SourceStatus) : SessionState :=
  { session.currentState with
    server :=
      { session.currentState.server with refusal := none, status } }

/-- The next generation, without a subscription. -/
def close (session : Session) : Session :=
  { session with
    generation := session.generation + 1
    activeSubscription := none }

/-- `lockRuntimeChange` -/
def lockRuntimeChange (raises : Bool) (session : Session) :
    Session × Outcome :=
  publish raises session.close (session.statusState .runtimeChanged)

/-! ## Validation -/

/-- How a validation ends. -/
inductive Validated (α : Type) where
  | ok (document : α)
  | refused (refusal : SourceRefusal)
  | raised

/-- `validate` -/
def validate {α : Type} (boundary : Boundary)
    (read : ScriptValue → Option α) (schemaId : SchemaId) (input : Input) :
    Validated α :=
  match decoded boundary.host boundary.number input.raw.toList with
  | .malformedJson => .refused (.input .malformedJson input.name)
  | .canonicalProfileRefused =>
      .refused (.input .canonicalProfileRefused input.name)
  | .thrown => .raised
  | .ok value =>
      match read value with
      | none => .refused (.schemaValidationFailed input.name schemaId)
      | some document => .ok document

/-- `acceptCursorWitness` refuses. -/
def witnessMismatch (input : Input) (bodyCursor : String) : Bool :=
  input.lastEventId.any fun lastEventId => lastEventId ≠ bodyCursor

/-- The live run of a snapshot is one of another mission. -/
def namesOtherMission (document : DashboardSnapshot) : Bool :=
  match document.currentRun with
  | some (.live missionId _) =>
      (document.state.currentMission.map fun mission =>
        mission.identifier) ≠ some missionId
  | _ => false

/-- The run of a snapshot is not the expected live one. -/
def unexpectedRun (session : Session) (document : DashboardSnapshot) : Bool :=
  session.expectedLiveRun.any fun expected =>
    document.currentRun ≠ some (.live expected.1 expected.2)

/-- The actual and the expected mode, where they differ. -/
def modeMismatch (session : Session) (document : DashboardSnapshot) :
    Option (RunMode × RunMode) := do
  let expected ← session.expectedRunMode
  let run ← document.currentRun
  if run.mode = expected then none else some (run.mode, expected)

/-- What `processSnapshot` makes of an input before it awaits. -/
inductive Verdict where
  | raised
  | refused (refusal : SourceRefusal)
  | runtimeChanged
  | modeMismatch (modes : RunMode × RunMode) (document : DashboardSnapshot)
  | verifies (document : DashboardSnapshot)

/-- The checks of a valid snapshot. -/
def judge (session : Session) (input : Input) (document : DashboardSnapshot) :
    Verdict :=
  if witnessMismatch input document.cursor then
    .refused (.input .cursorWitnessMismatch input.name)
  else if session.currentState.server.runtimeId.any fun acceptedRuntime =>
      document.runtimeId ≠ acceptedRuntime then
    .runtimeChanged
  else
    match session.modeMismatch document with
    | some modes => .modeMismatch modes document
    | none =>
        if namesOtherMission document || session.unexpectedRun document then
          .refused (.input .runIdentityMismatch input.name)
        else .verifies document

/-- The verdict on an input. -/
def snapshotVerdict (boundary : Boundary) (session : Session)
    (input : Input) : Verdict :=
  match validate boundary boundary.schemas.snapshot .snapshot input with
  | .raised => .raised
  | .refused refusal => .refused refusal
  | .ok document => session.judge input document

/-! ## Processing up to an await -/

/-- The state published for a run of another mode. -/
def mismatchState (session : Session) (input : Input)
    (modes : RunMode × RunMode) (document : DashboardSnapshot) :
    SessionState where
  mission := session.currentState.mission
  server :=
    { currentRun := document.currentRun
      refusal := some (.runModeMismatch modes.1 modes.2 input.name)
      runtimeId := some document.runtimeId
      status := .modeMismatch }

/-- `processSnapshot`, up to its await. -/
def processSnapshot (boundary : Boundary) (raises : Bool) (session : Session)
    (input : Input) : Session × Outcome :=
  match session.snapshotVerdict boundary input with
  | .raised => (session, .raised)
  | .refused refusal => session.refuse raises refusal
  | .runtimeChanged => session.lockRuntimeChange raises
  | .modeMismatch modes document =>
      session.publish raises (session.mismatchState input modes document)
  | .verifies document => (session, .awaits (.snapshot document))

/-- `processEventFrame`, up to its await. -/
def processEventFrame (boundary : Boundary) (raises : Bool)
    (session : Session) (input : Input) : Session × Outcome :=
  match validate boundary boundary.schemas.eventFrame .eventFrame input with
  | .raised => (session, .raised)
  | .refused refusal => session.refuse raises refusal
  | .ok document =>
      if witnessMismatch input document.cursor then
        session.refuse raises (.input .cursorWitnessMismatch input.name)
      else if session.currentState.server.status = .modeMismatch then
        (session, .finished)
      else
        (session,
          .awaits
            (.eventFrame session.currentState.mission.checkpoint document))

/-- `processSourceSignal` -/
def processSourceSignal (boundary : Boundary) (raises : Bool)
    (session : Session) (input : Input) : Session × Outcome :=
  match validate boundary boundary.schemas.sourceSignal .sourceSignal input with
  | .raised => (session, .raised)
  | .refused refusal => session.refuse raises refusal
  | .ok signal =>
      if signal.text ≠ input.name then
        session.refuse raises (.input .signalNameMismatch input.name)
      else if session.currentState.server.status = .modeMismatch then
        (session, .finished)
      else session.publish raises (session.statusState signal.status)

/-- The request for a snapshot, unless the publication before it raised. -/
def request : Session × Outcome → Session × Outcome
  | (next, .raised) => (next, .raised)
  | (next, _) => (next, .awaits .request)

/-- `processOverload`, up to its await. -/
def processOverload (boundary : Boundary) (raises : Bool)
    (sourceGeneration : Nat) (session : Session) (input : Input) :
    Session × Outcome :=
  match validate boundary boundary.schemas.overload .overload input with
  | .raised => (session, .raised)
  | .refused refusal => session.refuse raises refusal
  | .ok _ =>
      if sourceGeneration ≠ session.generation then (session, .finished)
      else
        request
          (session.close.publish raises
            (session.statusState .resynchronizing))

/-- `processInput`, up to its await. -/
def processInput (boundary : Boundary) (raises : Bool)
    (sourceGeneration : Nat) (session : Session) (input : Input) :
    Session × Outcome :=
  if input.channel = "source-signal" then
    session.processSourceSignal boundary raises input
  else if input.channel ≠ "sse-frame" then
    if boundary.consumesUnhandled then (session, .awaits .consumer)
    else session.refuse raises (.input .unsupportedChannel input.name)
  else if input.name = "snapshot" then
    session.processSnapshot boundary raises input
  else if input.name = "dashboard-event" then
    session.processEventFrame boundary raises input
  else if input.name = "stream-overloaded" then
    session.processOverload boundary raises sourceGeneration input
  else session.refuse raises (.input .unknownFrame input.name)

/-! ## After an await -/

/-- The session and the state it publishes for an accepted snapshot. -/
def acceptSnapshot (raises : Bool) (session : Session)
    (document : DashboardSnapshot) (checkpoint : ReducerCheckpoint) :
    Session × Outcome :=
  { session with expectedLiveRun := none }.publish raises
    { mission :=
        ⟨checkpoint, replaceTimelineFromSnapshot document.timeline⟩
      server :=
        { currentRun := document.currentRun
          refusal := none
          runtimeId := some document.runtimeId
          status := .connected } }

/-- The state published for a folded event. -/
def foldedState (session : Session) (document : EventFrame)
    (checkpoint : ReducerCheckpoint) : SessionState where
  mission :=
    ⟨checkpoint,
      appendMeaningfulTimelineEvent session.currentState.mission.timeline
        document.event⟩
  server :=
    { session.currentState.server with
      refusal := none
      status := .connected }

/-- `processSnapshot` after its await. -/
def verifySnapshot (boundary : Boundary) (raises : Bool) (session : Session)
    (input : Input) (document : DashboardSnapshot) : Session × Outcome :=
  match checkpointFromSnapshot boundary.host boundary.number
      document.toBrowserSnapshot with
  | .error _ => (session, .raised)
  | .ok (.error found) =>
      session.refuse raises (.reducerRefused input.name found.code)
  | .ok (.ok checkpoint) => session.acceptSnapshot raises document checkpoint

/-- `processEventFrame` after its await. -/
def verifyEventFrame (boundary : Boundary) (raises : Bool)
    (session : Session) (input : Input) (held : ReducerCheckpoint)
    (document : EventFrame) : Session × Outcome :=
  match foldVerifiedOrderedDashboardEvent boundary.host boundary.number
      boundary.accepts held (documentOf document.event) document.digest with
  | .error _ => (session, .raised)
  | .ok (.refused _ found) =>
      session.refuse raises (.reducerRefused input.name found.code)
  | .ok (.applied checkpoint) =>
      session.publish raises (session.foldedState document checkpoint)
  | .ok (.duplicate checkpoint) =>
      session.publish raises (session.foldedState document checkpoint)

/-- The processing of an input after its await, which `failed` for a promise
from outside. -/
def resume (boundary : Boundary) (failed raises : Bool) (session : Session)
    (input : Input) : Awaiting → Session × Outcome
  | .snapshot document =>
      session.verifySnapshot boundary raises input document
  | .eventFrame held document =>
      session.verifyEventFrame boundary raises input held document
  | .consumer => (session, if failed then .raised else .finished)
  | .request =>
      if failed then
        session.refuse raises (.input .resnapshotFailed input.name)
      else (session, .finished)

/-! ## The promise chain -/

/-- What raised is refused if its source is still current. -/
def caught (sourceGeneration : Nat) (input : Input) (session : Session) :
    Session :=
  if session.disposed = false ∧ sourceGeneration = session.generation then
    { session with
      currentState :=
        session.refusedState (.input .processingFailed input.name) }
  else session

/-- How a part of the processing is left. -/
def settle (sourceGeneration : Nat) (input : Input) :
    Session × Outcome → Session
  | (session, .finished) => { session with suspended := none }
  | (session, .raised) =>
      caught sourceGeneration input { session with suspended := none }
  | (session, .awaits awaiting) =>
      { session with
        suspended :=
          some ⟨sourceGeneration, session.generation, input, awaiting⟩ }

/-- An operation of `enqueue`. -/
def start (boundary : Boundary) (raises : Bool) (session : Session)
    (sourceGeneration : Nat) (input : Input) : Session :=
  if session.disposed = false ∧ sourceGeneration = session.generation then
    settle sourceGeneration input
      (session.processInput boundary raises sourceGeneration input)
  else session

/-- The next operation, once those before it have ended. -/
def proceed (boundary : Boundary) (raises : Bool) (session : Session) :
    Session :=
  match session.suspended, session.waiting with
  | none, (sourceGeneration, input) :: rest =>
      { session with waiting := rest }.start boundary raises sourceGeneration
        input
  | _, _ => session

/-- What the waiting input awaits has ended. -/
def wake (boundary : Boundary) (failed raises : Bool) (session : Session) :
    Session :=
  match session.suspended with
  | none => session
  | some suspended =>
      settle suspended.sourceGeneration suspended.input
        (session.resume boundary failed raises suspended.input
          suspended.awaiting)

/-! ## Operations -/

/-- `anchorRuntime` of a runtime other than the accepted one. -/
def ChangesRuntime (session : Session) (runtimeId : String) : Prop :=
  ∃ acceptedRuntime ∈ session.currentState.server.runtimeId,
    acceptedRuntime ≠ runtimeId

instance ChangesRuntime.decidable (session : Session) (runtimeId : String) :
    Decidable (session.ChangesRuntime runtimeId) :=
  inferInstanceAs (Decidable (∃ acceptedRuntime ∈
    session.currentState.server.runtimeId, acceptedRuntime ≠ runtimeId))

/-- `anchorRuntime` -/
def anchorRuntime (session : Session) (runtimeId : String) : Session :=
  if session.ChangesRuntime runtimeId then
    (session.lockRuntimeChange false).1
  else
    { session with
      currentState :=
        { session.currentState with
          server :=
            { session.currentState.server with
              runtimeId := some runtimeId } } }

/-- `expectLiveRun` -/
def expectLiveRun (session : Session) (missionId runId : String) : Session :=
  if session.disposed then session
  else { session with expectedLiveRun := some (missionId, runId) }

/-- `acceptReplayResume` -/
def acceptReplayResume (session : Session) (sessionId : String) : Session :=
  if session.disposed = false ∧
      session.currentState.server.status = .modeMismatch ∧
      session.currentState.server.currentRun = some (.replay sessionId) then
    { session with currentState := session.statusState .connected }
  else session

/-- `replaceSource` up to `source.open`; a disposed session raises. -/
def replaceSource (session : Session) (expectedRunMode : Option RunMode) :
    Session :=
  if session.disposed then session
  else
    { session.close with
      expectedRunMode
      sources := session.sources ++ [session.generation + 1] }

/-- `source.open` returns the subscription of a generation. -/
def opened (session : Session) (sourceGeneration : Nat) : Session :=
  if session.generation = sourceGeneration then
    { session with activeSubscription := some sourceGeneration }
  else session

/-- `dispose` -/
def dispose (session : Session) : Session :=
  if session.disposed then session
  else
    { session.close with
      disposed := true
      currentState :=
        { session.currentState with
          server :=
            { session.currentState.server with status := .disposed } } }

/-- `enqueue`, by a source that the session opened. -/
def enqueue (session : Session) (sourceGeneration : Nat) (input : Input) :
    Session :=
  if sourceGeneration ∈ session.sources then
    { session with waiting := session.waiting ++ [(sourceGeneration, input)] }
  else session

end Session

/-! ## Runs -/

/-- What happens to a session: an operation, an input of a source, or the next
part of the processing. -/
inductive Action where
  | replaceSource (expectedRunMode : Option RunMode)
  | opened (sourceGeneration : Nat)
  | anchorRuntime (runtimeId : String)
  | expectLiveRun (missionId runId : String)
  | acceptReplayResume (sessionId : String)
  | dispose
  | enqueue (sourceGeneration : Nat) (input : Input)
  | proceed (raises : Bool)
  | wake (failed raises : Bool)
deriving DecidableEq

/-- One action, in whatever order actions come. -/
def step (boundary : Boundary) (session : Session) : Action → Session
  | .replaceSource expectedRunMode => session.replaceSource expectedRunMode
  | .opened sourceGeneration => session.opened sourceGeneration
  | .anchorRuntime runtimeId => session.anchorRuntime runtimeId
  | .expectLiveRun missionId runId => session.expectLiveRun missionId runId
  | .acceptReplayResume sessionId => session.acceptReplayResume sessionId
  | .dispose => session.dispose
  | .enqueue sourceGeneration input => session.enqueue sourceGeneration input
  | .proceed raises => session.proceed boundary raises
  | .wake failed raises => session.wake boundary failed raises

end AerialRescue.Dashboard.SourceSession
