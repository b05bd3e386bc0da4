import AerialRescue.Contracts.Digest
import AerialRescue.Contracts.Envelopes
import AerialRescue.Store.Recording

/-!
# The recorder

`Recorder.capture`: one validated notification becomes an inbox row, a source
event, a lifecycle move, an audit row at the next ordinal of its mission and
the link of that ordinal to its broker event, in one transaction, and a
guaranteed message is settled after the commit.  A permanent refusal of the
link is settled as rejected; every other exception escapes.
-/

namespace AerialRescue.Recorder

open AerialRescue.Contracts
open AerialRescue.Contracts.Canonical
open AerialRescue.Contracts.Digest
open AerialRescue.Contracts.Envelopes
open AerialRescue.Contracts.Topics
open AerialRescue.Domain.Mission
open AerialRescue.Lib
open AerialRescue.Lib.Guard
open AerialRescue.Lib.Transaction
open AerialRescue.Store

/-! ## Exceptions -/

/-- `CaptureRefusal` -/
inductive CaptureRefusal where
  | settlementMismatch
  | excludedFamily
  | topicBinding
  | inboxOutcome
  | auditOrdinal
  | missionLifecycle
deriving DecidableEq

/-- `BrokerIngressRefusal`, without the refusal of a timeout. -/
inductive BrokerIngressRefusal where
  | invalidTopic
  | invalidNotification
deriving DecidableEq

/-- Every exception that the recorder can end with. -/
inductive RecorderFailure where
  | capture (refusal : CaptureRefusal)
  | ingress (refusal : BrokerIngressRefusal)
  | store (failure : StoreFailure)
  /-- `StoreAdapterError` with `INBOX_RESULT` -/
  | inboxResult
  /-- `MissionError` with `TRANSITION` -/
  | mission
  | canonicalization (refusal : Refusal)
  | digest (failure : DigestFailure)
  | topic (refusal : TopicRefusal)
deriving DecidableEq

/-! ## Notifications and facts -/

/-- One notification that crossed the broker boundary. -/
structure ReceivedNotification where
  topic : Topic
  envelope : Envelope
  observedAt : String

/-- `recording_policy`: whether a family is excluded. -/
def isExcluded : Family → Bool
  | .agentResponse | .gatewayRequest | .gatewayResponse => true
  | _ => false

/-- Every value that one recording persists together. -/
structure RecordingFact where
  inbox : InboxIdentity
  sourceEvent : StoredSourceEvent
  audit : AuditRecord
  brokerEvent : BrokerEvent
  observedAt : String
  missionLifecycle : Option MissionState

/-- The recorder's inbox consumer. -/
def consumer : String := "recorder"

/-- `MISSION_LIFECYCLE_TYPE` -/
def missionLifecycleType : String :=
  "aerial-rescue.v1.mission.event.lifecycle"

/-- `MissionState[name]` -/
def missionState? : String → Option MissionState
  | "PLANNED" => some .planned
  | "SEARCHING" => some .searching
  | "ESCALATED" => some .escalated
  | "COMPLETED" => some .completed
  | "EXHAUSTED" => some .exhausted
  | "ABORTED" => some .aborted
  | _ => none

/-- `_observed_lifecycle` -/
def observedLifecycle (envelope : Envelope) :
    Except RecorderFailure (Option MissionState) :=
  if envelope.type ≠ missionLifecycleType then
    .ok none
  else
    match Value.get "lifecycle" envelope.data with
    | .text name =>
        match missionState? name with
        | some state => .ok (some state)
        | none => .error (.capture .missionLifecycle)
    | _ => .error (.capture .missionLifecycle)

/-- `source_event_digest` -/
def sourceEventDigest (host : Host) (envelope : Envelope) :
    Except DigestFailure String :=
  digestCovered host .sourceEvent
    [ ("canonicalizationVersion", .int 1),
      ("event", .object (envelopeDocument envelope)) ]

/-- `_recording_fact` -/
def recordingFact (host : Host) (notification : ReceivedNotification) :
    Except RecorderFailure RecordingFact := do
  let envelope := notification.envelope
  recast (fun _ => .capture .topicBinding)
    (checkTopicBinding envelope notification.topic)
  let canonicalEvent ← recast RecorderFailure.canonicalization
    (canonicalBytes host (.object (envelopeDocument envelope)))
  let eventDigest ← recast RecorderFailure.digest
    (sourceEventDigest host envelope)
  let topic ← recast RecorderFailure.topic (formatTopic notification.topic)
  let missionLifecycle ← observedLifecycle envelope
  pure
    { inbox :=
        { consumer
          source := envelope.source
          eventId := envelope.id
          missionId := envelope.subject
          canonicalDigest := eventDigest }
      sourceEvent :=
        { source := envelope.source
          eventId := envelope.id
          missionId := envelope.subject
          topic
          canonicalDigest := eventDigest
          canonicalPayload := canonicalEvent
          observedAt := envelope.time }
      audit :=
        { missionId := envelope.subject
          kind := envelope.type
          occurredAt := envelope.time
          payload := canonicalEvent
          correlationId := envelope.correlationId
          causationId := envelope.causationId
          traceparent := envelope.traceparent }
      brokerEvent :=
        { source := envelope.source
          eventId := envelope.id
          sourceSequence := sequenceNumber envelope.sequence
          payloadDigest := host.sha256 canonicalEvent }
      observedAt := notification.observedAt
      missionLifecycle }

/-! ## The transaction -/

/-- A step of the recorder's transaction. -/
abbrev Recording (α : Type) := Tx Database RecorderFailure α

/-- `CaptureDecision` -/
inductive CaptureDecision where
  | recorded
  | duplicate
  | refused
deriving DecidableEq

/-- The durable result of one capture. -/
structure CaptureOutcome where
  decision : CaptureDecision
  auditOrdinal : Nat
deriving DecidableEq

/-- The stored document of an issued ordinal. -/
def ordinalDocument (ordinal : Nat) : Value :=
  .object [("auditOrdinal", .int ordinal)]

/-- `_decode_ordinal` -/
def decodeOrdinal (host : Host) (result : Bytes) :
    Except RecorderFailure Nat := do
  let document ← recast (fun _ => .inboxResult) (decode host result)
  let bytes ← recast (fun _ => .inboxResult) (canonicalBytes host document)
  ensure (bytes = result) .inboxResult
  match document with
  | .object members => do
      ensure (Value.keysAre members ["auditOrdinal"]) .inboxResult
      match Value.get "auditOrdinal" members with
      | .int ordinal =>
          if 0 < ordinal then .ok ordinal.toNat else .error .inboxResult
      | _ => .error .inboxResult
  | _ => .error .inboxResult

/-- `apply_mission_lifecycle` -/
def applyMissionLifecycle (missionId : String) (target : MissionState) :
    Recording Unit := do
  let current ← rethrow RecorderFailure.store (missionLifecycle missionId)
  if current = target then
    pure ()
  else
    let approved ← demand (moveTo current target) .mission
    rethrow RecorderFailure.store
      (transitionMission missionId current approved)

/-- The lifecycle move of a recording, when its event carries one. -/
def applyLifecycle (fact : RecordingFact) : Recording Unit :=
  match fact.missionLifecycle with
  | some target => applyMissionLifecycle fact.audit.missionId target
  | none => pure ()

/-- The effects of a recording whose inbox row was claimed. -/
def recordClaimed (host : Host) (fact : RecordingFact) :
    Recording CaptureOutcome := do
  rethrow RecorderFailure.store (recordSourceEvent fact.sourceEvent)
  applyLifecycle fact
  let ordinal ← rethrow RecorderFailure.store (appendAudit fact.audit)
  rethrow RecorderFailure.store
    (linkBrokerEvent fact.brokerEvent fact.audit.missionId ordinal)
  let result ← lift RecorderFailure.canonicalization
    (canonicalBytes host (ordinalDocument ordinal))
  rethrow RecorderFailure.store
    (completeInbox fact.inbox result fact.observedAt)
  pure ⟨.recorded, ordinal⟩

/-- `_persist` -/
def persist (host : Host) (fact : RecordingFact) :
    Recording CaptureOutcome := do
  let claimed ← rethrow RecorderFailure.store (claimInbox fact.inbox)
  match claimed.decision with
  | .duplicate =>
      let result ← demand claimed.result .inboxResult
      let ordinal ← lift id (decodeOrdinal host result)
      pure ⟨.duplicate, ordinal⟩
  | .claimed => recordClaimed host fact

/-! ## Settlement -/

/-- How a guaranteed message was settled. -/
inductive Settlement where
  | accepted
  | rejected
deriving DecidableEq

/-- The durable database and the settlements of the recorder's messages. -/
structure RecorderWorld where
  database : Database
  settlements : List Settlement

/-- A step of the recorder process. -/
abbrev RecorderStep (α : Type) := Tx RecorderWorld RecorderFailure α

/-- A transaction of the recorder: commit the body's writes, or none. -/
def committing {α : Type} (body : Recording α) : RecorderStep α :=
  fun world =>
    match exec (atomically body) world.database with
    | (result, database) => (result, { world with database })

/-- Settle the message, where there is one to settle. -/
def settle (guaranteed : Bool) (settlement : Settlement) :
    RecorderStep Unit :=
  fun world =>
    (.ok (),
      if guaranteed then
        { world with settlements := world.settlements ++ [settlement] }
      else
        world)

/-- `_PERMANENT_STORE_REFUSALS`, as far as a link can raise them. -/
def isPermanent : RecorderFailure → Bool
  | .store (.dashboardEvent .divergentDuplicate)
  | .store (.dashboardEvent .sequenceReused)
  | .store (.dashboardEvent .staleSequence) => true
  | _ => false

/-- `Recorder.capture`; `guaranteed` is whether a settlement came with it. -/
def capture (host : Host) (notification : ReceivedNotification)
    (guaranteed : Bool) : RecorderStep CaptureOutcome := do
  require (isExcluded notification.topic.family = false)
    (.capture .excludedFamily)
  require
    (decide (deliveryFor notification.topic.family = .guaranteed) =
      guaranteed)
    (.capture .settlementMismatch)
  let fact ← lift id (recordingFact host notification)
  let outcome ← recover (committing (persist host fact)) fun failure =>
    if isPermanent failure then some (pure ⟨.refused, 0⟩) else none
  settle guaranteed
    (if outcome.decision = .refused then .rejected else .accepted)
  pure outcome

/-! ## What a capture writes -/

/-- How a lifecycle event moves its mission. -/
def LifecycleMoved (fact : RecordingFact) (before after : Database) : Prop :=
  match fact.missionLifecycle with
  | none => after.missions = before.missions
  | some target =>
      ∃ mission,
        before.missions.find? fact.audit.missionId = some mission ∧
          (mission.lifecycle = target ∧ after.missions = before.missions ∨
            moveTo mission.lifecycle target = some target ∧
              after.missions =
                (moveMission before fact.audit.missionId target).missions)

/-- The link of a recorded ordinal, or the event that is already linked. -/
def EventLinked (fact : RecordingFact) (ordinal : Nat)
    (before after : Database) : Prop :=
  before.brokerEvents.insert?
        ⟨fact.brokerEvent, fact.audit.missionId, ordinal⟩ =
      some after.brokerEvents ∨
    (before.brokerEvents.find?
        (fact.brokerEvent.source, fact.brokerEvent.eventId)).isSome = true ∧
      after.brokerEvents = before.brokerEvents

theorem linkBrokerEvent_ok {event : BrokerEvent} {missionId : String}
    {ordinal : Nat} {before after : Database} {value : Unit}
    (linked :
      exec (linkBrokerEvent event missionId ordinal) before =
        (.ok value, after)) :
    after =
        { before with
          brokerSources := after.brokerSources
          brokerEvents := after.brokerEvents } ∧
      (before.brokerEvents.insert? ⟨event, missionId, ordinal⟩ =
          some after.brokerEvents ∨
        (before.brokerEvents.find? (event.source, event.eventId)).isSome =
            true ∧
          after.brokerEvents = before.brokerEvents) := by
  simp only [linkBrokerEvent, exec_bind_eq_ok, exec_require_eq_ok, exec_read,
    Prod.mk.injEq, Except.ok.injEq] at linked
  rcases linked with ⟨_, _, ⟨_, rfl⟩, _, _, ⟨rfl, rfl⟩, rest⟩
  split at rest
  · rename_i known found
    simp only [exec_bind_eq_ok, exec_require_eq_ok, exec_write,
      Prod.mk.injEq] at rest
    rcases rest with ⟨_, _, ⟨_, rfl⟩, _, rfl⟩
    exact ⟨rfl, .inr ⟨by rw [found]; rfl, rfl⟩⟩
  · split at rest
    · simp at rest
    · simp at rest
    · simp only [exec_bind_eq_ok, exec_demand_eq_ok, exec_write,
        Prod.mk.injEq] at rest
      rcases rest with ⟨next, _, ⟨advanced, rfl⟩, _, rfl⟩
      simp only [advanceAndLink, Option.bind_eq_bind,
        Option.bind_eq_some_iff] at advanced
      rcases advanced with ⟨brokerEvents, inserted, admitted⟩
      split at admitted
      · cases admitted
        exact ⟨rfl, .inl inserted⟩
      · cases admitted

theorem applyLifecycle_ok {fact : RecordingFact} {before after : Database}
    {value : Unit}
    (applied : exec (applyLifecycle fact) before = (.ok value, after)) :
    after = { before with missions := after.missions } ∧
      LifecycleMoved fact before after := by
  unfold applyLifecycle at applied
  unfold LifecycleMoved
  split at applied
  · rename_i target observed
    simp only [applyMissionLifecycle, missionLifecycle, exec_bind_eq_ok,
      exec_rethrow_eq_ok, exec_read, exec_demand_eq_ok, exec_pure,
      Prod.mk.injEq, Except.ok.injEq] at applied
    rcases applied with
      ⟨_, _, ⟨_, _, ⟨rfl, rfl⟩, mission, _, ⟨found, rfl⟩, rfl, rfl⟩, rest⟩
    simp only [observed, exec_ite] at rest ⊢
    split at rest
    · rename_i already
      simp only [exec_pure, Prod.mk.injEq] at rest
      rcases rest with ⟨_, rfl⟩
      exact ⟨rfl, mission, found, .inl ⟨already, rfl⟩⟩
    · simp only [exec_bind_eq_ok, exec_demand_eq_ok,
        exec_rethrow_eq_ok] at rest
      rcases rest with ⟨approved, _, ⟨moves, rfl⟩, moved⟩
      have same := moveTo_eq_some moves
      subst same
      have written := transitionMission_ok moved
      subst written
      exact ⟨rfl, mission, found, .inr ⟨moves, rfl⟩⟩
  · rename_i observed
    simp only [exec_pure, Prod.mk.injEq] at applied
    rcases applied with ⟨_, rfl⟩
    refine ⟨rfl, ?_⟩
    simp only [observed]

/-- Everything that one new recording writes. -/
structure Recorded (host : Host) (fact : RecordingFact) (ordinal : Nat)
    (before after : Database) : Prop where
  lifecycle : LifecycleMoved fact before after
  issued :
    ordinal = (issueOrdinal before.auditSequences fact.audit.missionId).1
  sequences :
    after.auditSequences =
      (issueOrdinal before.auditSequences fact.audit.missionId).2
  audit :
    before.audit.insert? ⟨fact.audit, ordinal⟩ = some after.audit
  linked : EventLinked fact ordinal before after
  inbox :
    ∃ claimed result,
      before.inbox.insert? ⟨fact.inbox, none⟩ = some claimed ∧
        canonicalBytes host (ordinalDocument ordinal) = .ok result ∧
        after.inbox =
          claimed.amend fact.inbox.key
            (fun row =>
              { row with completion := some (result, fact.observedAt) })
            (fun _ => rfl)

/-- A transaction that returns met its own result or recorded its event. -/
theorem persist_ok {host : Host} {fact : RecordingFact}
    {before after : Database} {outcome : CaptureOutcome}
    (persisted :
      exec (persist host fact) before = (.ok outcome, after)) :
    (outcome.decision = .duplicate ∧ after = before ∧
        (before.inbox.find? fact.inbox.key).isSome = true) ∨
      outcome.decision = .recorded ∧
        Recorded host fact outcome.auditOrdinal before after := by
  simp only [persist, exec_bind_eq_ok, exec_rethrow_eq_ok] at persisted
  rcases persisted with ⟨claimed, middle, claiming, rest⟩
  rcases claimInbox_ok claiming with
    ⟨rfl, inbox, inserted, rfl⟩ |
      ⟨row, result, processedAt, rfl, rfl, found, _, _⟩
  · refine .inr ?_
    simp only [recordClaimed, exec_bind_eq_ok, exec_rethrow_eq_ok,
      exec_lift_eq_ok, exec_pure, Prod.mk.injEq, Except.ok.injEq] at rest
    rcases rest with
      ⟨_, sourced, recorded, _, moved, applied, ordinal, appended, appending,
        _, _, linking, result, linked, ⟨encoded, rfl⟩, _, completed,
        completing, rfl, rfl⟩
    obtain ⟨sourceEvents, rfl⟩ : ∃ table,
        sourced = { before with inbox, sourceEvents := table } :=
      ⟨_, recordSourceEvent_ok recorded⟩
    rcases applyLifecycle_ok applied with ⟨missionsOnly, lifecycle⟩
    obtain ⟨missions, rfl⟩ : ∃ table,
        moved =
          { before with inbox, sourceEvents, missions := table } :=
      ⟨_, missionsOnly⟩
    rcases appendAudit_ok.1 appending with
      ⟨issued, audit, auditInserted, rfl⟩
    rcases linkBrokerEvent_ok linking with ⟨linksOnly, linkage⟩
    obtain ⟨brokerSources, brokerEvents, rfl⟩ : ∃ sources events,
        linked =
          { before with
            inbox, sourceEvents, missions, audit
            auditSequences :=
              (issueOrdinal before.auditSequences fact.audit.missionId).2
            brokerSources := sources, brokerEvents := events } :=
      ⟨_, _, linksOnly⟩
    rcases completeInbox_ok completing with ⟨_, _, _, _, rfl⟩
    exact
      ⟨rfl,
        { lifecycle
          issued
          sequences := rfl
          audit := auditInserted
          linked := linkage
          inbox := ⟨inbox, result, inserted, encoded, rfl⟩ }⟩
  · simp only [exec_bind_eq_ok, exec_demand_eq_ok, exec_lift_eq_ok,
      exec_pure, Prod.mk.injEq, Except.ok.injEq] at rest
    rcases rest with ⟨_, _, ⟨_, rfl⟩, _, _, ⟨_, rfl⟩, rfl, rfl⟩
    exact .inl ⟨rfl, rfl, by rw [found]; rfl⟩

/-- The transaction of a capture, with its permanent refusals answered. -/
def recorded (host : Host) (fact : RecordingFact) :
    RecorderStep CaptureOutcome :=
  recover (committing (persist host fact)) fun failure =>
    if isPermanent failure then some (pure ⟨.refused, 0⟩) else none

theorem recorded_database (host : Host) (fact : RecordingFact)
    (world : RecorderWorld) :
    (exec (recorded host fact) world).2.database = world.database ∨
      ∃ outcome,
        exec (persist host fact) world.database =
          (.ok outcome, (exec (recorded host fact) world).2.database) := by
  unfold recorded
  rw [exec_recover]
  rcases outcome : exec (atomically (persist host fact)) world.database with
    ⟨result, after⟩
  have committed :
      exec (committing (persist host fact)) world =
        (result, { world with database := after }) := by
    unfold committing
    show (match exec (atomically (persist host fact)) world.database with
      | (result, database) => (result, { world with database })) = _
    rw [outcome]
  rw [committed]
  cases result with
  | ok value => exact .inr ⟨value, exec_atomically_eq_ok.1 outcome⟩
  | error failure =>
      have same := atomically_rolls_back outcome
      subst same
      refine .inl ?_
      cases permanent : isPermanent failure with
      | true => simp only [permanent, if_true]; rfl
      | false => simp [permanent]

theorem settle_database {guaranteed : Bool} {settlement : Settlement}
    {before after : RecorderWorld} {value : Unit}
    (settled :
      exec (settle guaranteed settlement) before = (.ok value, after)) :
    after.database = before.database := by
  cases guaranteed <;> cases settled <;> rfl

/--
A capture leaves the database as it was, or committed one transaction that
returned.
-/
theorem capture_database (host : Host)
    (notification : ReceivedNotification) (guaranteed : Bool)
    (world : RecorderWorld) :
    (exec (capture host notification guaranteed) world).2.database =
        world.database ∨
      ∃ fact outcome,
        recordingFact host notification = .ok fact ∧
          exec (persist host fact) world.database =
            (.ok outcome,
              (exec (capture host notification guaranteed)
                world).2.database) := by
  rcases captured : exec (capture host notification guaranteed) world with
    ⟨result, after⟩
  change exec (do
    require (isExcluded notification.topic.family = false)
      (RecorderFailure.capture .excludedFamily)
    require
      (decide (deliveryFor notification.topic.family = .guaranteed) =
        guaranteed)
      (RecorderFailure.capture .settlementMismatch)
    let fact ← lift id (recordingFact host notification)
    let outcome ← recorded host fact
    settle guaranteed
      (if outcome.decision = .refused then .rejected else .accepted)
    pure outcome) world = (result, after) at captured
  cases result with
  | ok value =>
      simp only [exec_bind_eq_ok, exec_require_eq_ok, exec_lift_eq_ok,
        exec_pure, Prod.mk.injEq] at captured
      rcases captured with
        ⟨_, _, ⟨_, rfl⟩, _, _, ⟨_, rfl⟩, fact, _, ⟨built, rfl⟩, outcome,
          middle, committing, _, _, settled, _, rfl⟩
      have kept := settle_database settled
      rcases recorded_database host fact _ with same | ⟨first, persisted⟩
      · rw [committing] at same
        exact .inl (kept.trans same)
      · rw [committing] at persisted
        exact .inr ⟨fact, first, built, kept ▸ persisted⟩
  | error failure =>
      simp only [exec_bind_eq_error, exec_require_eq_error,
        exec_require_eq_ok, exec_lift_eq_error, exec_lift_eq_ok, exec_pure,
        Prod.mk.injEq, reduceCtorEq, false_and, and_false, exists_false,
        or_false] at captured
      rcases captured with
        ⟨_, _, rfl⟩ | ⟨_, _, ⟨_, rfl⟩, ⟨_, _, rfl⟩ | ⟨_, _, ⟨_, rfl⟩,
          ⟨_, rfl⟩ | ⟨fact, _, ⟨built, rfl⟩, rest⟩⟩⟩
      · exact .inl rfl
      · exact .inl rfl
      · exact .inl rfl
      · rcases rest with raised | ⟨outcome, middle, committing, settling⟩
        · rcases recorded_database host fact _ with same | ⟨first, persisted⟩
          · rw [raised] at same
            exact .inl same
          · rw [raised] at persisted
            exact .inr ⟨fact, first, built, persisted⟩
        · cases settling

end AerialRescue.Recorder
