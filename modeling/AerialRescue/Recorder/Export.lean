import AerialRescue.Lib.Run
import AerialRescue.Recorder.Capture
import AerialRescue.Recorder.NormalizedRecording
import AerialRescue.Store.Events
import AerialRescue.Store.Runs

/-!
# The recording exporter

The exporter selects one exhausted mission, reads its linked audit rows and
writes them as a normalized recording.  It reads every stored payload as a
normalized dashboard event.  The recorder stores the canonical bytes of the
whole envelope, so no row that a capture wrote is ever one.
-/

namespace AerialRescue.Recorder

open AerialRescue.Contracts
open AerialRescue.Contracts.Canonical
open AerialRescue.Contracts.Envelopes
open AerialRescue.Contracts.Topics
open AerialRescue.Contracts.View
open AerialRescue.Domain.Mission
open AerialRescue.Lib
open AerialRescue.Lib.Guard
open AerialRescue.Lib.Run
open AerialRescue.Lib.Transaction
open AerialRescue.Store

/-! ## The exporter -/

/-- Why a selection cannot become the committed synthetic recording. -/
inductive RecordingExportRefusal where
  | invalidSelection
  | selectionNotFound
  | missionNotExhausted
  | incompleteHistory
  | invalidEvent
  | outputPath
  | outputExists
deriving DecidableEq

/-- What escapes an export. -/
inductive ExportFailure where
  | refused (refusal : RecordingExportRefusal)
  /-- An exception of the recording layer that is not caught. -/
  | recording (failure : RecordingFailure)
deriving DecidableEq

/-- `except RecordingError` with the refusal it becomes. -/
def caught (refusal : RecordingExportRefusal) :
    RecordingFailure → ExportFailure
  | .refused _ => .refused refusal
  | failure => .recording failure

/-- `StoredRecordingSource` -/
structure StoredRecordingSource where
  selected : DashboardRecordingRun
  auditWatermark : Nat
  events : List StoredDashboardEvent

/-- `SqlRecordingStore.load` -/
def loadSource (runs : Table DashboardRun.runIdentity)
    (database : Database) (missionId runId : String) :
    Option StoredRecordingSource := do
  let selected ← recordingRun database.missions runs missionId runId
  let watermark := database.watermark missionId
  pure
    { selected
      auditWatermark := watermark
      events :=
        database.eventPage missionId 0 (some watermark) maxEvents }

/-- `_initial_checkpoint` -/
def initialCheckpoint (host : Host) (source : StoredRecordingSource) :
    Except ExportFailure ReducerCheckpoint := do
  let initial ← recast (caught .invalidSelection)
    (checkpointFromPreparedBytes host source.selected.preparedInitialState)
  let expected :=
    (source.auditWatermark : Int) - initial.state.latestAuditOrdinal
  ensure
    (0 ≤ expected ∧ expected ≤ maxEvents ∧
      expected = source.events.length)
    (ExportFailure.refused .incompleteHistory)
  pure initial

/-- One item of `_ordered_events`. -/
def orderedEvent (host : Host) (stored : StoredDashboardEvent) :
    Except ExportFailure OrderedDashboardEvent := do
  let candidate ← recast (caught .invalidEvent)
    (orderedEventFromPayload host stored.auditOrdinal stored.payload)
  ensure (candidate.event.kind = stored.kind)
    (ExportFailure.refused .invalidEvent)
  pure candidate

/-- `_complete_recording` -/
def completeRecording (host : Host) (source : StoredRecordingSource)
    (missionId : String) (initial : ReducerCheckpoint)
    (ordered : List OrderedDashboardEvent) : Except ExportFailure Bytes := do
  let raw ← recast (caught .invalidEvent)
    (exportNormalizedRecording host source.selected.scenarioId
      source.selected.scenarioRevision initial ordered)
  let validated ← recast (caught .invalidEvent) (validateRecording host raw)
  ensure
    (∃ mission ∈ validated.2.state.currentMission,
      mission.identifier = missionId ∧ mission.lifecycle = .exhausted)
    (ExportFailure.refused .incompleteHistory)
  pure raw

/-- The directory an export publishes into, and what it already holds. -/
structure OutputDirectory where
  isDirectory : Bool
  recording : Option Bytes
deriving DecidableEq

/-- `_publish_recording` over `write_normalized_recording` -/
def publishRecording (host : Host) (raw : Bytes)
    (output : OutputDirectory) : Except ExportFailure OutputDirectory := do
  let _ ← recast ExportFailure.recording (validateRecording host raw)
  ensure (output.isDirectory = true) (ExportFailure.refused .outputPath)
  ensure (output.recording = none) (ExportFailure.refused .outputExists)
  pure { output with recording := some raw }

/-- `export_selected_recording` -/
def exportSelectedRecording (host : Host)
    (runs : Table DashboardRun.runIdentity) (database : Database)
    (missionId runId : String) (output : OutputDirectory) :
    Except ExportFailure OutputDirectory := do
  ensure (isIdentifier missionId = true ∧ isIdentifier runId = true)
    (ExportFailure.refused .invalidSelection)
  let source ← present (loadSource runs database missionId runId)
    (.refused .selectionNotFound)
  ensure
    (source.selected.missionId = missionId ∧
      source.selected.runId = runId ∧
      source.selected.scenarioId = "wilderness-missing-person" ∧
      source.selected.scenarioRevision = 1)
    (ExportFailure.refused .invalidSelection)
  ensure (source.selected.lifecycle = .exhausted)
    (ExportFailure.refused .missionNotExhausted)
  let initial ← initialCheckpoint host source
  let ordered ← source.events.mapM (orderedEvent host)
  let raw ← completeRecording host source missionId initial ordered
  publishRecording host raw output

/-! ## What the exporter refuses -/

theorem mapping_eq_ok {value : Value} {members : List String}
    {refusal : RecordingRefusal} {document : Value.Members} :
    mapping value members refusal = .ok document ↔
      value = .object document ∧ Value.keysAre document members = true := by
  unfold mapping refuse
  constructor
  · intro read
    split at read
    · split_ifs at read with closed
      cases read
      exact ⟨rfl, closed⟩
    · cases read
  · rintro ⟨rfl, closed⟩
    simp [closed]

theorem decodeLine_ok {host : Host} {line : Bytes} {document : Value}
    (decoded : decodeLine host line = .ok document) :
    canonicalBytes host document = .ok line := by
  unfold decodeLine refuse at decoded
  split at decoded
  · cases decoded
  · cases decoded
  · split at decoded
    · cases decoded
    · rename_i bytes encoded
      split_ifs at decoded with other deep
      cases decoded
      rw [encoded, not_not.1 other]

/-- An event that is read is an object with the five normalized members. -/
theorem orderedEventFromPayload_ok {host : Host} {auditOrdinal : Nat}
    {raw : Bytes} {ordered : OrderedDashboardEvent}
    (read : orderedEventFromPayload host auditOrdinal raw = .ok ordered) :
    ∃ members,
      canonicalBytes host (.object members) = .ok raw ∧
        Value.keysAre members
          ["kind", "eventClass", "mission", "time", "data"] = true := by
  simp only [orderedEventFromPayload, event, bind_eq_ok, ensure_eq_ok,
    mapping_eq_ok] at read
  rcases read with
    ⟨_, _, document, decoded, _, ⟨outer, _⟩, members, ⟨inner, closed⟩, _⟩
  cases outer
  have same : document = .object members := inner
  rw [same] at decoded
  exact ⟨members, decodeLine_ok decoded, closed⟩

/-- The first octets of an object whose least key is an ASCII text. -/
theorem canonicalBytes_opening {host : Host} (ascii : host.KeepsAscii)
    {members : Value.Members} {raw : Bytes} {key : String}
    (encoded : canonicalBytes host (.object members) = .ok raw)
    (held : key ∈ Value.keys members)
    (least : ∀ other ∈ Value.keys members, key ≤ other)
    (plain : ∀ character ∈ key.toList, character.toNat < 128) :
    ∃ tail,
      raw = utf8 (['{', '"'] ++ key.toList.flatMap escape ++ tail) := by
  rcases canonicalBytes_leastKey encoded held least with
    ⟨name, tail, named, rfl⟩
  unfold encodeString at named
  dsimp only at named
  split_ifs at named
  cases named
  rw [ascii key plain]
  exact ⟨['"'] ++ tail, by simp⟩

/-- The least member of an envelope's document. -/
def leastEnvelopeKey (envelope : Envelope) : String :=
  if envelope.causationId.isSome then "causationid" else "correlationid"

theorem leastEnvelopeKey_least (envelope : Envelope) :
    leastEnvelopeKey envelope ∈ Value.keys (envelopeDocument envelope) ∧
      ∀ other ∈ Value.keys (envelopeDocument envelope),
        leastEnvelopeKey envelope ≤ other := by
  have keys :
      Value.keys (envelopeDocument envelope) =
        ["specversion", "id", "source", "type", "subject", "time",
            "datacontenttype", "dataschema", "data", "sequence",
            "correlationid", "traceparent"] ++
          (if envelope.causationId.isSome then ["causationid"] else []) ++
          (if envelope.tracestate.isSome then ["tracestate"] else []) := by
    unfold envelopeDocument Value.keys
    cases envelope.causationId <;> cases envelope.tracestate <;> rfl
  rw [keys]
  unfold leastEnvelopeKey
  generalize envelope.causationId.isSome = caused
  generalize envelope.tracestate.isSome = traced
  revert caused traced
  decide

/-- The canonical bytes of an envelope are no normalized event. -/
theorem envelope_notEvent {host : Host} (ascii : host.KeepsAscii)
    {envelope : Envelope} {raw : Bytes} {auditOrdinal : Nat}
    {ordered : OrderedDashboardEvent}
    (encoded :
      canonicalBytes host (.object (envelopeDocument envelope)) = .ok raw) :
    orderedEventFromPayload host auditOrdinal raw ≠ .ok ordered := by
  intro read
  rcases orderedEventFromPayload_ok read with ⟨members, again, closed⟩
  simp only [Value.keysAre, Bool.and_eq_true, List.all_eq_true,
    List.contains_iff_mem] at closed
  rcases leastEnvelopeKey_least envelope with ⟨held, least⟩
  have causation : ∀ character ∈ (leastEnvelopeKey envelope).toList,
      character.toNat < 128 := by
    apply ascii_of_all
    unfold leastEnvelopeKey
    split <;> decide
  rcases canonicalBytes_opening ascii encoded held least causation with
    ⟨left, leftBytes⟩
  have dataLeast : ∀ other ∈ Value.keys members, "data" ≤ other := by
    intro other member
    have listed :
        ∀ name ∈ ["kind", "eventClass", "mission", "time", "data"],
          "data" ≤ name := by
      decide
    exact listed other (closed.1 other member)
  rcases canonicalBytes_opening ascii again (closed.2 "data" (by decide))
    dataLeast (ascii_of_all (by decide)) with ⟨right, rightBytes⟩
  have third : raw[2]? = some 99 := by
    rw [leftBytes]
    unfold leastEnvelopeKey
    split <;> rfl
  have otherwise : raw[2]? = some 100 := by
    rw [rightBytes]
    rfl
  rw [otherwise] at third
  exact absurd third (by decide)

/-! ## What captures leave behind -/

/-- One notification, with or without a settlement, is captured. -/
def captureStep (host : Host) (world : RecorderWorld)
    (input : ReceivedNotification × Bool) : RecorderWorld :=
  (exec (capture host input.1 input.2) world).2

/-- Every linked event has its row in the recorder's inbox. -/
def LinksClaimed (database : Database) : Prop :=
  ∀ row ∈ database.brokerEvents.rows,
    (database.inbox.find?
      (consumer, row.event.source, row.event.eventId)).isSome = true

/-- A mission as it is prepared: planned, and nothing recorded yet. -/
structure Prepared (database : Database) (missionId : String) : Prop where
  planned :
    ∃ mission,
      database.missions.find? missionId = some mission ∧
        mission.lifecycle = .planned
  unrecorded :
    ∀ row ∈ database.audit.rows, row.record.missionId ≠ missionId
  claimed : LinksClaimed database

/--
What every capture keeps: the mission's payloads are envelopes, and a mission
that has moved has a linked row.
-/
structure EnvelopesOnly (host : Host) (missionId : String)
    (database : Database) : Prop where
  payloads :
    ∀ row ∈ database.audit.rows, row.record.missionId = missionId →
      ∃ envelope,
        canonicalBytes host (.object (envelopeDocument envelope)) =
          .ok row.record.payload
  claimed : LinksClaimed database
  moved :
    (∃ mission,
        database.missions.find? missionId = some mission ∧
          mission.lifecycle = .planned) ∨
      ∃ row ∈ database.linkedRows missionId, 0 < row.ordinal

theorem Prepared.envelopesOnly {host : Host} {missionId : String}
    {database : Database} (prepared : Prepared database missionId) :
    EnvelopesOnly host missionId database where
  payloads := by
    intro row member same
    exact absurd same (prepared.unrecorded row member)
  claimed := prepared.claimed
  moved := .inl prepared.planned

/-- What a fact says of its notification. -/
theorem recordingFact_ok {host : Host}
    {notification : ReceivedNotification} {fact : RecordingFact}
    (built : recordingFact host notification = .ok fact) :
    canonicalBytes host (.object (envelopeDocument notification.envelope)) =
        .ok fact.audit.payload ∧
      fact.inbox.key =
        (consumer, fact.brokerEvent.source, fact.brokerEvent.eventId) := by
  simp only [recordingFact, bind_eq_ok, recast_eq_ok, pure_eq_ok] at built
  rcases built with
    ⟨_, _, canonicalEvent, encoded, _, _, _, _, _, _, rfl⟩
  exact ⟨encoded, rfl⟩

theorem issueOrdinal_pos (sequences : Table AuditSequence.missionId)
    (missionId : String) : 0 < (issueOrdinal sequences missionId).1 := by
  unfold issueOrdinal
  split
  · exact Nat.one_pos
  · cases sequences.find? missionId with
    | none => exact Nat.one_pos
    | some row => exact Nat.succ_pos _

/-- A new recording has a new link. -/
theorem Recorded.linked_fresh {host : Host} {fact : RecordingFact}
    {ordinal : Nat} {before after : Database}
    (recorded : Recorded host fact ordinal before after)
    (claimed : LinksClaimed before)
    (names :
      fact.inbox.key =
        (consumer, fact.brokerEvent.source, fact.brokerEvent.eventId)) :
    before.brokerEvents.insert?
        ⟨fact.brokerEvent, fact.audit.missionId, ordinal⟩ =
      some after.brokerEvents := by
  rcases recorded.linked with inserted | ⟨known, _⟩
  · exact inserted
  · rcases Option.isSome_iff_exists.1 known with ⟨row, found⟩
    rcases recorded.inbox with ⟨_, _, free, _, _⟩
    have held := claimed row (Table.find?_mem found)
    have key : row.key =
        (fact.brokerEvent.source, fact.brokerEvent.eventId) :=
      Table.find?_key found
    simp only [LinkedBrokerEvent.key, Prod.mk.injEq] at key
    have absent := (Table.insert?_eq_some.1 free).1
    rw [key.1, key.2, ← names] at held
    rw [show before.inbox.find? fact.inbox.key = none from absent] at held
    cases held

/-- The inbox of a recording finds what it found, and its own row. -/
theorem Recorded.inbox_find {host : Host} {fact : RecordingFact}
    {ordinal : Nat} {before after : Database}
    (recorded : Recorded host fact ordinal before after)
    (key : String × String × String)
    (held :
      key = fact.inbox.key ∨ (before.inbox.find? key).isSome = true) :
    (after.inbox.find? key).isSome = true := by
  rcases recorded.inbox with ⟨claimed, result, inserted, _, same⟩
  rw [same]
  refine
    (Table.isSome_find?_amend claimed fact.inbox.key
      (fun row => { row with completion := some (result, fact.observedAt) })
      (fun _ => rfl) key).trans ?_
  rcases held with rfl | earlier
  · rw [show fact.inbox.key = InboxRow.key ⟨fact.inbox, none⟩ from rfl,
      Table.find?_insert?_self inserted]
    rfl
  · rcases Option.isSome_iff_exists.1 earlier with ⟨row, found⟩
    rw [Table.find?_insert?_of_some inserted found]
    rfl

/-- Linked rows stay linked. -/
theorem Recorded.linkedRows_grow {host : Host} {fact : RecordingFact}
    {ordinal : Nat} {before after : Database} {missionId : String}
    (recorded : Recorded host fact ordinal before after)
    {row : StoredAuditRecord} (member : row ∈ before.linkedRows missionId) :
    row ∈ after.linkedRows missionId := by
  rw [mem_linkedRows] at member ⊢
  rcases member with ⟨stored, mission, event, linked, names⟩
  refine ⟨?_, mission, event, ?_, names⟩
  · rw [Table.insert?_rows recorded.audit]
    exact List.mem_append_left _ stored
  · rcases recorded.linked with inserted | ⟨_, same⟩
    · rw [Table.insert?_rows inserted]
      exact List.mem_append_left _ linked
    · rw [same]
      exact linked

/-- The row of a recording is linked. -/
theorem Recorded.row_linked {host : Host} {fact : RecordingFact}
    {ordinal : Nat} {before after : Database} {missionId : String}
    (recorded : Recorded host fact ordinal before after)
    (inserted :
      before.brokerEvents.insert?
          ⟨fact.brokerEvent, fact.audit.missionId, ordinal⟩ =
        some after.brokerEvents)
    (own : fact.audit.missionId = missionId) :
    (⟨fact.audit, ordinal⟩ : StoredAuditRecord) ∈
      after.linkedRows missionId := by
  rw [mem_linkedRows]
  refine ⟨?_, own, ⟨fact.brokerEvent, fact.audit.missionId, ordinal⟩, ?_,
    own, rfl⟩
  · rw [Table.insert?_rows recorded.audit]
    exact List.mem_append_right _ (List.mem_singleton.2 rfl)
  · rw [Table.insert?_rows inserted]
    exact List.mem_append_right _ (List.mem_singleton.2 rfl)

/-- One new recording keeps the invariant. -/
theorem Recorded.keeps {host : Host} {fact : RecordingFact}
    {ordinal : Nat} {before after : Database} {missionId : String}
    {notification : ReceivedNotification}
    (recorded : Recorded host fact ordinal before after)
    (built : recordingFact host notification = .ok fact)
    (kept : EnvelopesOnly host missionId before) :
    EnvelopesOnly host missionId after := by
  rcases recordingFact_ok built with ⟨payload, names⟩
  have inserted := recorded.linked_fresh kept.claimed names
  refine ⟨?_, ?_, ?_⟩
  · intro row member same
    rw [Table.insert?_rows recorded.audit] at member
    rcases List.mem_append.1 member with earlier | new
    · exact kept.payloads row earlier same
    · rw [List.mem_singleton.1 new]
      exact ⟨notification.envelope, payload⟩
  · intro row member
    rw [Table.insert?_rows inserted] at member
    rcases List.mem_append.1 member with earlier | new
    · exact recorded.inbox_find _ (.inr (kept.claimed row earlier))
    · rw [List.mem_singleton.1 new]
      exact recorded.inbox_find _ (.inl names.symm)
  · rcases kept.moved with ⟨mission, found, planned⟩ | ⟨row, linked, positive⟩
    · have lifecycle := recorded.lifecycle
      unfold LifecycleMoved at lifecycle
      split at lifecycle
      · exact .inl ⟨mission, lifecycle ▸ found, planned⟩
      · rcases lifecycle with ⟨_, _, ⟨_, same⟩ | ⟨_, moved⟩⟩
        · exact .inl ⟨mission, same ▸ found, planned⟩
        · by_cases own : fact.audit.missionId = missionId
          · refine .inr ⟨⟨fact.audit, ordinal⟩, ?_, ?_⟩
            · exact recorded.row_linked inserted own
            · rw [recorded.issued]
              exact issueOrdinal_pos _ _
          · refine .inl ⟨mission, ?_, planned⟩
            rw [moved, moveMission_find?_of_ne fun same => own same.symm]
            exact found
    · exact .inr ⟨row, recorded.linkedRows_grow linked, positive⟩

theorem captureStep_keeps {host : Host} {missionId : String}
    (world : RecorderWorld) (input : ReceivedNotification × Bool)
    (kept : EnvelopesOnly host missionId world.database) :
    EnvelopesOnly host missionId (captureStep host world input).database := by
  rcases capture_database host input.1 input.2 world with
    same | ⟨fact, outcome, built, persisted⟩
  · rw [captureStep, same]
    exact kept
  · rcases persist_ok persisted with ⟨_, same, _⟩ | ⟨_, recorded⟩
    · rw [captureStep, same]
      exact kept
    · exact recorded.keeps built kept

/-- An export that returns read every linked row as a normalized event. -/
theorem exportSelectedRecording_ok {host : Host}
    {runs : Table DashboardRun.runIdentity} {database : Database}
    {missionId runId : String} {output directory : OutputDirectory}
    (exported :
      exportSelectedRecording host runs database missionId runId output =
        .ok directory) :
    (∃ mission,
        database.missions.find? missionId = some mission ∧
          mission.lifecycle = .exhausted) ∧
      ∀ stored ∈
          database.eventPage missionId 0
            (some (database.watermark missionId)) maxEvents,
        ∃ ordered, orderedEvent host stored = .ok ordered := by
  simp only [exportSelectedRecording, bind_eq_ok, ensure_eq_ok,
    present_eq_ok] at exported
  rcases exported with
    ⟨_, _, source, loaded, _, _, _, exhausted, initial, _, ordered, read, _⟩
  simp only [loadSource, Option.bind_eq_bind, Option.bind_eq_some_iff,
    Option.pure_def, Option.some.injEq] at loaded
  rcases loaded with ⟨selected, found, rfl⟩
  rcases recordingRun_eq_some found with ⟨mission, held, _, _, lifecycle⟩
  refine ⟨⟨mission, held, lifecycle ▸ exhausted⟩, ?_⟩
  intro stored member
  exact mapM_ok_of_mem read member

/--
Whatever a recorder captured for a mission it found planned, the exporter
never returns a recording of that mission.
-/
theorem capturedMission_neverExported (host : Host)
    (ascii : host.KeepsAscii) (start : RecorderWorld) (missionId : String)
    (prepared : Prepared start.database missionId)
    (inputs : List (ReceivedNotification × Bool))
    (runs : Table DashboardRun.runIdentity) (runId : String)
    (output directory : OutputDirectory) :
    exportSelectedRecording host runs
        (run (captureStep host) start inputs).database missionId runId
        output ≠
      .ok directory := by
  intro exported
  have kept :
      EnvelopesOnly host missionId
        (run (captureStep host) start inputs).database := by
    have keeps :
        ∀ world input, EnvelopesOnly host missionId world.database →
          EnvelopesOnly host missionId
            (captureStep host world input).database :=
      captureStep_keeps
    exact run_keeps_always keeps inputs prepared.envelopesOnly
  rcases exportSelectedRecording_ok exported with
    ⟨⟨mission, found, exhausted⟩, readable⟩
  rcases kept.moved with ⟨other, same, planned⟩ | ⟨row, linked, positive⟩
  · rw [found] at same
    cases same
    rw [exhausted] at planned
    cases planned
  · rcases List.exists_mem_of_ne_nil _
      (eventPage_ne_nil linked positive (by decide : 0 < maxEvents)) with
      ⟨stored, member⟩
    rcases mem_eventPage member with ⟨held, among, rfl⟩
    rw [mem_linkedRows] at among
    rcases kept.payloads held among.1 among.2.1 with ⟨envelope, encoded⟩
    rcases readable _ member with ⟨ordered, read⟩
    simp only [orderedEvent, bind_eq_ok, recast_eq_ok] at read
    rcases read with ⟨candidate, parsed, _⟩
    exact envelope_notEvent ascii encoded parsed

/-! ## A recorded run -/

/-- A lifecycle event of the sample mission. -/
def lifecycleEnvelope (id sequence lifecycle : String) : Envelope where
  id := id
  source := "urn:aerial-rescue:mission-lifecycle:dashboard-1"
  type := missionLifecycleType
  subject := "mission-1"
  time := "2026-01-01T00:00:10.000Z"
  dataschema := schemaBase ++ "mission-event-lifecycle" ++ ".schema.json"
  sequence := sequence
  correlationId := "correlation-1"
  traceparent := "00-0123456789abcdef0123456789abcdef-0123456789abcdef-01"
  data :=
    [("missionId", .text "mission-1"), ("lifecycle", .text lifecycle)]
  causationId := none
  tracestate := none

/-- A lifecycle event as the recorder receives it. -/
def lifecycleInput (envelope : Envelope) : ReceivedNotification × Bool :=
  ({ topic :=
      { family := .missionEvent
        missionId := "mission-1"
        parameters := [("eventType", "lifecycle")] }
     envelope
     observedAt := "2026-01-01T00:00:11.000Z" },
    true)

/-- The mission starts its search. -/
def searchingEnvelope : Envelope :=
  lifecycleEnvelope "event-1" "000000000000000" "SEARCHING"

/-- The mission exhausts its search. -/
def exhaustedEnvelope : Envelope :=
  lifecycleEnvelope "event-02" "000000000000001" "EXHAUSTED"

/-- The state the sample run was prepared with. -/
def preparedState : DashboardReducedState where
  currentMission := some ⟨"mission-1", .planned, none⟩
  fleet := []
  latestAuditOrdinal := 0
  sectors := []

/-- `json.loads` on the texts that the exporter reads, by their length. -/
def recordedLoads (text : Bytes) : Except LoadsFailure Value :=
  match text.length with
  | 188 => .ok (.object (stateDocument preparedState))
  | 528 => .ok (.object (envelopeDocument searchingEnvelope))
  | 529 => .ok (.object (envelopeDocument exhaustedEnvelope))
  | _ => .error .malformed

/-- SHA-256 on the texts that the recorder digests, by their length. -/
def recordedSha256 (text : Bytes) : String :=
  match text.length with
  | 528 =>
      "0201043d833e5531c8d8cece5eafb5d23d7977a2e5d9cc7d18dc0218f850d02a"
  | 529 =>
      "be62e9c1f04be890cf3f16653ee4de225d487aec0084bad0e8c4c4819e59ef1d"
  | 606 =>
      "f78febcd5e0f7ae5d1e2342f75bee1b6516ee7bb6cbd0ffe6610c350680bddcf"
  | _ =>
      "029c9850b891427558ebfc670db7434ae4d26b6c7a0bf2cea9391299b7c8bbe4"

/-- The runtime of the sample run. -/
def recordedHost : Host := ⟨recordedLoads, id, recordedSha256⟩

/-- The sample mission, planned. -/
def plannedMission : DashboardMission where
  missionId := "mission-1"
  scenarioId := "wilderness-missing-person"
  scenarioRevision := 1
  lifecycle := .planned
  predecessorMissionId := none

/-- The database in which the mission is prepared. -/
def preparedDatabase : Database :=
  { Database.empty with missions := ⟨[plannedMission], by decide⟩ }

/-- The live run of the sample mission. -/
def recordedRuns : Table DashboardRun.runIdentity :=
  ⟨[{ name := .live "mission-1" "run-1"
      scenarioId := "wilderness-missing-person"
      scenarioRevision := 1
      preparedInitialState := bytesOf (.object (stateDocument preparedState)) }],
    List.nodup_singleton _⟩

/-- Two lifecycle events. -/
def recordedInputs : List (ReceivedNotification × Bool) :=
  [lifecycleInput searchingEnvelope, lifecycleInput exhaustedEnvelope]

/-- Both events are recorded, and their payloads are refused. -/
theorem exhaustedMission_refused :
    let database :=
      (run (captureStep recordedHost) ⟨preparedDatabase, []⟩
        recordedInputs).database
    (database.missions.find? "mission-1").map DashboardMission.lifecycle =
        some .exhausted ∧
      exportSelectedRecording recordedHost recordedRuns database "mission-1"
          "run-1" ⟨true, none⟩ =
        .error (.refused .invalidEvent) := by
  decide +kernel

theorem preparedDatabase_prepared :
    Prepared preparedDatabase "mission-1" where
  planned := ⟨plannedMission, rfl, rfl⟩
  unrecorded := by
    intro row member
    cases member
  claimed := by
    intro row member
    cases member

/-- The sample run is never exported. -/
theorem capturedMission_neverExported_sample :
    ¬∃ directory,
      exportSelectedRecording recordedHost recordedRuns
          (run (captureStep recordedHost) ⟨preparedDatabase, []⟩
            recordedInputs).database "mission-1" "run-1" ⟨true, none⟩ =
        .ok directory := by
  rintro ⟨directory, exported⟩
  exact
    capturedMission_neverExported recordedHost (fun _ _ => rfl)
      ⟨preparedDatabase, []⟩ "mission-1" preparedDatabase_prepared
      recordedInputs recordedRuns "run-1" ⟨true, none⟩ directory exported

end AerialRescue.Recorder
