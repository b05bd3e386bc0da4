import AerialRescue.Contracts.View
import Mathlib.Data.List.SplitOn

/-!
# Normalized recordings

The line-framed text of one recorded mission: a header with the initial state,
the expected final digest and a checksum, and one record for each ordered
event.  The exporter folds the events and writes the text; the validator
reads a text that it does not trust, folds what it says and compares.
-/

namespace AerialRescue.Recorder

open AerialRescue.Contracts
open AerialRescue.Contracts.Canonical
open AerialRescue.Contracts.Digest
open AerialRescue.Contracts.Rpc
open AerialRescue.Contracts.Topics
open AerialRescue.Contracts.View
open AerialRescue.Lib.Guard

/-! ## Bounds and refusals -/

/-- `MAX_RECORDING_BYTES` -/
def maxRecordingBytes : Nat := 1048576

/-- `MAX_LINE_BYTES` -/
def maxLineBytes : Nat := 65536

/-- `MAX_EVENTS` -/
def maxEvents : Nat := 512

/-- `MAX_DOCUMENT_DEPTH` -/
def maxDocumentDepth : Nat := 16

/-- Why normalized recording input cannot become a replay bundle. -/
inductive RecordingRefusal where
  | size
  | finalNewline
  | lineEnding
  | blankLine
  | lineSize
  | eventCount
  | canonical
  | depth
  | header
  | record
  | checksum
  | anchor
  | orderedEvent
  | finalDigest
deriving DecidableEq

/-- What escapes the functions of this module. -/
inductive RecordingFailure where
  /-- `RecordingError` -/
  | refused (refusal : RecordingRefusal)
  | digest (failure : DigestFailure)
  /-- A `CanonicalizationError` where none is caught. -/
  | canonicalization (refusal : Refusal)
  /-- The plain `ValueError` of an overlong numeral. -/
  | value
deriving DecidableEq

/-- A step that may refuse a recording. -/
abbrev Checked (α : Type) := Except RecordingFailure α

/-- `_refuse` -/
def refuse {α : Type} (refusal : RecordingRefusal) : Checked α :=
  .error (.refused refusal)

/-! ## Members -/

/-- `_mapping`: an object with exactly the given members. -/
def mapping (value : Value) (members : List String)
    (refusal : RecordingRefusal) : Checked Value.Members :=
  match value with
  | .object document =>
      if Value.keysAre document members then .ok document
      else refuse refusal
  | _ => refuse refusal

/-- `_sequence` -/
def sequence (value : Value) (maximum : Nat) (refusal : RecordingRefusal) :
    Checked (List Value) :=
  match value with
  | .array items =>
      if maximum < items.length then refuse refusal else .ok items
  | _ => refuse refusal

/-- `_identifier` -/
def identifier (value : Value) (refusal : RecordingRefusal) :
    Checked String :=
  match value with
  | .text text => if isIdentifier text then .ok text else refuse refusal
  | _ => refuse refusal

/-- `_digest` -/
def lowercaseDigest (value : Value) (refusal : RecordingRefusal) :
    Checked String :=
  match value with
  | .text text => if isDigest text then .ok text else refuse refusal
  | _ => refuse refusal

/-- `_integer` -/
def integer (value : Value) (minimum maximum : Int)
    (refusal : RecordingRefusal) : Checked Int :=
  match value with
  | .int number =>
      if minimum ≤ number ∧ number ≤ maximum then .ok number
      else refuse refusal
  | _ => refuse refusal

/-- `_enum_member` -/
def vocabularyMember {γ : Type} (vocabulary : List γ) (text : γ → String)
    (value : Value) (refusal : RecordingRefusal) : Checked γ :=
  present (spelled vocabulary text value) (.refused refusal)

/-- An identifier, or `None`. -/
def optionalIdentifier (value : Value) (refusal : RecordingRefusal) :
    Checked (Option String) :=
  match value with
  | .null => .ok none
  | present => (identifier present refusal).map some

/-! ## States -/

/-- `_telemetry` -/
def telemetry (value : Value) : Checked (Option Telemetry) :=
  match value with
  | .null => .ok none
  | reading => do
      let document ← mapping reading
        ["latitudeMicrodegrees", "longitudeMicrodegrees", "batteryPercent",
          "altitudeMetres", "headingDegrees",
          "groundSpeedCentimetresPerSecond"]
        .header
      let latitudeMicrodegrees ← integer
        (Value.get "latitudeMicrodegrees" document) (-90000000) 90000000
        .header
      let longitudeMicrodegrees ← integer
        (Value.get "longitudeMicrodegrees" document) (-180000000) 180000000
        .header
      let batteryPercent ← integer (Value.get "batteryPercent" document)
        0 100 .header
      let altitudeMetres ← integer (Value.get "altitudeMetres" document)
        (-500) 20000 .header
      let headingDegrees ← integer (Value.get "headingDegrees" document)
        0 359 .header
      let groundSpeedCentimetresPerSecond ← integer
        (Value.get "groundSpeedCentimetresPerSecond" document) 0 10000
        .header
      pure
        (some
          { latitudeMicrodegrees, longitudeMicrodegrees, batteryPercent,
            altitudeMetres, headingDegrees,
            groundSpeedCentimetresPerSecond })

/-- The rest of `_fleet_member`, for a member that is not declared only. -/
def simulatedMember (value : Value) : Checked FleetMember := do
  let document ← mapping value
    ["identifier", "participation", "connectivity", "telemetry"] .header
  ensure
    (Value.pyEq (Value.get "participation" document) (.text "SIMULATED") =
      true)
    (RecordingFailure.refused .header)
  let name ← identifier (Value.get "identifier" document) .header
  let link ← vocabularyMember connectivities Connectivity.text
    (Value.get "connectivity" document) .header
  let reading ← telemetry (Value.get "telemetry" document)
  pure (.simulated ⟨name, link, reading⟩)

/-- `_fleet_member` -/
def fleetMember (value : Value) : Checked FleetMember :=
  match value with
  | .object candidate =>
      if Value.pyEq (Value.get "participation" candidate)
          (.text "DECLARED_ONLY") then do
        let document ← mapping value ["identifier", "participation"] .header
        let name ← identifier (Value.get "identifier" document) .header
        pure (.declaredOnly name)
      else simulatedMember value
  | _ => refuse .header

/-- `_sector` -/
def sector (value : Value) : Checked Sector := do
  let document ← mapping value
    ["identifier", "state", "assignedMemberId"] .header
  let assignee ← optionalIdentifier
    (Value.get "assignedMemberId" document) .header
  let name ← identifier (Value.get "identifier" document) .header
  let state ← vocabularyMember sectorStates SectorState.text
    (Value.get "state" document) .header
  pure ⟨name, state, assignee⟩

/-- The mission of `_state`. -/
def currentMission (value : Value) : Checked (Option Mission) :=
  match value with
  | .null => .ok none
  | mission => do
      let document ← mapping mission
        ["identifier", "lifecycle", "predecessorIdentifier"] .header
      let predecessor ← optionalIdentifier
        (Value.get "predecessorIdentifier" document) .header
      let name ← identifier (Value.get "identifier" document) .header
      let lifecycle ← vocabularyMember missionLifecycles
        MissionLifecycle.text (Value.get "lifecycle" document) .header
      pure (some ⟨name, lifecycle, predecessor⟩)

/-- Largest fleet of a recorded state. -/
def maxFleet : Nat := 23

/-- Largest number of sectors of a recorded state. -/
def maxSectors : Nat := 20

/-- `_state` -/
def state (value : Value) : Checked DashboardReducedState := do
  let document ← mapping value
    ["canonicalizationVersion", "stateVersion", "currentMission", "fleet",
      "latestAuditOrdinal", "sectors"]
    .header
  ensure
    (Value.pyEq (Value.get "canonicalizationVersion" document) (.int 1) =
        true ∧
      Value.pyEq (Value.get "stateVersion" document) (.int 1) = true)
    (RecordingFailure.refused .header)
  let mission ← currentMission (Value.get "currentMission" document)
  let members ← sequence (Value.get "fleet" document) maxFleet .header
  let fleet ← members.mapM fleetMember
  let items ← sequence (Value.get "sectors" document) maxSectors .header
  let sectors ← items.mapM sector
  let latestAuditOrdinal ← integer (Value.get "latestAuditOrdinal" document)
    0 maxSafeInteger .header
  pure ⟨mission, fleet, latestAuditOrdinal, sectors⟩

/-! ## Events -/

/-- `EventClass`, in the order of its names. -/
def eventClasses : List EventClass :=
  [.telemetry, .connectivity, .mission, .command, .evidence, .approval,
    .audit]

/-- `_event` -/
def event (value : Value) : Checked OrderedDashboardEvent := do
  let ordered ← mapping value ["auditOrdinal", "event"] .record
  let members ← mapping (Value.get "event" ordered)
    ["kind", "eventClass", "mission", "time", "data"] .record
  let eventClass ← vocabularyMember eventClasses EventClass.text
    (Value.get "eventClass" members) .record
  match Value.get "kind" members, Value.get "time" members,
      Value.get "data" members with
  | .text kind, .text time, .object data => do
      let auditOrdinal ← integer (Value.get "auditOrdinal" ordered)
        1 maxSafeInteger .record
      let mission ← identifier (Value.get "mission" members) .record
      pure ⟨auditOrdinal, ⟨kind, eventClass, mission, time, data⟩⟩
  | _, _, _ => refuse .record

/-- `_event_document` -/
def orderedDocument (ordered : OrderedDashboardEvent) : Value :=
  .object
    [ ("auditOrdinal", .int ordered.auditOrdinal),
      ("event", eventDocument ordered.event) ]

/-- `_record_documents` -/
def recordDocument (ordered : OrderedDashboardEvent) : Value.Members :=
  [ ("recordVersion", .text "dashboard-record/v1"),
    ("orderedEvent", orderedDocument ordered) ]

/-! ## Checksum and fold -/

/-- One canonical document with its line feed. -/
def canonicalLine (host : Host) (document : Value) : Checked Bytes := do
  let bytes ← recast RecordingFailure.canonicalization
    (canonicalBytes host document)
  pure (bytes ++ [10])

/-- `b"".join` over the lines of documents. -/
def canonicalLines (host : Host) (documents : List Value) :
    Checked Bytes := do
  let lines ← documents.mapM (canonicalLine host)
  pure lines.flatten

/-- `_checksum`: over the header without its checksum and every record. -/
def recordingChecksum (host : Host) (header : Value.Members)
    (records : List Value.Members) : Checked String := do
  let material ← canonicalLines host
    (.object header :: records.map Value.object)
  pure (host.sha256 material)

/-- `_fold` -/
def foldRecording (host : Host) (checkpoint : ReducerCheckpoint) :
    List OrderedDashboardEvent → Checked ReducerCheckpoint
  | [] => .ok checkpoint
  | ordered :: rest => do
      let outcome ← recast RecordingFailure.digest
        (foldOrderedEvent host checkpoint ordered none)
      match outcome with
      | .applied next => foldRecording host next rest
      | _ => refuse .orderedEvent

/-- `checkpoint_from_replay`, refused as an anchor. -/
def replayAnchor (host : Host) (state : DashboardReducedState)
    (latestEventDigest : Option String) : Checked ReducerCheckpoint := do
  let anchored ← recast RecordingFailure.digest
    (checkpointFromAnchor host state latestEventDigest none)
  recast (fun _ => .refused .anchor) anchored

/-! ## Export -/

/-- `bytes.splitlines`: at every line feed, carriage return, or both. -/
def splitLines (raw : Bytes) : List Bytes :=
  go [] raw
where
  /-- The lines of the rest, after the octets of a line begun. -/
  go (begun : Bytes) : Bytes → List Bytes
    | [] => if begun = [] then [] else [begun]
    | 13 :: 10 :: rest => begun :: go [] rest
    | octet :: rest =>
        if octet = 10 ∨ octet = 13 then begun :: go [] rest
        else go (begun ++ [octet]) rest

/-- The header of a recording without its checksum. -/
def headerDocument (scenarioId : String) (initial : ReducerCheckpoint)
    (expectedFinalDigest : String) (eventCount : Nat) : Value.Members :=
  [ ("recordingVersion", .text "dashboard-recording/v1"),
    ("scenarioId", .text scenarioId),
    ("scenarioRevision", .int 1),
    ("initialState", .object (stateDocument initial.state)),
    ("latestEventDigest", Value.ofText? initial.latestEventDigest),
    ("expectedFinalDigest", .text expectedFinalDigest),
    ("eventCount", .int eventCount),
    ("checksumAlgorithm", .text "sha256") ]

/-- `export_normalized_recording` -/
def exportNormalizedRecording (host : Host) (scenarioId : String)
    (scenarioRevision : Int) (initial : ReducerCheckpoint)
    (events : List OrderedDashboardEvent) : Checked Bytes := do
  let _ ← identifier (.text scenarioId) .header
  ensure (scenarioRevision = 1 ∧ events.length ≤ maxEvents)
    (RecordingFailure.refused .eventCount)
  let _ ← replayAnchor host initial.state initial.latestEventDigest
  let final ← foldRecording host initial events
  let expectedFinalDigest ← recast RecordingFailure.digest
    (stateDigest host final.state)
  let header := headerDocument scenarioId initial expectedFinalDigest
    events.length
  let records := events.map recordDocument
  let checksum ← recordingChecksum host header records
  let raw ← canonicalLines host
    (.object (header ++ [("checksum", .text checksum)]) ::
      records.map Value.object)
  ensure
    (raw.length ≤ maxRecordingBytes ∧
      ∀ line ∈ splitLines raw, line.length ≤ maxLineBytes)
    (RecordingFailure.refused .size)
  pure raw

/-! ## Validation -/

mutual

/-- `_document_depth` -/
def documentDepth : Value → Nat
  | .object members => 1 + membersDepth members
  | .array items => 1 + itemsDepth items
  | _ => 1

/-- The greatest depth of the items, or zero. -/
def itemsDepth : List Value → Nat
  | [] => 0
  | item :: rest => max (documentDepth item) (itemsDepth rest)

/-- The greatest depth of the values, or zero. -/
def membersDepth : Value.Members → Nat
  | [] => 0
  | (_, value) :: rest => max (documentDepth value) (membersDepth rest)

end

/-- `_decode_line`: exact canonical bytes within the depth bound. -/
def decodeLine (host : Host) (line : Bytes) : Checked Value :=
  match decode host line with
  | .error (.canonicalization _) => refuse .canonical
  | .error .value => .error .value
  | .ok document =>
      match canonicalBytes host document with
      | .error _ => refuse .canonical
      | .ok bytes =>
          if bytes ≠ line then refuse .canonical
          else if maxDocumentDepth < documentDepth document then
            refuse .depth
          else .ok document

/-- `_framed_lines` -/
def framedLines (raw : Bytes) : Checked (List Bytes) := do
  ensure (raw.length ≤ maxRecordingBytes) (RecordingFailure.refused .size)
  ensure (raw.getLast? = some 10) (RecordingFailure.refused .finalNewline)
  ensure (¬ 13 ∈ raw) (RecordingFailure.refused .lineEnding)
  let lines := raw.dropLast.splitOn 10
  ensure (∀ line ∈ lines, line ≠ []) (RecordingFailure.refused .blankLine)
  ensure (∀ line ∈ lines, line.length ≤ maxLineBytes)
    (RecordingFailure.refused .lineSize)
  ensure (lines.length - 1 ≤ maxEvents)
    (RecordingFailure.refused .eventCount)
  pure lines

/-- `_decode_lines` -/
def decodeLines (host : Host) (raw : Bytes) : Checked (List Value) := do
  let lines ← framedLines raw
  lines.mapM (decodeLine host)

/-- The members of a recording's header. -/
def headerMembers : List String :=
  ["recordingVersion", "scenarioId", "scenarioRevision", "initialState",
    "latestEventDigest", "expectedFinalDigest", "eventCount",
    "checksumAlgorithm", "checksum"]

/-- A lowercase digest, or `None`. -/
def optionalDigest (value : Value) (refusal : RecordingRefusal) :
    Checked (Option String) :=
  match value with
  | .null => .ok none
  | present => (lowercaseDigest present refusal).map some

/-- `_header` -/
def header (value : Value) :
    Checked (Value.Members × DashboardReducedState × Option String) := do
  let document ← mapping value headerMembers .header
  ensure
    (Value.pyEq (Value.get "recordingVersion" document)
          (.text "dashboard-recording/v1") = true ∧
      Value.pyEq (Value.get "scenarioRevision" document) (.int 1) = true ∧
      Value.pyEq (Value.get "checksumAlgorithm" document)
          (.text "sha256") = true)
    (RecordingFailure.refused .header)
  let _ ← identifier (Value.get "scenarioId" document) .header
  let _ ← lowercaseDigest (Value.get "expectedFinalDigest" document) .header
  let _ ← lowercaseDigest (Value.get "checksum" document) .header
  let _ ← integer (Value.get "eventCount" document) 0 maxEvents .header
  let witness ← optionalDigest (Value.get "latestEventDigest" document)
    .header
  let initial ← state (Value.get "initialState" document)
  pure (document, initial, witness)

/-- One record line: its document and its event. -/
def recordLine (value : Value) :
    Checked (Value.Members × OrderedDashboardEvent) := do
  let record ← mapping value ["recordVersion", "orderedEvent"] .record
  ensure
    (Value.pyEq (Value.get "recordVersion" record)
        (.text "dashboard-record/v1") = true)
    (RecordingFailure.refused .record)
  let ordered ← event (Value.get "orderedEvent" record)
  pure (record, ordered)

/-- What a validated recording says. -/
structure ValidatedRecording where
  header : Value.Members
  initial : ReducerCheckpoint
  events : List OrderedDashboardEvent

/-- `_validated_recording` -/
def validatedRecording (host : Host) (raw : Bytes) :
    Checked ValidatedRecording := do
  let documents ← decodeLines host raw
  let (document, initial, witness) ← header (documents.headD .null)
  let records ← documents.tail.mapM recordLine
  ensure
    (Value.pyEq (Value.get "eventCount" document) (.int records.length) =
      true)
    (RecordingFailure.refused .eventCount)
  let checksum ← recordingChecksum host
    (document.filter fun member => decide (member.1 ≠ "checksum"))
    (records.map Prod.fst)
  ensure
    (Value.pyEq (.text checksum) (Value.get "checksum" document) = true)
    (RecordingFailure.refused .checksum)
  let anchor ← replayAnchor host initial witness
  pure ⟨document, anchor, records.map Prod.snd⟩

/--
`validate_recording`: what the recording says and the checkpoint it ends in.
Folding is a function here, so the repeated folds cannot differ.
-/
def validateRecording (host : Host) (raw : Bytes) :
    Checked (ValidatedRecording × ReducerCheckpoint) := do
  let validated ← validatedRecording host raw
  let final ← foldRecording host validated.initial validated.events
  let digest ← recast RecordingFailure.digest (stateDigest host final.state)
  ensure
    (Value.pyEq (.text digest)
        (Value.get "expectedFinalDigest" validated.header) = true)
    (RecordingFailure.refused .finalDigest)
  pure (validated, final)

/-! ## Stored inputs -/

/-- `checkpoint_from_prepared_bytes` -/
def checkpointFromPreparedBytes (host : Host) (raw : Bytes) :
    Checked ReducerCheckpoint := do
  ensure (raw ≠ [] ∧ raw.length ≤ maxLineBytes)
    (RecordingFailure.refused .size)
  let document ← decodeLine host raw
  let prepared ← state document
  replayAnchor host prepared none

/-- `ordered_event_from_payload` -/
def orderedEventFromPayload (host : Host) (auditOrdinal : Nat)
    (raw : Bytes) : Checked OrderedDashboardEvent := do
  ensure (raw ≠ [] ∧ raw.length ≤ maxLineBytes)
    (RecordingFailure.refused .size)
  let document ← decodeLine host raw
  event
    (.object [("auditOrdinal", .int auditOrdinal), ("event", document)])

end AerialRescue.Recorder
