import AerialRescue.Contracts.ReducerRuns
import AerialRescue.Contracts.DigestSeparation

/-!
# Replay and redelivery

Deliveries that repeat the latest event, bring an older one again or run ahead
of the next ordinal leave the checkpoint as it is, so that a sequence with any
such deliveries inserted ends where the plain one does.  A repeat is a
duplicate when its document is canonically that of the latest event, and is
refused otherwise.
-/

namespace AerialRescue.Contracts.View

open AerialRescue.Lib.Guard
open AerialRescue.Contracts.Canonical
open AerialRescue.Contracts.CanonicalForm
open AerialRescue.Contracts.Digest
open AerialRescue.Contracts.DigestSeparation
open AerialRescue.Contracts.Rpc
open AerialRescue.Contracts.Envelopes
open AerialRescue.Contracts.Topics

/-! ## Sequences of folds -/

/-- The checkpoint an outcome leaves its caller with. -/
def FoldOutcome.checkpoint : FoldOutcome → ReducerCheckpoint
  | .applied checkpoint => checkpoint
  | .duplicate checkpoint => checkpoint
  | .refused checkpoint _ => checkpoint

/-- Fold events one after another, each from the checkpoint before. -/
def foldEvents (host : Host) (checkpoint : ReducerCheckpoint)
    (events : List OrderedDashboardEvent) :
    Except DigestFailure ReducerCheckpoint :=
  events.foldlM (fun held ordered => do
    let outcome ← foldOrderedEvent host held ordered none
    pure outcome.checkpoint) checkpoint

/-- Every event of the list is applied, one after another. -/
inductive AppliesAll (host : Host) :
    ReducerCheckpoint → List OrderedDashboardEvent → ReducerCheckpoint →
      Prop where
  | done (checkpoint : ReducerCheckpoint) :
      AppliesAll host checkpoint [] checkpoint
  | next {checkpoint moved final : ReducerCheckpoint}
      {ordered : OrderedDashboardEvent} {rest : List OrderedDashboardEvent}
      (folded :
        foldOrderedEvent host checkpoint ordered none = .ok (.applied moved))
      (later : AppliesAll host moved rest final) :
      AppliesAll host checkpoint (ordered :: rest) final

/-- A delivery sequence for events of which some were applied already, the
latest first: the remaining events in order, and between them repeats of the
latest event, older events, and events beyond the next ordinal. -/
inductive Redelivery :
    List OrderedDashboardEvent → List OrderedDashboardEvent →
      List OrderedDashboardEvent → Prop where
  | done (history : List OrderedDashboardEvent) : Redelivery history [] []
  | next {ordered : OrderedDashboardEvent}
      {history rest sequence : List OrderedDashboardEvent}
      (later : Redelivery (ordered :: history) rest sequence) :
      Redelivery history (ordered :: rest) (ordered :: sequence)
  | repeated {latest : OrderedDashboardEvent}
      {history rest sequence : List OrderedDashboardEvent}
      (later : Redelivery (latest :: history) rest sequence) :
      Redelivery (latest :: history) rest (latest :: sequence)
  | older {latest old : OrderedDashboardEvent}
      {history rest sequence : List OrderedDashboardEvent}
      (applied : old ∈ history)
      (later : Redelivery (latest :: history) rest sequence) :
      Redelivery (latest :: history) rest (old :: sequence)
  | beyond {early : OrderedDashboardEvent}
      {history rest sequence : List OrderedDashboardEvent}
      (ahead : (history.length : Int) + 1 < early.auditOrdinal)
      (later : Redelivery history rest sequence) :
      Redelivery history rest (early :: sequence)

theorem foldEvents_cons {host : Host} {checkpoint : ReducerCheckpoint}
    {ordered : OrderedDashboardEvent} {rest : List OrderedDashboardEvent}
    {outcome : FoldOutcome}
    (folded :
      foldOrderedEvent host checkpoint ordered none = .ok outcome) :
    foldEvents host checkpoint (ordered :: rest) =
      foldEvents host outcome.checkpoint rest := by
  rw [foldEvents, List.foldlM_cons, folded]
  rfl

/-- Folding a list is folding a prefix and then the rest from there. -/
theorem foldEvents_append (host : Host) (checkpoint : ReducerCheckpoint)
    (first second : List OrderedDashboardEvent) :
    foldEvents host checkpoint (first ++ second) =
      (do
        let reached ← foldEvents host checkpoint first
        foldEvents host reached second) := by
  simp only [foldEvents, List.foldlM_append]

/-! ## Deliveries out of place -/

/-- An event before the current ordinal is refused without a digest. -/
theorem fold_older {host : Host} {checkpoint : ReducerCheckpoint}
    {ordered : OrderedDashboardEvent}
    (older : ordered.auditOrdinal < checkpoint.state.latestAuditOrdinal) :
    ∃ problem,
      foldOrderedEvent host checkpoint ordered none =
        .ok (.refused checkpoint problem) := by
  unfold foldOrderedEvent
  split
  · exact ⟨_, rfl⟩
  · refine ⟨ordinalProblem .ordinalRegression ordered, ?_⟩
    rw [foldOrdinalControl, if_pos older]
    rfl

/-- An event beyond the next ordinal is refused without a digest. -/
theorem fold_beyond {host : Host} {checkpoint : ReducerCheckpoint}
    {ordered : OrderedDashboardEvent}
    (beyond :
      checkpoint.state.latestAuditOrdinal + 1 < ordered.auditOrdinal) :
    ∃ problem,
      foldOrderedEvent host checkpoint ordered none =
        .ok (.refused checkpoint problem) := by
  unfold foldOrderedEvent
  split
  · exact ⟨_, rfl⟩
  · refine ⟨ordinalProblem .ordinalGap ordered, ?_⟩
    rw [foldOrdinalControl, if_neg (by omega), if_neg (by omega),
      if_pos (by omega)]
    rfl

/-- An event at the current ordinal is a duplicate when its digest is the
witness, and refused when its digest is another. -/
theorem fold_repeated {host : Host} {checkpoint : ReducerCheckpoint}
    {ordered : OrderedDashboardEvent} {witness incoming : String}
    (current :
      ordered.auditOrdinal = checkpoint.state.latestAuditOrdinal)
    (held : checkpoint.latestEventDigest = some witness)
    (ascii : isAscii witness = true ∧ isAscii incoming = true)
    (computed : orderedEventDigest host ordered = .ok incoming) :
    (witness = incoming →
        ∀ event, foldPreflight checkpoint ordered = .ok event →
          foldOrderedEvent host checkpoint ordered none =
            .ok (.duplicate checkpoint)) ∧
      (witness ≠ incoming →
        ∃ problem,
          foldOrderedEvent host checkpoint ordered none =
            .ok (.refused checkpoint problem)) := by
  have compared : witnesses host checkpoint ordered =
      .ok (witness == incoming) := by
    rw [witnesses, computed, held]
    simp only [bind, Except.bind, digestsMatch, ascii.1, ascii.2,
      Bool.and_self, if_true]
  constructor
  · rintro rfl event preflight
    rw [foldOrderedEvent, preflight]
    dsimp only
    rw [foldOrdinalControl, if_neg (by omega), if_pos current, compared,
      beq_self_eq_true]
    rfl
  · intro different
    unfold foldOrderedEvent
    split
    · exact ⟨_, rfl⟩
    · refine ⟨ordinalProblem .ordinalDivergence ordered, ?_⟩
      rw [foldOrdinalControl, if_neg (by omega), if_pos current, compared,
        beq_eq_false_iff_ne.2 different]
      rfl

/-! ## Witnesses -/

/-- `hexdigest` of SHA-256: sixty-four lowercase hexadecimal digits. -/
def HexadecimalDigests (host : Host) : Prop :=
  ∀ bytes, isDigest (host.sha256 bytes) = true

theorem isAscii_of_isDigest {text : String} (formed : isDigest text = true) :
    isAscii text = true := by
  rw [isDigest, Bool.and_eq_true, List.all_eq_true] at formed
  rw [isAscii, List.all_eq_true]
  intro character member
  have digit := formed.2 character member
  simp only [Canonical.isDigit, Bool.or_eq_true, Bool.and_eq_true,
    decide_eq_true_eq, Char.le_def, UInt32.le_iff_toNat_le] at digit
  rw [decide_eq_true_eq]
  change character.val.toNat < 128
  have f : ('f' : Char).val.toNat = 102 := rfl
  have nine : ('9' : Char).val.toNat = 57 := rfl
  omega

/-- What the digest of an event hashes. -/
theorem orderedEventDigest_eq_ok {host : Host}
    {ordered : OrderedDashboardEvent} {found : String} :
    orderedEventDigest host ordered = .ok found ↔
      ∃ bytes,
        material host .orderedDashboardEvent (orderedEventDocument ordered) =
            .ok bytes ∧
          host.sha256 bytes = found := by
  have covered :
      coveredMembers (orderedEventDocument ordered) "digest" =
        .ok (orderedEventDocument ordered) := rfl
  rw [orderedEventDigest, digest, covered]
  exact digestCovered_eq_ok

theorem isDigest_of_orderedEventDigest {host : Host}
    {ordered : OrderedDashboardEvent} {found : String}
    (hexadecimal : HexadecimalDigests host)
    (computed : orderedEventDigest host ordered = .ok found) :
    isDigest found = true := by
  rcases orderedEventDigest_eq_ok.1 computed with ⟨bytes, _, rfl⟩
  exact hexadecimal bytes

/-! ## Histories -/

/-- A checkpoint that the events of a history led to, the latest first. -/
structure Follows (host : Host) (start : ReducerCheckpoint)
    (history : List OrderedDashboardEvent) (checkpoint : ReducerCheckpoint) :
    Prop where
  reachable : Reachable start history.length checkpoint
  formed : ∀ witness ∈ checkpoint.latestEventDigest,
    isDigest witness = true
  latest : ∀ ordered ∈ history.head?,
    ordered.auditOrdinal = history.length ∧
      (∃ event, validateOrderedEventBoundary ordered = .ok event) ∧
      orderedEventDigest host ordered = .ok
        (checkpoint.latestEventDigest.getD "")
  older : ∀ ordered ∈ history.tail,
    ordered.auditOrdinal < history.length

theorem Follows.anchored {host : Host} {start checkpoint : ReducerCheckpoint}
    {history : List OrderedDashboardEvent}
    (follows : Follows host start history checkpoint) :
    checkAnchor checkpoint.state checkpoint.latestEventDigest = .ok () :=
  checkAnchor_eq_ok.2
    ⟨follows.formed, follows.reachable.canonical,
      follows.reachable.witnessed.symm⟩

/-- An applied event is the latest of the history after it. -/
theorem Follows.applied {host : Host} {start checkpoint : ReducerCheckpoint}
    {history : List OrderedDashboardEvent} {next : ReducerCheckpoint}
    {ordered : OrderedDashboardEvent}
    (hexadecimal : HexadecimalDigests host)
    (follows : Follows host start history checkpoint)
    (folded :
      foldOrderedEvent host checkpoint ordered none = .ok (.applied next)) :
    Follows host start (ordered :: history) next := by
  have reachable := follows.reachable.applied folded
  rcases foldOrderedEvent_applied folded with
    ⟨event, reduced, witness, applies, rfl⟩
  have next := applies.next
  rw [follows.reachable.ordinal] at next
  refine ⟨reachable, ?_, ?_, ?_⟩
  · intro found held
    cases held
    exact isDigest_of_orderedEventDigest hexadecimal applies.digest
  · intro latest first
    cases first
    refine ⟨by simpa using next, ⟨event, ?_⟩, applies.digest⟩
    exact (foldPreflight_eq_ok.1 applies.preflight).1
  · intro old among
    rw [List.length_cons]
    cases history with
    | nil => cases among
    | cons latest rest =>
        rcases List.mem_cons.1 among with rfl | earlier
        · have ordinal := (follows.latest old rfl).1
          omega
        · have ordinal := follows.older old earlier
          omega

/-- The latest event, delivered again, is a duplicate. -/
theorem Follows.fold_latest {host : Host}
    {start checkpoint : ReducerCheckpoint}
    {history : List OrderedDashboardEvent} {latest : OrderedDashboardEvent}
    (follows : Follows host start (latest :: history) checkpoint) :
    foldOrderedEvent host checkpoint latest none =
      .ok (.duplicate checkpoint) := by
  rcases follows.latest latest rfl with ⟨ordinal, ⟨event, valid⟩, computed⟩
  have preflight := foldPreflight_eq_ok.2 ⟨valid, follows.anchored⟩
  have current := ordinal.trans follows.reachable.ordinal.symm
  have present : checkpoint.latestEventDigest.isSome = true := by
    rw [follows.reachable.witnessed, follows.reachable.ordinal,
      List.length_cons]
    omega
  rcases Option.isSome_iff_exists.1 present with ⟨witness, held⟩
  rw [held] at computed
  have ascii := isAscii_of_isDigest (follows.formed witness held)
  exact (fold_repeated current held ⟨ascii, ascii⟩ computed).1 rfl event
    preflight

/-- Inserted deliveries change nothing about where a sequence ends. -/
theorem Follows.redelivery {host : Host}
    {start checkpoint final : ReducerCheckpoint}
    {history rest sequence : List OrderedDashboardEvent}
    (hexadecimal : HexadecimalDigests host)
    (follows : Follows host start history checkpoint)
    (applies : AppliesAll host checkpoint rest final)
    (redelivery : Redelivery history rest sequence) :
    foldEvents host checkpoint sequence = .ok final := by
  induction redelivery generalizing checkpoint with
  | done history =>
      cases applies
      rfl
  | next later inductionHypothesis =>
      cases applies with
      | next folded applied =>
          rw [foldEvents_cons folded]
          exact inductionHypothesis (follows.applied hexadecimal folded)
            applied
  | repeated later inductionHypothesis =>
      rw [foldEvents_cons follows.fold_latest]
      exact inductionHypothesis follows applies
  | older applied later inductionHypothesis =>
      have before := follows.older _ applied
      rw [← follows.reachable.ordinal] at before
      rcases fold_older before with ⟨problem, refused⟩
      rw [foldEvents_cons refused]
      exact inductionHypothesis follows applies
  | beyond ahead later inductionHypothesis =>
      rw [← follows.reachable.ordinal] at ahead
      rcases fold_beyond ahead with ⟨problem, refused⟩
      rw [foldEvents_cons refused]
      exact inductionHypothesis follows applies

/-- The events that were applied are the history of where they led. -/
theorem Follows.all {host : Host} {start checkpoint final : ReducerCheckpoint}
    {history events : List OrderedDashboardEvent}
    (hexadecimal : HexadecimalDigests host)
    (follows : Follows host start history checkpoint)
    (applies : AppliesAll host checkpoint events final) :
    Follows host start (events.reverse ++ history) final := by
  induction applies generalizing history with
  | done checkpoint => exact follows
  | next folded later inductionHypothesis =>
      have after := inductionHypothesis (follows.applied hexadecimal folded)
      simpa using after

/-! ## Changed content -/

theorem keyed_orderedEventDocument {ordered : OrderedDashboardEvent}
    (keyed : Keyed (.object ordered.event.data)) :
    Keyed (.object (orderedEventDocument ordered)) := by
  simp [Keyed, MembersKeyed, orderedEventDocument, eventDocument, Value.keys]
    at keyed ⊢
  exact keyed

/-- Two events have one digest only when their documents are equivalent,
unless the hash collides on the two materials. -/
theorem equivalent_of_orderedEventDigest {host : Host}
    {left right : OrderedDashboardEvent} {found : String}
    (ascii : host.KeepsAscii)
    (first : Keyed (.object left.event.data))
    (second : Keyed (.object right.event.data))
    (apart : ∀ one other,
      material host .orderedDashboardEvent (orderedEventDocument left) =
          .ok one →
        material host .orderedDashboardEvent (orderedEventDocument right) =
            .ok other →
          host.sha256 one = host.sha256 other → one = other)
    (computed : orderedEventDigest host left = .ok found)
    (also : orderedEventDigest host right = .ok found) :
    Equivalent host (.object (orderedEventDocument left))
      (.object (orderedEventDocument right)) := by
  rcases orderedEventDigest_eq_ok.1 computed with ⟨bytes, hashed, rfl⟩
  rcases orderedEventDigest_eq_ok.1 also with ⟨others, hashes, same⟩
  cases apart bytes others hashed hashes same.symm
  exact (material_separates ascii (keyed_orderedEventDocument first)
    (keyed_orderedEventDocument second) hashed hashes).2

/-- A repeat of the latest event with another document is refused. -/
theorem Follows.fold_changed {host : Host}
    {start checkpoint : ReducerCheckpoint}
    {history : List OrderedDashboardEvent}
    {latest repeated : OrderedDashboardEvent} {incoming : String}
    (hexadecimal : HexadecimalDigests host)
    (follows : Follows host start (latest :: history) checkpoint)
    (place : repeated.auditOrdinal = latest.auditOrdinal)
    (computed : orderedEventDigest host repeated = .ok incoming)
    (changed : orderedEventDigest host latest ≠ .ok incoming) :
    ∃ problem,
      foldOrderedEvent host checkpoint repeated none =
        .ok (.refused checkpoint problem) := by
  rcases follows.latest latest rfl with ⟨ordinal, _, witnessed⟩
  have current := (place.trans ordinal).trans
    follows.reachable.ordinal.symm
  cases held : checkpoint.latestEventDigest with
  | none =>
      have present := follows.reachable.witnessed.2 (by
        rw [follows.reachable.ordinal, List.length_cons]
        omega)
      rw [held] at present
      cases present
  | some witness =>
      rw [held] at witnessed
      have ascii := isAscii_of_isDigest (follows.formed witness held)
      have also := isAscii_of_isDigest
        (isDigest_of_orderedEventDigest hexadecimal computed)
      refine (fold_repeated current held ⟨ascii, also⟩ computed).2 ?_
      rintro rfl
      exact changed witnessed

/-! ## Confluence -/

theorem AppliesAll.split {host : Host} {start final : ReducerCheckpoint}
    {first second : List OrderedDashboardEvent}
    (applies : AppliesAll host start (first ++ second) final) :
    ∃ reached,
      AppliesAll host start first reached ∧
        AppliesAll host reached second final := by
  induction first generalizing start with
  | nil => exact ⟨start, .done start, applies⟩
  | cons ordered rest inductionHypothesis =>
      cases applies with
      | next folded later =>
          rcases inductionHypothesis later with ⟨reached, before, after⟩
          exact ⟨reached, .next folded before, after⟩

/-- Applying events one after another is folding them. -/
theorem AppliesAll.foldEvents {host : Host} {start final : ReducerCheckpoint}
    {events : List OrderedDashboardEvent}
    (applies : AppliesAll host start events final) :
    foldEvents host start events = .ok final := by
  induction applies with
  | done checkpoint => rfl
  | next folded later inductionHypothesis =>
      rw [foldEvents_cons folded]
      exact inductionHypothesis

theorem follows_prepared {host : Host} {prepared : PreparedMission}
    {start : ReducerCheckpoint}
    (prepares : prepareCheckpoint prepared = .ok start) :
    Follows host start [] start := by
  have reachable := prepareCheckpoint_reachable prepares
  refine ⟨reachable, ?_, ?_, ?_⟩
  · intro witness held
    have absent := reachable.witnessed.not.2 (by
      simp [reachable.ordinal])
    simp [Option.mem_def.1 held] at absent
  · intro ordered absent
    cases absent
  · intro ordered absent
    cases absent

/-- A text whose form is within the byte limit. -/
def Short (host : Host) (text : String) : Prop :=
  (host.nfc text).utf8ByteSize ≤ maxStringBytes

theorem short_of_ascii {host : Host} {text : String}
    (ascii : host.KeepsAscii)
    (plain :
      (text.toList.all fun character => character.toNat < 128) = true)
    (size : text.utf8ByteSize ≤ maxStringBytes) : Short host text := by
  rw [Short, ascii text (ascii_of_all plain)]
  exact size

theorem short_class {host : Host} (ascii : host.KeepsAscii)
    (eventClass : EventClass) : Short host eventClass.text := by
  cases eventClass <;>
    exact short_of_ascii ascii (by decide +kernel)
      (by decide +kernel)

/-- The document of an event is in the profile when its members are. -/
theorem inProfile_orderedEventDocument {host : Host}
    {ordered : OrderedDashboardEvent} (ascii : host.KeepsAscii)
    (ordinal : -maxSafeInteger ≤ ordered.auditOrdinal ∧
      ordered.auditOrdinal ≤ maxSafeInteger)
    (kind : Short host ordered.event.kind)
    (mission : Short host ordered.event.mission)
    (time : Short host ordered.event.time)
    (data : InProfile host (.object ordered.event.data)) :
    InProfile host (.object (orderedEventDocument ordered)) := by
  have version : CanonicalKey "canonicalizationVersion" :=
    canonicalKey_isOk.1 (by decide)
  have auditOrdinal : CanonicalKey "auditOrdinal" :=
    canonicalKey_isOk.1 (by decide)
  have event : CanonicalKey "event" := canonicalKey_isOk.1 (by decide)
  have kindKey : CanonicalKey "kind" := canonicalKey_isOk.1 (by decide)
  have classKey : CanonicalKey "eventClass" :=
    canonicalKey_isOk.1 (by decide)
  have missionKey : CanonicalKey "mission" :=
    canonicalKey_isOk.1 (by decide)
  have timeKey : CanonicalKey "time" := canonicalKey_isOk.1 (by decide)
  have dataKey : CanonicalKey "data" := canonicalKey_isOk.1 (by decide)
  have one : -maxSafeInteger ≤ 1 ∧ (1 : Int) ≤ maxSafeInteger := by decide
  have eventClass := short_class ascii ordered.event.eventClass
  unfold Short at kind mission time eventClass
  simp only [orderedEventDocument, eventDocument, InProfile,
    MembersInProfile, Value.keys, List.map_cons, List.map_nil] at data ⊢
  simp only [version, auditOrdinal, event, kindKey, classKey, missionKey,
    timeKey, dataKey, one, ordinal, kind, mission, time, eventClass, data,
    and_self, and_true]
  decide

/-- A runtime that composes one letter with its accent. -/
def composingHost (sha256 : Bytes → String) : Host where
  loads _ := .error .malformed
  nfc text := if text = "e\u0301" then "é" else text
  sha256 := sha256

theorem composingHost_keepsAscii (sha256 : Bytes → String) :
    (composingHost sha256).KeepsAscii := by
  intro text plain
  refine if_neg ?_
  rintro rfl
  exact absurd (plain '\u0301' (by decide)) (by decide)

/-- An operator command as the first event of the planned mission. -/
def commanded (data : Value.Members) : OrderedDashboardEvent where
  auditOrdinal := 1
  event :=
    { kind := "operatorCommand"
      eventClass := .command
      mission := "mission-1"
      time := "2026-01-01T00:00:00.000Z"
      data := data }

/-- An operator command with a remark. -/
def noted (note : String) : OrderedDashboardEvent :=
  commanded [("note", .text note)]

/-- The data of a command is not validated. -/
theorem commanded_valid (data : Value.Members) :
    validateOrderedEventBoundary (commanded data) = .ok .timeline := by
  have mission : isIdentifier "mission-1" = true := by decide
  have time : isInstant "2026-01-01T00:00:00.000Z" = true := by decide
  simp only [validateOrderedEventBoundary, bind_eq_ok, ensure_eq_ok,
    present_eq_ok]
  refine ⟨(), ?_, _, rfl, (), mission, (), time, rfl⟩
  simp [commanded, maxSafeInteger]

theorem inProfile_noted {sha256 : Bytes → String} {note : String}
    (short : Short (composingHost sha256) note) :
    InProfile (composingHost sha256)
      (.object (orderedEventDocument (noted note))) := by
  have ascii := composingHost_keepsAscii sha256
  have key : CanonicalKey "note" := canonicalKey_isOk.1 (by decide)
  have kind : Short (composingHost sha256) "operatorCommand" :=
    short_of_ascii ascii (by decide +kernel) (by decide +kernel)
  have mission : Short (composingHost sha256) "mission-1" :=
    short_of_ascii ascii (by decide +kernel) (by decide +kernel)
  have time : Short (composingHost sha256) "2026-01-01T00:00:00.000Z" :=
    short_of_ascii ascii (by decide +kernel) (by decide +kernel)
  refine inProfile_orderedEventDocument ascii ?_ kind mission time ?_
  · simp [noted, commanded, maxSafeInteger]
  · simp only [noted, commanded, InProfile, MembersInProfile, Value.keys, List.map_cons,
      List.map_nil, key, true_and, and_true]
    exact ⟨by decide, short⟩

/-- The planned mission hashes a command that is its first event. -/
theorem fold_commanded (host : Host) (data : Value.Members) :
    foldOrderedEvent host ⟨preparedState plannedMission, none⟩
        (commanded data) none =
      (do
        let witness ← orderedEventDigest host (commanded data)
        pure (.applied (successor (commanded data)
          (preparedState plannedMission) witness))) := by
  have follows : Follows host ⟨preparedState plannedMission, none⟩ []
      ⟨preparedState plannedMission, none⟩ :=
    follows_prepared plannedMission_prepares
  have preflight := foldPreflight_eq_ok.2
    ⟨commanded_valid data, follows.anchored⟩
  rw [foldOrderedEvent, preflight]
  dsimp only
  rw [foldOrdinalControl_eq_none.2 rfl]
  rfl

theorem composingHost_composed (sha256 : Bytes → String) :
    (composingHost sha256).nfc "é" = "é" := by
  simp [composingHost]

theorem composingHost_decomposed (sha256 : Bytes → String) :
    (composingHost sha256).nfc "e\u0301" = "é" := by
  simp [composingHost]

theorem equivalent_noted {host : Host} {left right : String}
    (same : host.nfc left = host.nfc right) :
    Equivalent host (.object (orderedEventDocument (noted left)))
      (.object (orderedEventDocument (noted right))) := by
  refine ⟨rfl, ⟨_, .head _, rfl⟩, ⟨_, .tail _ (.head _), rfl⟩,
    ⟨_, .tail _ (.tail _ (.head _)), ?_⟩, trivial⟩
  refine ⟨rfl, ⟨_, .head _, rfl⟩, ⟨_, .tail _ (.head _), rfl⟩,
    ⟨_, .tail _ (.tail _ (.head _)), rfl⟩,
    ⟨_, .tail _ (.tail _ (.tail _ (.head _))), rfl⟩,
    ⟨_, .tail _ (.tail _ (.tail _ (.tail _ (.head _)))), ?_⟩, trivial⟩
  exact ⟨rfl, ⟨_, .head _, same⟩, trivial⟩

end AerialRescue.Contracts.View
