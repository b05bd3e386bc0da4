import AerialRescue.Contracts.ReducerReplay

/-!
# When a fold returns

The reducer hashes the document of an event that passed every other check, and
the state's document when the server supplied a digest.  A fold returns unless
one of these documents lies outside the canonical profile: the data of the
timeline kinds is not validated, and the names of a prepared mission are not
bounded.
-/

namespace AerialRescue.Contracts.View

open AerialRescue.Lib.Guard
open AerialRescue.Lib.Run
open AerialRescue.Contracts.Canonical
open AerialRescue.Contracts.CanonicalForm
open AerialRescue.Contracts.Digest
open AerialRescue.Contracts.DigestSeparation
open AerialRescue.Contracts.Rpc

variable {host : Host}

/-! ## The document of a state -/

theorem canonicalBytes_isOk_iff {value : Value} (ascii : host.KeepsAscii)
    (keyed : Keyed value) :
    (canonicalBytes host value).isOk = true ↔ InProfile host value := by
  rw [isOk_eq_true]
  constructor
  · rintro ⟨bytes, encoded⟩
    exact inProfile_of_canonicalBytes keyed encoded
  · intro admitted
    exact ⟨_, canonicalBytes_normalize ascii admitted⟩

theorem itemsInProfile_map {γ : Type} {document : γ → Value}
    {items : List γ} :
    ItemsInProfile host (items.map document) ↔
      ∀ item ∈ items, InProfile host (document item) := by
  induction items with
  | nil => simp [ItemsInProfile]
  | cons first rest inductionHypothesis =>
      simp only [List.map_cons, ItemsInProfile, inductionHypothesis,
        List.forall_mem_cons]

theorem itemsKeyed_map {γ : Type} {document : γ → Value} {items : List γ} :
    ItemsKeyed (items.map document) ↔
      ∀ item ∈ items, Keyed (document item) := by
  induction items with
  | nil => simp [ItemsKeyed]
  | cons first rest inductionHypothesis =>
      simp only [List.map_cons, ItemsKeyed, inductionHypothesis,
        List.forall_mem_cons]

/-- The keys of the reduced state's documents. -/
def stateKeys : List String :=
  [ "canonicalizationVersion", "stateVersion", "currentMission", "fleet",
    "latestAuditOrdinal", "sectors", "identifier", "lifecycle",
    "predecessorIdentifier", "participation", "connectivity", "telemetry",
    "latitudeMicrodegrees", "longitudeMicrodegrees", "batteryPercent",
    "altitudeMetres", "headingDegrees", "groundSpeedCentimetresPerSecond",
    "state", "assignedMemberId" ]

theorem stateKeys_canonical :
    ∀ key ∈ stateKeys, (canonicalKey key).isOk = true := by
  decide

/-- A key of the documents is canonical. -/
theorem stateKey (key : String) (listed : key ∈ stateKeys) :
    CanonicalKey key :=
  canonicalKey_isOk.1 (stateKeys_canonical key listed)

theorem inProfile_ofText? {text : Option String} :
    InProfile host (Value.ofText? text) ↔
      ∀ value ∈ text, Short host value := by
  cases text <;> simp [Value.ofText?, InProfile, Short]

theorem inProfile_missionDocument {mission : Mission}
    (ascii : host.KeepsAscii) :
    InProfile host (missionDocument mission) ↔
      Short host mission.identifier ∧
        ∀ predecessor ∈ mission.predecessorIdentifier,
          Short host predecessor := by
  have lifecycle : Short host mission.lifecycle.text := by
    cases mission.lifecycle <;>
      exact short_of_ascii ascii (by decide +kernel) (by decide +kernel)
  unfold Short at lifecycle
  simp only [missionDocument, InProfile, MembersInProfile, Value.keys,
    List.map_cons, List.map_nil, inProfile_ofText?, lifecycle, Short,
    stateKey "identifier" (by decide),
    stateKey "lifecycle" (by decide),
    stateKey "predecessorIdentifier" (by decide), and_true, true_and]
  exact ⟨fun both => both.2, fun both => ⟨by decide, both⟩⟩

theorem inProfile_telemetryDocument {telemetry : Telemetry}
    (safe : telemetry.Safe) :
    InProfile host (telemetryDocument telemetry) := by
  unfold Telemetry.Safe SafeInteger at safe
  simp only [telemetryDocument, InProfile, MembersInProfile, Value.keys,
    List.map_cons, List.map_nil, safe,
    stateKey "latitudeMicrodegrees" (by decide),
    stateKey "longitudeMicrodegrees" (by decide),
    stateKey "batteryPercent" (by decide),
    stateKey "altitudeMetres" (by decide),
    stateKey "headingDegrees" (by decide),
    stateKey "groundSpeedCentimetresPerSecond" (by decide), and_self,
    and_true]
  decide

/-- The telemetry that a member holds, when it holds any. -/
def FleetMember.telemetry? : FleetMember → Option Telemetry
  | .simulated member => member.telemetry
  | .declaredOnly _ => none

theorem inProfile_memberDocument {member : FleetMember}
    (ascii : host.KeepsAscii)
    (safe : ∀ telemetry ∈ member.telemetry?, telemetry.Safe) :
    InProfile host (memberDocument member) ↔
      Short host member.identifier := by
  have simulated : Short host "SIMULATED" :=
    short_of_ascii ascii (by decide +kernel) (by decide +kernel)
  have declared : Short host "DECLARED_ONLY" :=
    short_of_ascii ascii (by decide +kernel) (by decide +kernel)
  unfold Short at simulated declared
  cases member with
  | declaredOnly identifier =>
      simp only [memberDocument, InProfile, MembersInProfile, Value.keys,
        List.map_cons, List.map_nil, declared, Short,
        FleetMember.identifier, stateKey "identifier" (by decide),
        stateKey "participation" (by decide), and_true, true_and]
      exact ⟨fun both => both.2, fun short => ⟨by decide, short⟩⟩
  | simulated held =>
      have link : Short host held.connectivity.text := by
        cases held.connectivity <;>
          exact short_of_ascii ascii (by decide +kernel) (by decide +kernel)
      have reading : InProfile host
          ((held.telemetry.map telemetryDocument).getD .null) := by
        cases telemetry : held.telemetry with
        | none => simp [InProfile]
        | some telemetry =>
            exact inProfile_telemetryDocument (safe _ ‹_›)
      unfold Short at link
      simp only [memberDocument, InProfile, MembersInProfile, Value.keys,
        List.map_cons, List.map_nil, simulated, link, reading, Short,
        FleetMember.identifier, stateKey "identifier" (by decide),
        stateKey "participation" (by decide),
        stateKey "connectivity" (by decide),
        stateKey "telemetry" (by decide), and_true, true_and]
      exact ⟨fun both => both.2, fun short => ⟨by decide, short⟩⟩

theorem inProfile_sectorDocument {sector : Sector}
    (ascii : host.KeepsAscii) :
    InProfile host (sectorDocument sector) ↔
      Short host sector.identifier ∧
        ∀ assigned ∈ sector.assignedMemberId, Short host assigned := by
  have state : Short host sector.state.text := by
    cases sector.state <;>
      exact short_of_ascii ascii (by decide +kernel) (by decide +kernel)
  unfold Short at state
  simp only [sectorDocument, InProfile, MembersInProfile, Value.keys,
    List.map_cons, List.map_nil, inProfile_ofText?, state, Short,
    stateKey "identifier" (by decide), stateKey "state" (by decide),
    stateKey "assignedMemberId" (by decide), and_true, true_and]
  exact ⟨fun both => both.2, fun both => ⟨by decide, both⟩⟩

/-- The names that a reduced state holds. -/
def names (state : DashboardReducedState) : List String :=
  (state.currentMission.elim [] fun mission =>
      mission.identifier :: mission.predecessorIdentifier.toList) ++
    state.fleet.map FleetMember.identifier ++
    state.sectors.map Sector.identifier

/-- The numbers of a reduced state are safe integers. -/
structure SafeState (state : DashboardReducedState) : Prop where
  telemetry : ∀ member ∈ state.fleet, ∀ telemetry ∈ member.telemetry?,
    telemetry.Safe
  ordinal : SafeInteger state.latestAuditOrdinal

theorem inProfile_currentMission {mission : Option Mission}
    (ascii : host.KeepsAscii) :
    InProfile host ((mission.map missionDocument).getD .null) ↔
      ∀ name ∈ mission.elim [] (fun mission =>
          mission.identifier :: mission.predecessorIdentifier.toList),
        Short host name := by
  cases mission with
  | none => simp [InProfile]
  | some mission =>
      simp only [Option.map_some, Option.getD_some, Option.elim_some,
        inProfile_missionDocument ascii, List.forall_mem_cons,
        Option.mem_toList, Option.mem_def]

/-- A canonical state has a canonical document when its names are short. -/
theorem inProfile_stateDocument {state : DashboardReducedState}
    (ascii : host.KeepsAscii) (canonical : CanonicalState state)
    (safe : SafeState state) :
    InProfile host (.object (stateDocument state)) ↔
      ∀ name ∈ names state, Short host name := by
  have one : -maxSafeInteger ≤ 1 ∧ (1 : Int) ≤ maxSafeInteger := by decide
  have ordinal := safe.ordinal
  unfold SafeInteger at ordinal
  have fleet : ItemsInProfile host (state.fleet.map memberDocument) ↔
      ∀ name ∈ state.fleet.map FleetMember.identifier, Short host name := by
    rw [itemsInProfile_map, List.forall_mem_map]
    exact forall₂_congr fun member among =>
      inProfile_memberDocument ascii (safe.telemetry member among)
  have sectors (members :
      ∀ name ∈ state.fleet.map FleetMember.identifier, Short host name) :
      ItemsInProfile host (state.sectors.map sectorDocument) ↔
        ∀ name ∈ state.sectors.map Sector.identifier, Short host name := by
    rw [itemsInProfile_map, List.forall_mem_map]
    refine forall₂_congr fun sector among => ?_
    rw [inProfile_sectorDocument ascii, and_iff_left]
    intro assigned held
    have simulated :=
      (canonical.assigned sector among).2 assigned held
    rw [simulatedAssignee_iff] at simulated
    refine members assigned ?_
    rw [map_identifier_participant]
    exact List.mem_map.2 ⟨_, simulated, rfl⟩
  simp only [stateDocument, InProfile, MembersInProfile, Value.keys,
    List.map_cons, List.map_nil, one, ordinal, fleet,
    inProfile_currentMission ascii,
    stateKey "canonicalizationVersion" (by decide),
    stateKey "stateVersion" (by decide),
    stateKey "currentMission" (by decide), stateKey "fleet" (by decide),
    stateKey "latestAuditOrdinal" (by decide),
    stateKey "sectors" (by decide), and_self, true_and, and_true, names,
    List.forall_mem_append]
  constructor
  · rintro ⟨_, mission, members, rest⟩
    exact ⟨⟨mission, members⟩, (sectors members).1 rest⟩
  · rintro ⟨⟨mission, members⟩, rest⟩
    exact ⟨by decide, mission, members, (sectors members).2 rest⟩

theorem keyed_stateDocument (state : DashboardReducedState) :
    Keyed (.object (stateDocument state)) := by
  have mission : Keyed
      ((state.currentMission.map missionDocument).getD .null) := by
    cases state.currentMission with
    | none => simp [Keyed]
    | some mission =>
        cases predecessor : mission.predecessorIdentifier <;>
          simp [missionDocument, Keyed, MembersKeyed, Value.keys,
            Value.ofText?, predecessor]
  have fleet : ItemsKeyed (state.fleet.map memberDocument) := by
    refine itemsKeyed_map.2 fun member _ => ?_
    cases member with
    | declaredOnly identifier =>
        simp [memberDocument, Keyed, MembersKeyed, Value.keys]
    | simulated member =>
        cases telemetry : member.telemetry <;>
          simp [memberDocument, telemetryDocument, Keyed, MembersKeyed,
            Value.keys, telemetry]
  have sectors : ItemsKeyed (state.sectors.map sectorDocument) := by
    refine itemsKeyed_map.2 fun sector _ => ?_
    cases assigned : sector.assignedMemberId <;>
      simp [sectorDocument, Keyed, MembersKeyed, Value.keys, Value.ofText?,
        assigned]
  simp only [stateDocument, Keyed, MembersKeyed, Value.keys, List.map_cons,
    List.map_nil, mission, fleet, sectors, and_self, and_true]
  decide

/-! ## Runs keep the names and the numbers -/

theorem reduce_safe {event : DashboardEvent} {stateEvent : StateEvent}
    {state reduced : DashboardReducedState} {mission : Mission}
    (reads : Reads event stateEvent) (safe : SafeState state)
    (reduction : stateEvent.reduce state mission = .ok reduced) :
    SafeState reduced := by
  have replaced {identifier : String}
      {update : SimulatedFleetMember → SimulatedFleetMember}
      (kept : ∀ member, (∀ telemetry ∈ member.telemetry, telemetry.Safe) →
        ∀ telemetry ∈ (update member).telemetry, telemetry.Safe)
      (updated : reduceMember state identifier update = .ok reduced) :
      SafeState reduced := by
    simp only [reduceMember, bind_eq_ok, pure_eq_ok] at updated
    rcases updated with ⟨⟨index, member⟩, found, rfl⟩
    have held := List.mem_of_getElem? (simulatedTarget_eq_ok found).1
    refine ⟨?_, safe.ordinal⟩
    intro other among
    rcases List.mem_or_eq_of_mem_set among with before | rfl
    · exact safe.telemetry other before
    · exact kept member (safe.telemetry _ held)
  cases reads with
  | timeline eventClass kind =>
      cases reduction
      exact safe
  | missionLifecycle lifecycle kind =>
      cases reduction
      exact ⟨safe.telemetry, safe.ordinal⟩
  | connectivity identifier link kind target =>
      rw [StateEvent.reduce] at reduction
      refine replaced ?_ reduction
      exact fun _ held => held
  | telemetry identifier reading kind target bounded =>
      rw [StateEvent.reduce] at reduction
      refine replaced ?_ reduction
      intro member _ telemetry same
      cases same
      exact bounded
  | sectorLifecycle identifier sectorState assignee kind target consistent =>
      simp only [StateEvent.reduce, bind_eq_ok, pure_eq_ok] at reduction
      rcases reduction with ⟨_, _, _, _, rfl⟩
      exact ⟨safe.telemetry, safe.ordinal⟩

theorem names_reduced {event : DashboardEvent}
    {state after : DashboardReducedState}
    (change : Reduced event state after) : names after = names state := by
  rcases change.changes.lifecycle with ⟨mission, lifecycle, before, moved⟩
  unfold names
  rw [before, moved, change.cast.sectors, map_identifier_participant,
    change.cast.fleet, ← map_identifier_participant]
  rfl

/-- A checkpoint whose state has the names of another and safe numbers. -/
structure Named (start checkpoint : ReducerCheckpoint) : Prop where
  names : names checkpoint.state = names start.state
  safe : SafeState checkpoint.state

theorem Applies.named {checkpoint start : ReducerCheckpoint}
    {ordered : OrderedDashboardEvent} {event : StateEvent}
    {reduced : DashboardReducedState} {witness : String}
    (named : Named start checkpoint)
    (applies : Applies host checkpoint ordered event reduced witness) :
    Named start (successor ordered reduced witness) := by
  have valid := (foldPreflight_eq_ok.1 applies.preflight).1
  have reads := validateOrderedEventBoundary_reads valid
  have change := applies.reduced
  have reduction := applies.reduction
  simp only [reduceOrdered, bind_eq_ok] at reduction
  rcases reduction with ⟨mission, _, _, _, reduction⟩
  have safe := reduce_safe reads named.safe reduction
  simp only [validateOrderedEventBoundary, bind_eq_ok, ensure_eq_ok] at valid
  rcases valid with ⟨_, bounds, _⟩
  refine ⟨(names_reduced change).trans named.names, safe.telemetry, ?_⟩
  simp only [successor, SafeInteger]
  unfold maxSafeInteger at *
  omega

theorem Named.run {start checkpoint : ReducerCheckpoint} (host : Host)
    (named : Named start checkpoint) (deliveries : List Delivery) :
    Named start (run (deliver host) checkpoint deliveries) := by
  induction deliveries generalizing checkpoint with
  | nil => exact named
  | cons delivery rest inductionHypothesis =>
      refine inductionHypothesis ?_
      unfold deliver
      split
      · rename_i next folded
        rcases foldOrderedEvent_applied folded with
          ⟨event, reduced, witness, applies, rfl⟩
        exact applies.named named
      · exact named

theorem named_prepared {prepared : PreparedMission}
    {start : ReducerCheckpoint}
    (prepares : prepareCheckpoint prepared = .ok start) :
    Named start start := by
  refine ⟨rfl, ?_⟩
  unfold prepareCheckpoint at prepares
  split at prepares
  · cases prepares
  · split at prepares
    · cases prepares
    · cases prepares
      refine ⟨?_, by simp [preparedState, SafeInteger, maxSafeInteger]⟩
      intro member among telemetry held
      have listed := (List.perm_insertionSort _ _).mem_iff.1 among
      rcases List.mem_append.1 listed with simulated | declared
      · rcases List.mem_map.1 simulated with ⟨identifier, _, rfl⟩
        cases held
      · rcases List.mem_map.1 declared with ⟨identifier, _, rfl⟩
        cases held

/-! ## Folds that return -/

/-- The fold comes to hash the event: every check before it passes. -/
def HashesEvent (checkpoint : ReducerCheckpoint)
    (ordered : OrderedDashboardEvent) : Prop :=
  ∃ event, foldPreflight checkpoint ordered = .ok event ∧
    (ordered.auditOrdinal = checkpoint.state.latestAuditOrdinal ∨
      ordered.auditOrdinal = checkpoint.state.latestAuditOrdinal + 1 ∧
        (reduceOrdered checkpoint ordered event).isOk = true)

/-- The fold comes to hash a state: the event is a duplicate or is applied,
and the server's digest has its form. -/
def HashesState (host : Host) (checkpoint : ReducerCheckpoint)
    (ordered : OrderedDashboardEvent) (expected : Option String) : Prop :=
  HashesEvent checkpoint ordered ∧
    (∃ digest ∈ expected, isDigest digest = true) ∧
    (ordered.auditOrdinal = checkpoint.state.latestAuditOrdinal →
      witnesses host checkpoint ordered = .ok true)

theorem orderedEventDigest_isOk {ordered : OrderedDashboardEvent} :
    (orderedEventDigest host ordered).isOk = true ↔
      (canonicalBytes host
        (.object (orderedEventDocument ordered))).isOk = true := by
  simp only [isOk_eq_true, orderedEventDigest_eq_ok, material, bind_eq_ok,
    pure_eq_ok]
  constructor
  · rintro ⟨_, _, ⟨bytes, encoded, _⟩, _⟩
    exact ⟨bytes, encoded⟩
  · rintro ⟨bytes, encoded⟩
    exact ⟨_, _, ⟨bytes, encoded, rfl⟩, rfl⟩

theorem stateDigest_eq_ok {state : DashboardReducedState} {found : String} :
    stateDigest host state = .ok found ↔
      ∃ bytes,
        material host .replayState (stateDocument state) = .ok bytes ∧
          host.sha256 bytes = found := by
  have covered :
      coveredMembers (stateDocument state) "digest" =
        .ok (stateDocument state) := rfl
  rw [stateDigest, digest, covered]
  exact digestCovered_eq_ok

/-- A supplied digest is compared when the state's document is canonical. -/
theorem digestProblem_isOk {state : DashboardReducedState}
    {expected : Option String} (hexadecimal : HexadecimalDigests host) :
    (digestProblem host state expected).isOk = true ↔
      ((∃ digest ∈ expected, isDigest digest = true) →
        (canonicalBytes host
          (.object (stateDocument state))).isOk = true) := by
  cases expected with
  | none => simp [digestProblem, isOk_eq_true]
  | some supplied =>
      by_cases formed : isDigest supplied = true
      · have ascii := isAscii_of_isDigest formed
        simp only [digestProblem, formed, Bool.true_eq_false, if_false,
          Option.mem_def, Option.some.injEq, exists_eq_left',
          true_implies]
        constructor
        · intro returned
          rcases isOk_eq_true.1 returned with ⟨verdict, compared⟩
          rcases bind_eq_ok.1 compared with ⟨actual, computed, _⟩
          rcases stateDigest_eq_ok.1 computed with ⟨_, hashed, _⟩
          rcases bind_eq_ok.1 hashed with ⟨bytes, encoded, _⟩
          exact isOk_eq_true.2 ⟨bytes, encoded⟩
        · intro encodes
          rcases isOk_eq_true.1 encodes with ⟨bytes, encoded⟩
          have computed := stateDigest_eq_ok.2
            ⟨_, bind_eq_ok.2 ⟨bytes, encoded, rfl⟩, rfl⟩
          have also := isAscii_of_isDigest (hexadecimal
            (header .replayState ++ bytes))
          rw [computed]
          simp only [bind, Except.bind, digestsMatch, ascii, also,
            Bool.and_self, if_true]
          split <;> rfl
      · simp [digestProblem, formed, isOk_eq_true]

theorem verifyServerDigest_isOk {prior : ReducerCheckpoint}
    {outcome : FoldOutcome} {state : DashboardReducedState}
    {expected : Option String} :
    (verifyServerDigest host prior outcome state expected).isOk = true ↔
      (digestProblem host state expected).isOk = true := by
  rw [verifyServerDigest]
  cases digestProblem host state expected with
  | error failure => simp [bind, Except.bind, Except.isOk, Except.toBool]
  | ok verdict => cases verdict <;> simp [bind, Except.bind, isOk_eq_true]

/-- The state's document is canonical when the names of the start are short. -/
theorem stateDocument_isOk {start checkpoint : ReducerCheckpoint}
    (ascii : host.KeepsAscii) (canonical : CanonicalState checkpoint.state)
    (named : Named start checkpoint) :
    (canonicalBytes host
        (.object (stateDocument checkpoint.state))).isOk = true ↔
      ∀ name ∈ names start.state, Short host name := by
  rw [canonicalBytes_isOk_iff ascii (keyed_stateDocument _),
    inProfile_stateDocument ascii canonical named.safe, named.names]

/-- A fold of the current ordinal returns what its comparisons return. -/
theorem fold_current_isOk {checkpoint : ReducerCheckpoint}
    {ordered : OrderedDashboardEvent} {event : StateEvent}
    {expected : Option String} (hexadecimal : HexadecimalDigests host)
    (preflight : foldPreflight checkpoint ordered = .ok event)
    (current :
      ordered.auditOrdinal = checkpoint.state.latestAuditOrdinal) :
    (foldOrderedEvent host checkpoint ordered expected).isOk = true ↔
      (canonicalBytes host
          (.object (orderedEventDocument ordered))).isOk = true ∧
        (witnesses host checkpoint ordered = .ok true →
          (digestProblem host checkpoint.state expected).isOk = true) := by
  have anchored := checkAnchor_eq_ok.1 (foldPreflight_eq_ok.1 preflight).2
  rw [foldOrderedEvent, preflight]
  dsimp only
  rw [foldOrdinalControl, if_neg (by omega), if_pos current]
  cases computed : orderedEventDigest host ordered with
  | error failure =>
      have absent : ¬(canonicalBytes host
          (.object (orderedEventDocument ordered))).isOk = true := by
        rw [← orderedEventDigest_isOk, computed]
        exact Bool.false_ne_true
      have raised : witnesses host checkpoint ordered = .error failure := by
        rw [witnesses, computed]
        rfl
      rw [raised]
      refine iff_of_false (fun returned => ?_) fun both => absent both.1
      exact Bool.false_ne_true returned
  | ok incoming =>
      have encodes : (canonicalBytes host
          (.object (orderedEventDocument ordered))).isOk = true := by
        rw [← orderedEventDigest_isOk, computed]
        rfl
      have returned : ∃ same,
          witnesses host checkpoint ordered = .ok same := by
        rw [witnesses, computed]
        cases held : checkpoint.latestEventDigest with
        | none => exact ⟨false, rfl⟩
        | some witness =>
            have ascii := isAscii_of_isDigest (anchored.1 witness held)
            have also := isAscii_of_isDigest
              (isDigest_of_orderedEventDigest hexadecimal computed)
            exact ⟨witness == incoming, by
              simp [bind, Except.bind, digestsMatch, ascii, also]⟩
      rcases returned with ⟨same, compared⟩
      have verified := @verifyServerDigest_isOk host checkpoint
        (.duplicate checkpoint) checkpoint.state expected
      rw [compared, ← verified]
      cases same with
      | false =>
          refine iff_of_true rfl ⟨encodes, fun impossible => ?_⟩
          cases impossible
      | true =>
          simp only [encodes, true_and, true_implies, bind, Except.bind,
            if_true]
          cases verifyServerDigest host checkpoint (.duplicate checkpoint)
              checkpoint.state expected with
          | error failure => exact Iff.rfl
          | ok outcome => exact Iff.rfl

/-- A fold of the next ordinal returns when it refuses or can hash. -/
theorem fold_next_isOk {checkpoint : ReducerCheckpoint}
    {ordered : OrderedDashboardEvent} {event : StateEvent}
    {reduced : DashboardReducedState} {expected : Option String}
    (preflight : foldPreflight checkpoint ordered = .ok event)
    (next :
      ordered.auditOrdinal = checkpoint.state.latestAuditOrdinal + 1)
    (reduction : reduceOrdered checkpoint ordered event = .ok reduced) :
    (foldOrderedEvent host checkpoint ordered expected).isOk = true ↔
      (canonicalBytes host
          (.object (orderedEventDocument ordered))).isOk = true ∧
        (digestProblem host
          { reduced with latestAuditOrdinal := ordered.auditOrdinal }
          expected).isOk = true := by
  rw [foldOrderedEvent, preflight]
  dsimp only
  rw [foldOrdinalControl_eq_none.2 next]
  cases computed : orderedEventDigest host ordered with
  | error failure =>
      have absent : ¬(canonicalBytes host
          (.object (orderedEventDocument ordered))).isOk = true := by
        rw [← orderedEventDigest_isOk, computed]
        exact Bool.false_ne_true
      rw [reduction]
      refine iff_of_false (fun returned => ?_) fun both => absent both.1
      exact Bool.false_ne_true returned
  | ok witness =>
      have encodes : (canonicalBytes host
          (.object (orderedEventDocument ordered))).isOk = true := by
        rw [← orderedEventDigest_isOk, computed]
        rfl
      rw [reduction]
      simp only [encodes, true_and, bind, Except.bind]
      exact verifyServerDigest_isOk

/-- A fold that does not come to hash its event refuses it. -/
theorem fold_unhashed {checkpoint : ReducerCheckpoint}
    {ordered : OrderedDashboardEvent} {expected : Option String}
    (unhashed : ¬HashesEvent checkpoint ordered) :
    ∃ problem,
      foldOrderedEvent host checkpoint ordered expected =
        .ok (.refused checkpoint problem) := by
  cases preflight : foldPreflight checkpoint ordered with
  | error problem =>
      rw [foldOrderedEvent, preflight]
      exact ⟨problem, rfl⟩
  | ok event =>
      have other :
          ordered.auditOrdinal ≠ checkpoint.state.latestAuditOrdinal :=
        fun current => unhashed ⟨event, preflight, .inl current⟩
      rw [foldOrderedEvent, preflight]
      dsimp only
      by_cases next :
          ordered.auditOrdinal = checkpoint.state.latestAuditOrdinal + 1
      · rw [foldOrdinalControl_eq_none.2 next]
        cases reduction : reduceOrdered checkpoint ordered event with
        | error problem => exact ⟨problem, rfl⟩
        | ok reduced =>
            refine absurd ⟨event, preflight, .inr ⟨next, ?_⟩⟩ unhashed
            rw [reduction]
            rfl
      · rw [foldOrdinalControl]
        by_cases older :
            ordered.auditOrdinal < checkpoint.state.latestAuditOrdinal
        · rw [if_pos older]
          exact ⟨_, rfl⟩
        · rw [if_neg older, if_neg other, if_pos next]
          exact ⟨_, rfl⟩

/-- The state that the next event leads to has the names of the start. -/
theorem successor_isOk {start checkpoint : ReducerCheckpoint}
    {applied : Nat} {ordered : OrderedDashboardEvent} {event : StateEvent}
    {reduced : DashboardReducedState} (ascii : host.KeepsAscii)
    (reachable : Reachable start applied checkpoint)
    (named : Named start checkpoint)
    (preflight : foldPreflight checkpoint ordered = .ok event)
    (next :
      ordered.auditOrdinal = checkpoint.state.latestAuditOrdinal + 1)
    (reduction : reduceOrdered checkpoint ordered event = .ok reduced)
    (encodes : (canonicalBytes host
      (.object (orderedEventDocument ordered))).isOk = true) :
    (canonicalBytes host
        (.object (stateDocument
          { reduced with
            latestAuditOrdinal := ordered.auditOrdinal }))).isOk = true ↔
      ∀ name ∈ names start.state, Short host name := by
  rw [← orderedEventDigest_isOk, isOk_eq_true] at encodes
  rcases encodes with ⟨witness, computed⟩
  have applies : Applies host checkpoint ordered event reduced witness :=
    ⟨preflight, next, reduction, computed⟩
  exact @stateDocument_isOk host start (successor ordered reduced witness)
    ascii (applies.canonical reachable.canonical) (applies.named named)

/-- A fold returns unless it comes to hash a document that is not canonical. -/
theorem fold_isOk_iff {start checkpoint : ReducerCheckpoint} {applied : Nat}
    {ordered : OrderedDashboardEvent} {expected : Option String}
    (hexadecimal : HexadecimalDigests host) (ascii : host.KeepsAscii)
    (reachable : Reachable start applied checkpoint)
    (named : Named start checkpoint) :
    (foldOrderedEvent host checkpoint ordered expected).isOk = true ↔
      (HashesEvent checkpoint ordered →
          (canonicalBytes host
            (.object (orderedEventDocument ordered))).isOk = true) ∧
        (HashesState host checkpoint ordered expected →
          ∀ name ∈ names start.state, Short host name) := by
  by_cases hashes : HashesEvent checkpoint ordered
  · rcases id hashes with ⟨event, preflight, current | ⟨next, reduces⟩⟩
    · rw [fold_current_isOk hexadecimal preflight current,
        digestProblem_isOk hexadecimal,
        stateDocument_isOk ascii reachable.canonical named]
      constructor
      · rintro ⟨encodes, names⟩
        exact ⟨fun _ => encodes,
          fun state => names (state.2.2 current) state.2.1⟩
      · rintro ⟨encodes, names⟩
        exact ⟨encodes hashes,
          fun same formed => names ⟨hashes, formed, fun _ => same⟩⟩
    · rcases isOk_eq_true.1 reduces with ⟨reduced, reduction⟩
      rw [fold_next_isOk preflight next reduction,
        digestProblem_isOk hexadecimal]
      have successors := successor_isOk ascii reachable named preflight next
        reduction
      constructor
      · rintro ⟨encodes, state⟩
        exact ⟨fun _ => encodes,
          fun hashed => (successors encodes).1 (state hashed.2.1)⟩
      · rintro ⟨encodes, names⟩
        refine ⟨encodes hashes, fun formed => ?_⟩
        refine (successors (encodes hashes)).2
          (names ⟨hashes, formed, fun same => ?_⟩)
        omega
  · rcases @fold_unhashed host checkpoint ordered expected hashes with
      ⟨problem, folded⟩
    rw [folded]
    refine iff_of_true rfl ⟨fun hashed => absurd hashed hashes, ?_⟩
    exact fun hashed => absurd hashed.1 hashes

/-- A command whose data holds a floating-point number. -/
def measured : OrderedDashboardEvent :=
  commanded [("reading", .float "1.5")]

end AerialRescue.Contracts.View
