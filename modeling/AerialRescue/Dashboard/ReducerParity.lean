import AerialRescue.Dashboard.BoundaryParity

/-!
# Parity of the two reducers

Past the event boundary the contracts-owned reducer and the browser's run the
same checks in the same order: on the checkpoint, on the ordinal, on the
mission and on the entity the event names.  The folds have the same outcome
unless the boundaries part or one language alone can hash the event.
-/

namespace AerialRescue.Dashboard.ReducerParity

open AerialRescue.Contracts
open AerialRescue.Contracts.Canonical
open AerialRescue.Contracts.CanonicalForm
open AerialRescue.Contracts.Digest
open AerialRescue.Contracts.DigestSeparation
open AerialRescue.Contracts.Envelopes
open AerialRescue.Contracts.Rpc
open AerialRescue.Contracts.SharedJson
open AerialRescue.Contracts.Topics
open AerialRescue.Contracts.View
open AerialRescue.Dashboard.CanonicalText
open AerialRescue.Dashboard.DomainReducer
open AerialRescue.Lib.Binary64
open AerialRescue.Lib.Guard

variable {host : Host} {number : String → Double} {accepts : Value → Bool}

/-! ## Orders of identifiers -/

theorem byteOrder_neg_iff {left right : Bytes} :
    byteOrder left right < 0 ↔ left < right := by
  induction left generalizing right with
  | nil =>
      cases right with
      | nil => simp [byteOrder]
      | cons first rest =>
          simp only [byteOrder, List.length_nil, List.length_cons,
            List.nil_lt_cons, iff_true]
          omega
  | cons first rest inductionHypothesis =>
      cases right with
      | nil =>
          simp only [byteOrder, List.length_nil, List.length_cons,
            List.not_lt_nil, iff_false]
          omega
      | cons other others =>
          rw [byteOrder, List.cons_lt_cons_iff]
          by_cases same : first = other
          · subst same
            rw [if_neg (by simp), inductionHypothesis]
            simp
          · rw [if_pos same, UInt8.lt_iff_toNat_lt]
            simp only [same, false_and, or_false]
            omega

theorem identifierOrder_neg_iff {left right : String} :
    identifierOrder left right < 0 ↔
      utf8 left.toList < utf8 right.toList :=
  byteOrder_neg_iff

/-- Both languages ask for identifiers that ascend by their octets. -/
theorem identifiersAreSortedAndUnique_eq (identifiers : List String) :
    identifiersAreSortedAndUnique identifiers =
      strictlySorted identifiers := by
  have transitive : Trans
      (fun left right : String => utf8 left.toList < utf8 right.toList)
      (fun left right : String => utf8 left.toList < utf8 right.toList)
      (fun left right : String => utf8 left.toList < utf8 right.toList) :=
    ⟨fun first second => List.lt_trans first second⟩
  rw [Bool.eq_iff_iff, strictlySorted, decide_eq_true_eq,
    ← List.isChain_iff_pairwise]
  induction identifiers with
  | nil => simp [identifiersAreSortedAndUnique]
  | cons first rest inductionHypothesis =>
      cases rest with
      | nil => simp [identifiersAreSortedAndUnique]
      | cons second others =>
          rw [identifiersAreSortedAndUnique, List.isChain_cons_cons,
            Bool.and_eq_true, decide_eq_true_eq, identifierOrder_neg_iff,
            inductionHypothesis]

/-- Identifiers that ascend are left in place by the browser's sort. -/
theorem sorted_eq_self {γ : Type} {identifier : γ → String}
    {items : List γ}
    (ascending : strictlySorted (items.map identifier) = true) :
    items.insertionSort (fun left right =>
      identifierOrder (identifier left) (identifier right) ≤ 0) = items := by
  refine List.Pairwise.insertionSort_eq ?_
  rw [strictlySorted, decide_eq_true_eq, List.pairwise_map] at ascending
  refine ascending.imp ?_
  intro left right before
  exact le_of_lt (identifierOrder_neg_iff.2 before)

theorem nodup_of_strictlySorted {identifiers : List String}
    (ascending : strictlySorted identifiers = true) : identifiers.Nodup := by
  rw [strictlySorted, decide_eq_true_eq] at ascending
  refine ascending.imp ?_
  rintro left _ before rfl
  exact List.lt_irrefl _ before

/-! ## Checkpoints -/

theorem heldAssignmentIsValid_iff {state : DashboardReducedState}
    {sector : Sector} :
    heldAssignmentIsValid state sector = true ↔
      Assigned state.fleet sector := by
  unfold heldAssignmentIsValid Assigned
  cases sector.assignedMemberId with
  | none => cases sector.state <;> simp
  | some assigned =>
      have simulated (other : SectorState)
          (held : other ≠ .unassigned) :
          simulatedAssignee state.fleet assigned = true ↔
            ((some assigned).isSome = true ↔ other ≠ .unassigned) ∧
              ∀ member ∈ some assigned,
                simulatedAssignee state.fleet member = true := by
        simp [held]
      cases sector.state with
      | unassigned => simp
      | assigned => exact simulated .assigned (by decide)
      | atRisk => exact simulated .atRisk (by decide)
      | searched => exact simulated .searched (by decide)

theorem anchorStateIsCanonical_iff {state : DashboardReducedState} :
    anchorStateIsCanonical state = true ↔ CanonicalState state := by
  unfold anchorStateIsCanonical
  simp only [Bool.and_eq_true, identifiersAreSortedAndUnique_eq,
    List.all_eq_true, heldAssignmentIsValid_iff]
  constructor
  · rintro ⟨⟨⟨prepared, members⟩, sectors⟩, assigned⟩
    refine ⟨members, sectors, assigned, ?_⟩
    intro unprepared
    simpa [unprepared, List.isEmpty_iff, and_assoc] using prepared
  · intro canonical
    refine ⟨⟨⟨?_, canonical.members⟩, canonical.sectors⟩,
      canonical.assigned⟩
    cases mission : state.currentMission with
    | none => simp [canonical.unprepared mission]
    | some held => simp

/-- Both languages accept the same checkpoints, and refuse them alike. -/
theorem anchor_sameVerdict (checkpoint : ReducerCheckpoint) :
    SameVerdict
      ((checkAnchor checkpoint.state checkpoint.latestEventDigest).map
        fun _ => checkpoint)
      (DomainReducer.checkpointFromAnchor checkpoint.state
        checkpoint.latestEventDigest) := by
  unfold checkAnchor DomainReducer.checkpointFromAnchor
  dsimp only
  by_cases malformed : checkpoint.latestEventDigest.any
      (fun digest => !isDigest digest) = true
  · rw [if_pos malformed, ensure_eq_error.2 ⟨not_not.2 malformed, rfl⟩]
    exact .refused rfl
  · rw [if_neg malformed, ensure_of malformed]
    cases defects : noncanonicalAnchor checkpoint.state with
    | some defect =>
        have other : ¬anchorStateIsCanonical checkpoint.state = true := by
          rw [anchorStateIsCanonical_iff, ← noncanonicalAnchor_eq_none,
            defects]
          exact nofun
        rw [ensure_eq_error.2 ⟨other, rfl⟩]
        exact .refused rfl
    | none =>
        have canonical : anchorStateIsCanonical checkpoint.state = true :=
          anchorStateIsCanonical_iff.2 (noncanonicalAnchor_eq_none.1 defects)
        have witnessed :
            validateOrdinalWitness checkpoint.state.latestAuditOrdinal
                checkpoint.latestEventDigest = true ↔
              (checkpoint.state.latestAuditOrdinal ≠ 0 ↔
                checkpoint.latestEventDigest.isSome = true) := by
          unfold validateOrdinalWitness
          cases checkpoint.latestEventDigest <;> simp
        rw [ensure_of canonical]
        by_cases held : validateOrdinalWitness
            checkpoint.state.latestAuditOrdinal
            checkpoint.latestEventDigest = true
        · rw [ensure_of held]
          simp only [ensure_of (witnessed.1 held)]
          exact .accepted checkpoint
        · have unheld := fun found => held (witnessed.2 found)
          simp only [ensure_eq_error.2 ⟨held, rfl⟩,
            ensure_eq_error.2 ⟨unheld, rfl⟩]
          exact .refused rfl

/-! ## The entity an event names -/

/-- An item is updated in place, when no other item has its key. -/
theorem set_eq_map {γ δ : Type} {key : γ → δ} {items : List γ}
    {index : Nat} {held : γ} {update : γ → γ}
    (distinct : (items.map key).Nodup) (found : items[index]? = some held)
    (others : ∀ item, key item ≠ key held → update item = item) :
    items.set index (update held) = items.map update := by
  induction items generalizing index with
  | nil => cases found
  | cons first rest inductionHypothesis =>
      rw [List.map_cons, List.nodup_cons] at distinct
      cases index with
      | zero =>
          cases found
          have kept : rest.map update = rest := by
            refine (List.map_congr_left fun item among => ?_).trans
              (List.map_id rest)
            refine others item fun same => distinct.1 ?_
            exact List.mem_map.2 ⟨item, among, same⟩
          rw [List.set_cons_zero, List.map_cons, kept]
      | succ index =>
          have among : held ∈ rest := List.mem_of_getElem? found
          have different : key first ≠ key held := fun same =>
            distinct.1 (List.mem_map.2 ⟨held, among, same.symm⟩)
          rw [List.set_cons_succ, List.map_cons, others first different,
            inductionHypothesis distinct.2 found]

/-- Both languages find the same simulated member, or refuse alike. -/
theorem simulatedTarget_sameVerdict (state : DashboardReducedState)
    (droneId : String) :
    SameVerdict ((simulatedTarget droneId state.fleet).map Prod.snd)
      (simulatedMember state droneId) := by
  unfold simulatedMember
  induction state.fleet with
  | nil => exact .refused rfl
  | cons first rest inductionHypothesis =>
      have later :
          ((simulatedTarget droneId rest).map fun found =>
              (found.1 + 1, found.2)).map Prod.snd =
            (simulatedTarget droneId rest).map Prod.snd := by
        cases simulatedTarget droneId rest <;> rfl
      cases first with
      | simulated member =>
          rw [simulatedTarget, List.find?_cons]
          by_cases same : member.identifier = droneId
          · simp only [same, FleetMember.identifier, decide_true, if_true]
            exact .accepted member
          · simp only [same, FleetMember.identifier, decide_false, if_false]
            rw [later]
            exact inductionHypothesis
      | declaredOnly declared =>
          rw [simulatedTarget, List.find?_cons]
          by_cases same : declared = droneId
          · simp only [same, FleetMember.identifier, decide_true, if_true]
            exact .refused rfl
          · simp only [same, FleetMember.identifier, decide_false, if_false]
            rw [later]
            exact inductionHypothesis

theorem mapSimulated_other {droneId : String} {member : FleetMember}
    {update : SimulatedFleetMember → SimulatedFleetMember}
    (other : member.identifier ≠ droneId) :
    mapSimulated droneId update member = member := by
  cases member with
  | simulated held => exact if_neg other
  | declaredOnly declared => rfl

/-- Both languages update the member that telemetry or a link names. -/
theorem applyMember_sameVerdict {state : DashboardReducedState}
    {droneId : String}
    {update : SimulatedFleetMember → SimulatedFleetMember}
    (canonical : CanonicalState state) :
    SameVerdict (reduceMember state droneId update)
      (applyMember state droneId update) := by
  have same := simulatedTarget_sameVerdict state droneId
  unfold reduceMember applyMember
  cases target : simulatedTarget droneId state.fleet with
  | error problem =>
      rw [target] at same
      cases verdict : simulatedMember state droneId with
      | error failure =>
          rw [verdict] at same
          cases same with
          | refused code => exact .refused code
      | ok member =>
          rw [verdict] at same
          nomatch same
  | ok found =>
      rcases found with ⟨index, member⟩
      rw [target] at same
      cases verdict : simulatedMember state droneId with
      | error failure =>
          rw [verdict] at same
          nomatch same
      | ok held =>
          rw [verdict] at same
          cases same
          have updated : state.fleet.set index (.simulated (update member)) =
              state.fleet.map (mapSimulated member.identifier update) := by
            have replaced :
                mapSimulated member.identifier update (.simulated member) =
                  .simulated (update member) := if_pos rfl
            rw [← replaced]
            exact set_eq_map (nodup_of_strictlySorted canonical.members)
              (simulatedTarget_eq_ok target).1 fun item other =>
                mapSimulated_other other
          simp only [bind, Except.bind, updated]
          exact .accepted _

/-- Both languages accept the same assignees. -/
theorem assignment_sameVerdict {state : DashboardReducedState}
    (canonical : CanonicalState state) (assignee : Option String)
    {problem : Problem} (code : problem.refusal = .invalidAssignee) :
    SameVerdict
      (ensure
        (∀ member ∈ assignee, simulatedAssignee state.fleet member = true)
        problem)
      (assignmentFailure state assignee) := by
  cases assignee with
  | none =>
      rw [ensure_of nofun]
      exact .accepted ()
  | some assigned =>
      have only : (∀ member ∈ some assigned,
          simulatedAssignee state.fleet member = true) ↔
            ∃ member, FleetMember.simulated member ∈ state.fleet ∧
              member.identifier = assigned := by
        simp only [Option.mem_def, Option.some.injEq, forall_eq']
        rw [simulatedAssignee, List.any_eq_true]
        constructor
        · rintro ⟨member, held, named⟩
          cases member with
          | simulated member => exact ⟨member, held, of_decide_eq_true named⟩
          | declaredOnly declared => cases named
        · rintro ⟨member, held, named⟩
          exact ⟨_, held, decide_eq_true named⟩
      dsimp only [assignmentFailure]
      cases found : state.fleet.find? fun member =>
          decide (member.identifier = assigned) with
      | none =>
          rw [List.find?_eq_none] at found
          have unassigned : ¬∀ member ∈ some assigned,
              simulatedAssignee state.fleet member = true := by
            rw [only]
            rintro ⟨member, held, named⟩
            exact found _ held (decide_eq_true named)
          rw [ensure_eq_error.2 ⟨unassigned, rfl⟩]
          dsimp only
          exact .refused code
      | some first =>
          have among := List.mem_of_find?_eq_some found
          have named : first.identifier = assigned :=
            of_decide_eq_true (@List.find?_some _
              (fun member : FleetMember =>
                decide (member.identifier = assigned)) _ _ found)
          cases first with
          | simulated member =>
              rw [ensure_of (only.2 ⟨member, among, named⟩)]
              exact .accepted ()
          | declaredOnly declared =>
              have unassigned : ¬∀ member ∈ some assigned,
                  simulatedAssignee state.fleet member = true := by
                rw [only]
                rintro ⟨member, held, same⟩
                have distinct := nodup_of_strictlySorted canonical.members
                have equal := List.inj_on_of_nodup_map distinct held among
                  (same.trans named.symm)
                cases equal
              rw [ensure_eq_error.2 ⟨unassigned, rfl⟩]
              dsimp only
              exact .refused code

/-- Both languages change the sector that an event names. -/
theorem applySector_sameVerdict {state : DashboardReducedState}
    (canonical : CanonicalState state) (mission : Mission)
    (sectorId : String) (sectorState : SectorState)
    (assignee : Option String) :
    SameVerdict
      (StateEvent.reduce (.sectorLifecycle sectorId sectorState assignee)
        state mission)
      (applySector state sectorId sectorState assignee) := by
  unfold applySector
  rw [StateEvent.reduce]
  cases found : state.sectors.find? fun sector =>
      decide (sector.identifier = sectorId) with
  | none =>
      have unknown : state.sectors.findIdx?
          (fun sector => sector.identifier = sectorId) = none := by
        rw [List.findIdx?_eq_none_iff]
        rw [List.find?_eq_none] at found
        intro sector held
        simpa using found sector held
      rw [sectorIndex, unknown]
      exact .refused rfl
  | some sector =>
      have among := List.mem_of_find?_eq_some found
      have named : sector.identifier = sectorId :=
        of_decide_eq_true (@List.find?_some _
          (fun sector : Sector => decide (sector.identifier = sectorId))
          _ _ found)
      cases located : sectorIndex sectorId state.sectors with
      | error problem =>
          have unknown := (present_eq_error.1 located).1
          rw [List.findIdx?_eq_none_iff] at unknown
          have other := unknown sector among
          rw [named] at other
          exact absurd rfl (of_decide_eq_false other)
      | ok index =>
          rcases sectorIndex_eq_ok located with ⟨held, stored, same⟩
          have changed :
              state.sectors.set index ⟨sectorId, sectorState, assignee⟩ =
                state.sectors.map fun item =>
                  if item.identifier = sector.identifier then
                    { item with
                      assignedMemberId := assignee, state := sectorState }
                  else item := by
            rw [← set_eq_map
              (nodup_of_strictlySorted canonical.sectors) stored]
            · rw [if_pos (same.trans named.symm), same]
            · intro item other
              rw [same, ← named] at other
              exact if_neg other
          refine SameVerdict.bind
            (assignment_sameVerdict canonical assignee rfl) fun _ _ => ?_
          rw [changed]
          exact .accepted _

/-- Both languages change a sound state alike. -/
theorem applyEvent_sameVerdict {state : DashboardReducedState}
    (canonical : CanonicalState state) (mission : Mission)
    (event : StateEvent) :
    SameVerdict (event.reduce state mission)
      (applyEvent state mission event) := by
  cases event with
  | timeline => exact .accepted state
  | missionLifecycle lifecycle => exact .accepted _
  | connectivity droneId link =>
      rw [StateEvent.reduce, applyEvent]
      exact applyMember_sameVerdict canonical
  | telemetry droneId reading =>
      rw [StateEvent.reduce, applyEvent]
      exact applyMember_sameVerdict canonical
  | sectorLifecycle sectorId sectorState assignee =>
      exact applySector_sameVerdict canonical mission sectorId sectorState
        assignee

/-- The browser's last sort leaves an applied state in place. -/
theorem finalizedState_applied {checkpoint : ReducerCheckpoint}
    {ordered : OrderedDashboardEvent} {event : StateEvent}
    {reduced : DashboardReducedState} {witness : String}
    (canonical : CanonicalState checkpoint.state)
    (applies : Applies host checkpoint ordered event reduced witness) :
    (⟨finalizedState reduced ordered.auditOrdinal, some witness⟩ :
        ReducerCheckpoint) =
      successor ordered reduced witness := by
  have after := applies.canonical canonical
  have fleet : sortedFleet reduced.fleet = reduced.fleet :=
    sorted_eq_self after.members
  have sectors : sortedSectors reduced.sectors = reduced.sectors :=
    sorted_eq_self after.sectors
  rw [finalizedState, fleet, sectors, successor]

/-! ## Hashing -/

/-- Python writes every value of an object that it writes. -/
theorem encodeJson_of_encodeObject {members : Json.Members}
    {text : List Char}
    (encoded : encodeObject host (encodeJsonMembers host members) =
      .ok text) :
    ∀ member ∈ members, ∃ part, encodeJson host member.2 = .ok part := by
  have keys : CanonicalKeys members := by
    by_contra other
    exact encodeObject_otherKey other text encoded
  rw [encodeObject_keys keys] at encoded
  simp only [bind_eq_ok] at encoded
  rcases encoded with ⟨parts, written, _⟩
  intro member among
  have sorted : member ∈ sortUnits members :=
    (List.mem_insertionSort _).2 among
  rcases mapM_ok_of_mem written sorted with ⟨_, accepted⟩
  simp only [bind_eq_ok] at accepted
  rcases accepted with ⟨_, _, part, encodes, _⟩
  exact ⟨part, encodes⟩

mutual

/-- Python writes no real. -/
theorem integersPlain_of_encodeJson :
    ∀ {value : Json} {text : List Char},
      encodeJson host value = .ok text → IntegersPlain value
  | .null, _, _ => trivial
  | .bool _, _, _ => trivial
  | .integer _ _, _, _ => trivial
  | .real _, _, encoded => nomatch encoded
  | .text _, _, _ => trivial
  | .array items, _, encoded => by
      rw [encodeJson, bind_eq_ok] at encoded
      rcases encoded with ⟨parts, written, _⟩
      exact itemsPlain_of_encodeJson written
  | .object members, _, encoded =>
      membersPlain_of_encodeJson (encodeJson_of_encodeObject encoded)

theorem itemsPlain_of_encodeJson :
    ∀ {items : List Json} {parts : List (List Char)},
      encodeJsonItems host items = .ok parts → ItemsPlain items
  | [], _, _ => trivial
  | item :: rest, _, encoded => by
      simp only [encodeJsonItems, bind_eq_ok] at encoded
      rcases encoded with ⟨first, written, others, follows, _⟩
      exact ⟨integersPlain_of_encodeJson written,
        itemsPlain_of_encodeJson follows⟩

theorem membersPlain_of_encodeJson :
    ∀ {members : Json.Members},
      (∀ member ∈ members, ∃ part,
        encodeJson host member.2 = .ok part) → MembersPlain members
  | [], _ => trivial
  | (key, value) :: rest, encoded => by
      rcases encoded (key, value) List.mem_cons_self with ⟨part, written⟩
      exact ⟨integersPlain_of_encodeJson written,
        membersPlain_of_encodeJson fun member among =>
          encoded member (List.mem_cons_of_mem _ among)⟩

end

/-- The document that the browser hashes for an ordered event. -/
def hashedDocument (number : String → Double)
    (ordered : OrderedDashboardEvent) : Json :=
  CanonicalText.orderedEventDocument
    (jsonOf number (.int ordered.auditOrdinal))
    (jsonOf number (eventDocument ordered.event))

/-- An event that the browser alone can hash: a real of it stands for a safe
integer. -/
def RealHashed (host : Host) (number : String → Double)
    (ordered : OrderedDashboardEvent) : Prop :=
  ¬IntegersPlain (jsonOf number (eventDocument ordered.event)) ∧
    (canonicalOctets host (hashedDocument number ordered)).isOk = true

/-- Python hashes what its encoder makes of the event's documents. -/
theorem orderedEventMaterial_jsonOf (ordered : OrderedDashboardEvent) :
    Agree
      (orderedEventMaterial host (jsonOf number (.int ordered.auditOrdinal))
        (jsonOf number (eventDocument ordered.event)))
      (material host .orderedDashboardEvent
        (View.orderedEventDocument ordered)) := by
  have wrapped : Json.object
      [ (asciiUnits "canonicalizationVersion", .integer false 1),
        (asciiUnits "auditOrdinal",
          jsonOf number (.int ordered.auditOrdinal)),
        (asciiUnits "event", jsonOf number (eventDocument ordered.event)) ] =
      jsonOf number (.object (View.orderedEventDocument ordered)) := by
    rfl
  intro bytes
  rw [orderedEventMaterial, coveredMaterial, wrapped, canonicalJson_jsonOf,
    material]
  simp only [bind_eq_ok, recast_eq_ok, pure_eq_ok]

/-- The browser covers the whole of a versioned document without a digest. -/
theorem digestMaterial_whole {context : DigestContext}
    {before rest : Json.Members}
    (names : ∀ name ∈ (before ++ rest).map Prod.fst,
      name ≠ asciiUnits "canonicalizationVersion" ∧
        name ≠ asciiUnits "digest") :
    digestMaterial host context (.object (before ++
        (asciiUnits "canonicalizationVersion", .integer false 1) :: rest)) =
      (do
        let document ← recast DigestRefusal.canonicalization
          (canonicalOctets host (.object (before ++
            (asciiUnits "canonicalizationVersion", .integer false 1) ::
              rest)))
        pure (digestPrefix context ++ document)) := by
  rw [List.forall_mem_map] at names
  have kept {members : Json.Members} (among : ∀ member ∈ members,
      member.1 ≠ asciiUnits "canonicalizationVersion")
      (start : Option Json) :
      members.foldl (fun version member =>
        if member.1 = asciiUnits "canonicalizationVersion" then
          some member.2
        else version) start = start := by
    induction members generalizing start with
    | nil => rfl
    | cons first others inductionHypothesis =>
        rw [List.forall_mem_cons] at among
        rw [List.foldl_cons, if_neg among.1, inductionHypothesis among.2]
  have version : isVersion (some (.integer false 1)) = true := by decide
  have other : asciiUnits "canonicalizationVersion" ≠
      asciiUnits "digest" := by decide
  have covered : (before ++
      (asciiUnits "canonicalizationVersion", Json.integer false 1) ::
        rest).filter (fun member =>
          decide (member.1 ≠ asciiUnits "digest")) =
      before ++ (asciiUnits "canonicalizationVersion", .integer false 1) ::
        rest := by
    rw [List.filter_eq_self]
    intro member among
    rw [decide_eq_true_eq]
    simp only [List.mem_append, List.mem_cons] at among names
    rcases among with earlier | rfl | later
    · exact (names member (.inl earlier)).2
    · exact other
    · exact (names member (.inr later)).2
  rw [digestMaterial, digestCoveredDocument, List.foldl_append,
    List.foldl_cons, if_pos rfl,
    kept fun member later => (names member
      (List.mem_append_right before later)).1, version, if_pos rfl, covered]
  rfl

/-- The browser covers the whole document of an ordered event. -/
theorem digestMaterial_hashed (ordered : OrderedDashboardEvent) :
    digestMaterial host .orderedDashboardEvent
        (hashedDocument number ordered) = (do
      let document ← recast DigestRefusal.canonicalization
        (canonicalOctets host (hashedDocument number ordered))
      pure (digestPrefix .orderedDashboardEvent ++ document)) := by
  refine @digestMaterial_whole host _
    [(asciiUnits "auditOrdinal", jsonOf number (.int ordered.auditOrdinal))]
    [(asciiUnits "event", jsonOf number (eventDocument ordered.event))] ?_
  change ∀ name ∈ [asciiUnits "auditOrdinal", asciiUnits "event"],
    name ≠ asciiUnits "canonicalizationVersion" ∧
      name ≠ asciiUnits "digest"
  decide

/-- What the browser's digest of an ordered event hashes. -/
theorem eventDigest_eq_ok {ordered : OrderedDashboardEvent}
    {found : String} :
    eventDigest host number (documentOf ordered) = .ok found ↔
      ∃ bytes,
        digestMaterial host .orderedDashboardEvent
            (hashedDocument number ordered) = .ok bytes ∧
          host.sha256 bytes = found := by
  change (digestMaterial host .orderedDashboardEvent
    (hashedDocument number ordered) >>= fun material =>
      pure (host.sha256 material)) = .ok found ↔ _
  simp only [bind_eq_ok, pure_eq_ok]

/-- Both languages give a plain event the same digest. -/
theorem digest_agrees {ordered : OrderedDashboardEvent}
    (plain : IntegersPlain (jsonOf number (eventDocument ordered.event))) :
    Agree (orderedEventDigest host ordered)
      (eventDigest host number (documentOf ordered)) := by
  have ordinal : IntegersPlain
      (jsonOf number (.int ordered.auditOrdinal)) := trivial
  intro found
  rw [orderedEventDigest_eq_ok, eventDigest_eq_ok]
  refine exists_congr fun bytes => and_congr_left fun _ => ?_
  exact ((orderedEventMaterial_jsonOf ordered bytes).symm.trans
    (orderedEvent_agrees ordinal plain bytes).symm)

/-- An event that Python hashes has no real. -/
theorem plain_of_orderedEventDigest {ordered : OrderedDashboardEvent}
    {found : String} (computed : orderedEventDigest host ordered = .ok found) :
    IntegersPlain (jsonOf number (eventDocument ordered.event)) := by
  rcases orderedEventDigest_eq_ok.1 computed with ⟨_, hashed, _⟩
  simp only [material, bind_eq_ok, canonicalBytes] at hashed
  rcases hashed with ⟨_, ⟨text, encoded, _⟩, _⟩
  rw [← @encodeJson_jsonOf host number] at encoded
  exact (integersPlain_of_encodeJson encoded).2.2.1

/-- Python hashes no event that only the browser hashes, and every other. -/
theorem realHashed_iff {ordered : OrderedDashboardEvent}
    {failure : DigestFailure}
    (raised : orderedEventDigest host ordered = .error failure) :
    (eventDigest host number (documentOf ordered)).isOk = true ↔
      RealHashed host number ordered := by
  have accepted : (eventDigest host number (documentOf ordered)).isOk = true ↔
      (canonicalOctets host (hashedDocument number ordered)).isOk = true := by
    simp only [isOk_eq_true, eventDigest_eq_ok, digestMaterial_hashed,
      bind_eq_ok, recast_eq_ok, pure_eq_ok]
    constructor
    · rintro ⟨_, _, ⟨octets, written, _⟩, _⟩
      exact ⟨octets, written⟩
    · rintro ⟨octets, written⟩
      exact ⟨_, _, ⟨octets, written, rfl⟩, rfl⟩
  rw [RealHashed, ← accepted]
  constructor
  · intro returned
    refine ⟨fun plain => ?_, returned⟩
    rcases isOk_eq_true.1 returned with ⟨found, computed⟩
    have also := (digest_agrees plain found).2 computed
    rw [raised] at also
    cases also
  · exact fun real => real.2

/-! ## Outcomes -/

/-- Two folds of one event come to the same: the same class of outcome, with
the same refusal code or the same checkpoint, or neither returns. -/
inductive SameOutcome :
    Except DigestFailure FoldOutcome → Except DigestRefusal FoldResult →
      Prop where
  | applied (next : ReducerCheckpoint) :
      SameOutcome (.ok (.applied next)) (.ok (.applied next))
  | duplicate (held other : ReducerCheckpoint) :
      SameOutcome (.ok (.duplicate held)) (.ok (.duplicate other))
  | refused {held other : ReducerCheckpoint} {problem : Problem}
      {failure : ReducerFailure} (code : problem.refusal = failure.code) :
      SameOutcome (.ok (.refused held problem))
        (.ok (.refused other failure))
  | raised (failure : DigestFailure) (refusal : DigestRefusal) :
      SameOutcome (.error failure) (.error refusal)

/-- Outcomes that agree on every digest agree unless one language alone can
hash the event. -/
theorem hashed_sameOutcome {ordered : OrderedDashboardEvent}
    (hexadecimal : HexadecimalDigests host)
    {outcome : String → Except DigestFailure FoldOutcome}
    {result : String → FoldResult}
    (agree : ∀ digest, orderedEventDigest host ordered = .ok digest →
      SameOutcome (outcome digest) (.ok (result digest))) :
    SameOutcome (orderedEventDigest host ordered >>= outcome)
        (eventDigest host number (documentOf ordered) >>= fun digest =>
          pure (result digest)) ↔
      ¬RealHashed host number ordered := by
  cases computed : orderedEventDigest host ordered with
  | ok digest =>
      have plain := @plain_of_orderedEventDigest host number _ _ computed
      rw [(digest_agrees plain digest).1 computed]
      exact iff_of_true (agree digest computed) fun real => real.1 plain
  | error failure =>
      rw [← realHashed_iff computed]
      cases other : eventDigest host number (documentOf ordered) with
      | error refusal =>
          exact iff_of_true (.raised failure refusal) Bool.false_ne_true
      | ok digest =>
          refine iff_of_false (fun same => ?_) fun unreal => unreal rfl
          nomatch same

/-! ## The contracts-owned fold past its preflight -/

section Preflight

variable {checkpoint : ReducerCheckpoint} {ordered : OrderedDashboardEvent}
  {event : StateEvent}

/-- An event at the current ordinal is compared with the one folded there. -/
theorem fold_current (hexadecimal : HexadecimalDigests host)
    (preflight : foldPreflight checkpoint ordered = .ok event)
    (current :
      ordered.auditOrdinal = checkpoint.state.latestAuditOrdinal) :
    foldOrderedEvent host checkpoint ordered none =
      orderedEventDigest host ordered >>= fun incoming =>
        .ok (if checkpoint.latestEventDigest = some incoming then
          .duplicate checkpoint
        else .refused checkpoint
          (ordinalProblem .ordinalDivergence ordered)) := by
  have anchored := checkAnchor_eq_ok.1 (foldPreflight_eq_ok.1 preflight).2
  rw [foldOrderedEvent, preflight]
  dsimp only
  rw [foldOrdinalControl, if_neg (by omega), if_pos current, witnesses]
  cases computed : orderedEventDigest host ordered with
  | error failure => rfl
  | ok incoming =>
      cases held : checkpoint.latestEventDigest with
      | none => rfl
      | some witness =>
          have ascii := isAscii_of_isDigest (anchored.1 witness held)
          have also := isAscii_of_isDigest
            (isDigest_of_orderedEventDigest hexadecimal computed)
          have compared : digestsMatch witness incoming =
              .ok (witness == incoming) := by
            rw [digestsMatch, ascii, also]
            rfl
          simp only [bind, Except.bind, compared]
          by_cases same : witness = incoming
          · simp only [same, beq_self_eq_true, if_true]
            rfl
          · have other : (witness == incoming) = false :=
              beq_eq_false_iff_ne.2 same
            simp only [other, Bool.false_eq_true, if_false,
              Option.some.injEq, same]
            rfl

/-- An event at the next ordinal is applied, once it can be hashed. -/
theorem fold_next (preflight : foldPreflight checkpoint ordered = .ok event)
    (next :
      ordered.auditOrdinal = checkpoint.state.latestAuditOrdinal + 1) :
    foldOrderedEvent host checkpoint ordered none =
      match reduceOrdered checkpoint ordered event with
      | .error problem => .ok (.refused checkpoint problem)
      | .ok reduced =>
          orderedEventDigest host ordered >>= fun witness =>
            .ok (.applied (successor ordered reduced witness)) := by
  rw [foldOrderedEvent, preflight]
  dsimp only
  rw [foldOrdinalControl_eq_none.2 next]
  rfl

/-- An event at another ordinal is refused. -/
theorem fold_elsewhere
    (preflight : foldPreflight checkpoint ordered = .ok event)
    (other : ordered.auditOrdinal ≠ checkpoint.state.latestAuditOrdinal)
    (gap :
      ordered.auditOrdinal ≠ checkpoint.state.latestAuditOrdinal + 1) :
    foldOrderedEvent host checkpoint ordered none =
      .ok (.refused checkpoint
        (ordinalProblem
          (if ordered.auditOrdinal < checkpoint.state.latestAuditOrdinal then
            .ordinalRegression
          else .ordinalGap) ordered)) := by
  rw [foldOrderedEvent, preflight]
  dsimp only
  rw [foldOrdinalControl, if_neg other, if_pos gap]
  split
  · rfl
  · rfl

theorem reduceOrdered_code {problem : Problem}
    (refused : reduceOrdered checkpoint ordered event = .error problem) :
    problem.refusal ≠ .eventData := by
  intro code
  unfold reduceOrdered at refused
  rcases bind_eq_error.1 refused with here | ⟨mission, _, rest⟩
  · rcases present_eq_error.1 here with ⟨_, rfl⟩
    cases code
  · rcases bind_eq_error.1 rest with mismatch | ⟨_, _, reduced⟩
    · rcases ensure_eq_error.1 mismatch with ⟨_, rfl⟩
      cases code
    · have blamed := reduce_target event _ _ problem reduced
      rw [Problem.From, code] at blamed
      cases blamed

/-- Past the boundary no refusal is about the event's data. -/
theorem fold_code (hexadecimal : HexadecimalDigests host)
    {held : ReducerCheckpoint} {problem : Problem}
    (valid : validateOrderedEventBoundary ordered = .ok event)
    (folded : foldOrderedEvent host checkpoint ordered none =
      .ok (.refused held problem)) :
    problem.refusal ≠ .eventData := by
  intro code
  cases preflight : foldPreflight checkpoint ordered with
  | error refused =>
      rw [foldOrderedEvent, preflight] at folded
      cases folded
      unfold foldPreflight at preflight
      rcases bind_eq_error.1 preflight with malformed | ⟨_, _, rest⟩
      · rw [valid] at malformed
        cases malformed
      · rcases bind_eq_error.1 rest with unanchored | ⟨_, _, returned⟩
        · have blamed := checkAnchor_anchor _ _ _ unanchored
          rw [Problem.From, code] at blamed
          cases blamed
        · cases returned
  | ok found =>
      by_cases current :
          ordered.auditOrdinal = checkpoint.state.latestAuditOrdinal
      · rw [fold_current hexadecimal preflight current] at folded
        rcases bind_eq_ok.1 folded with ⟨incoming, _, outcome⟩
        split at outcome
        · cases outcome
        · cases outcome
          cases code
      · by_cases next : ordered.auditOrdinal =
            checkpoint.state.latestAuditOrdinal + 1
        · rw [fold_next preflight next] at folded
          split at folded
          · rename_i refused reduction
            cases folded
            exact reduceOrdered_code reduction code
          · rcases bind_eq_ok.1 folded with ⟨_, _, outcome⟩
            cases outcome
        · rw [fold_elsewhere preflight current next] at folded
          cases folded
          split at code
          · cases code
          · cases code

/-- An event that fails its boundary is refused for that. -/
theorem fold_malformed {problem : Problem}
    (malformed : validateOrderedEventBoundary ordered = .error problem) :
    foldOrderedEvent host checkpoint ordered none =
      .ok (.refused checkpoint problem) := by
  rw [foldOrderedEvent, foldPreflight, malformed]
  rfl

theorem unhashed_of_malformed {problem : Problem}
    (malformed : validateOrderedEventBoundary ordered = .error problem) :
    ¬HashesEvent checkpoint ordered := by
  rintro ⟨found, preflight, _⟩
  rw [(foldPreflight_eq_ok.1 preflight).1] at malformed
  cases malformed

end Preflight

/-! ## The browser's fold past its boundary -/

section Bound

variable {checkpoint : ReducerCheckpoint} {document : Value}
  {bound : BoundEvent}

theorem applyEvent_code {state : DashboardReducedState} {mission : Mission}
    {event : StateEvent} {failure : ReducerFailure}
    (canonical : CanonicalState state)
    (refused : applyEvent state mission event = .error failure) :
    failure.code ≠ .eventData := by
  have same := applyEvent_sameVerdict canonical mission event
  rw [refused] at same
  generalize verdict : event.reduce state mission = reduction at same
  cases same with
  | refused code =>
      intro malformed
      have blamed := reduce_target event _ _ _ verdict
      rw [Problem.From, code, malformed] at blamed
      cases blamed

/-- Past the boundary the browser refuses no event for its data. -/
theorem foldBound_code {held : ReducerCheckpoint} {failure : ReducerFailure}
    (canonical : CanonicalState checkpoint.state)
    (folded : foldBound host number checkpoint document bound =
      .ok (.refused held failure)) :
    failure.code ≠ .eventData := by
  intro code
  unfold foldBound at folded
  dsimp only at folded
  split_ifs at folded with current earlier gap
  · rcases bind_eq_ok.1 folded with ⟨incoming, _, outcome⟩
    split at outcome
    · cases outcome
    · cases outcome
      cases code
  · cases folded
    cases code
  · cases folded
    cases code
  · split at folded
    · cases folded
      cases code
    · split_ifs at folded with mission
      · cases folded
        cases code
      · split at folded
        · rename_i refused
          cases folded
          exact applyEvent_code canonical refused code
        · rcases bind_eq_ok.1 folded with ⟨_, _, outcome⟩
          cases outcome

/-- An event at the current ordinal is compared with the one folded there. -/
theorem foldBound_current
    (current : bound.auditOrdinal = checkpoint.state.latestAuditOrdinal) :
    foldBound host number checkpoint document bound =
      eventDigest host number document >>= fun incoming =>
        pure (if checkpoint.latestEventDigest.any fun latest =>
            browserDigestMatches latest incoming then
          .duplicate checkpoint
        else .refused checkpoint
          (DomainReducer.failure .ordinalDivergence "auditOrdinal"
            (.int bound.auditOrdinal))) :=
  if_pos current

/-- An event at the next ordinal is applied, once it can be hashed. -/
theorem foldBound_next
    (next : bound.auditOrdinal =
      checkpoint.state.latestAuditOrdinal + 1) :
    foldBound host number checkpoint document bound =
      match checkpoint.state.currentMission with
      | none =>
          .ok (.refused checkpoint (DomainReducer.failure
            .missionUnprepared "currentMission" .null))
      | some mission =>
          if bound.mission ≠ mission.identifier then
            .ok (.refused checkpoint (DomainReducer.failure
              .missionMismatch "mission" (.text bound.mission)))
          else
            match applyEvent checkpoint.state mission bound.event with
            | .error refused => .ok (.refused checkpoint refused)
            | .ok applied =>
                eventDigest host number document >>= fun digest =>
                  pure (.applied
                    ⟨finalizedState applied bound.auditOrdinal,
                      some digest⟩) := by
  unfold foldBound
  dsimp only
  rw [if_neg (by omega), if_neg (by omega), if_neg (by omega)]
  rfl

/-- An event at another ordinal is refused. -/
theorem foldBound_elsewhere
    (other : bound.auditOrdinal ≠ checkpoint.state.latestAuditOrdinal)
    (gap :
      bound.auditOrdinal ≠ checkpoint.state.latestAuditOrdinal + 1) :
    foldBound host number checkpoint document bound =
      .ok (.refused checkpoint (DomainReducer.failure
        (if bound.auditOrdinal < checkpoint.state.latestAuditOrdinal then
          .ordinalRegression
        else .ordinalGap) "auditOrdinal" (.int bound.auditOrdinal))) := by
  unfold foldBound
  dsimp only
  rw [if_neg other]
  by_cases earlier :
      bound.auditOrdinal < checkpoint.state.latestAuditOrdinal
  · rw [if_pos earlier, if_pos earlier]
    rfl
  · rw [if_neg earlier, if_neg earlier, if_pos (by omega)]
    rfl

/-- Past its boundary the browser refuses no event for its data. -/
theorem foldOrderedDashboardEvent_code {held : ReducerCheckpoint}
    {failure : ReducerFailure}
    (valid : orderedEventBoundary number accepts document = .ok bound)
    (folded : foldOrderedDashboardEvent host number accepts checkpoint
      document = .ok (.refused held failure)) :
    failure.code ≠ .eventData := by
  have same := anchor_sameVerdict checkpoint
  rw [foldOrderedDashboardEvent, valid] at folded
  dsimp only at folded
  generalize browser : DomainReducer.checkpointFromAnchor checkpoint.state
    checkpoint.latestEventDigest = verdict at folded same
  cases anchored : checkAnchor checkpoint.state
      checkpoint.latestEventDigest with
  | ok _ =>
      rw [anchored] at same
      cases same
      exact foldBound_code (checkAnchor_eq_ok.1 anchored).2.1 folded
  | error problem =>
      rw [anchored] at same
      cases same with
      | refused code =>
          cases folded
          intro malformed
          have blamed := checkAnchor_anchor _ _ _ anchored
          rw [Problem.From, code, malformed] at blamed
          cases blamed

end Bound

/-! ## Parity -/

section Parity

variable {checkpoint : ReducerCheckpoint} {ordered : OrderedDashboardEvent}
  {event : StateEvent}

/-- The reducers change the state of a checkpoint alike. -/
theorem reduceOrdered_sameOutcome (hexadecimal : HexadecimalDigests host)
    (preflight : foldPreflight checkpoint ordered = .ok event)
    (next :
      ordered.auditOrdinal = checkpoint.state.latestAuditOrdinal + 1) :
    SameOutcome (foldOrderedEvent host checkpoint ordered none)
        (foldBound host number checkpoint (documentOf ordered)
          (boundEvent ordered event)) ↔
      ¬(HashesEvent checkpoint ordered ∧
        RealHashed host number ordered) := by
  have canonical :=
    (checkAnchor_eq_ok.1 (foldPreflight_eq_ok.1 preflight).2).2.1
  have refuses {problem : Problem} {failure : ReducerFailure}
      (reduction :
        reduceOrdered checkpoint ordered event = .error problem)
      (code : problem.refusal = failure.code) :
      SameOutcome (foldOrderedEvent host checkpoint ordered none)
          (.ok (.refused checkpoint failure)) ↔
        ¬(HashesEvent checkpoint ordered ∧
          RealHashed host number ordered) := by
    rw [fold_next preflight next, reduction]
    refine iff_of_true (.refused code) ?_
    rintro ⟨⟨found, also, current | ⟨_, reduces⟩⟩, _⟩
    · omega
    · rw [preflight] at also
      cases also
      rw [reduction] at reduces
      cases reduces
  have following : (boundEvent ordered event).auditOrdinal =
      checkpoint.state.latestAuditOrdinal + 1 := next
  rw [foldBound_next following]
  cases current : checkpoint.state.currentMission with
  | none =>
      have reduction : reduceOrdered checkpoint ordered event =
          .error ⟨.missionUnprepared, "mission", .value .null⟩ := by
        rw [reduceOrdered, current]
        rfl
      exact refuses reduction rfl
  | some mission =>
      dsimp only
      by_cases same : ordered.event.mission = mission.identifier
      · have kept : ¬(boundEvent ordered event).mission ≠
            mission.identifier := not_not.2 same
        rw [if_neg kept]
        have verdict := applyEvent_sameVerdict canonical mission event
        have reduction : reduceOrdered checkpoint ordered event =
            event.reduce checkpoint.state mission := by
          rw [reduceOrdered, current]
          simp only [present, bind, Except.bind, ensure_of same]
        change SameVerdict _
          (applyEvent checkpoint.state mission
            (boundEvent ordered event).event) at verdict
        generalize applied : applyEvent checkpoint.state mission
          (boundEvent ordered event).event = change at verdict ⊢
        generalize reduced : event.reduce checkpoint.state mission =
          result at verdict
        rw [reduced] at reduction
        cases verdict with
        | refused code => exact refuses reduction code
        | accepted state =>
            have hashes : HashesEvent checkpoint ordered :=
              ⟨event, preflight, .inr ⟨next, by rw [reduction]; rfl⟩⟩
            rw [fold_next preflight next, reduction]
            dsimp only
            rw [hashed_sameOutcome hexadecimal]
            · exact ⟨fun unreal both => unreal both.2,
                fun neither real => neither ⟨hashes, real⟩⟩
            · intro witness computed
              have final := finalizedState_applied canonical
                ⟨preflight, next, reduction, computed⟩
              change SameOutcome _ (.ok (.applied
                ⟨finalizedState state ordered.auditOrdinal, some witness⟩))
              rw [final]
              exact .applied _
      · have moved : (boundEvent ordered event).mission ≠
            mission.identifier := same
        rw [if_pos moved]
        have reduction : reduceOrdered checkpoint ordered event =
            .error ⟨.missionMismatch, "mission",
              .value (.text ordered.event.mission)⟩ := by
          rw [reduceOrdered, current]
          simp only [present, bind, Except.bind,
            ensure_eq_error.2 ⟨same, rfl⟩]
        exact refuses reduction rfl

/-- Past both boundaries the folds come to the same, unless one language
alone can hash the event. -/
theorem bound_sameOutcome (hexadecimal : HexadecimalDigests host)
    (preflight : foldPreflight checkpoint ordered = .ok event) :
    SameOutcome (foldOrderedEvent host checkpoint ordered none)
        (foldBound host number checkpoint (documentOf ordered)
          (boundEvent ordered event)) ↔
      ¬(HashesEvent checkpoint ordered ∧
        RealHashed host number ordered) := by
  have anchored := checkAnchor_eq_ok.1 (foldPreflight_eq_ok.1 preflight).2
  by_cases current :
      ordered.auditOrdinal = checkpoint.state.latestAuditOrdinal
  · have hashes : HashesEvent checkpoint ordered :=
      ⟨event, preflight, .inl current⟩
    have also : (boundEvent ordered event).auditOrdinal =
        checkpoint.state.latestAuditOrdinal := current
    rw [fold_current hexadecimal preflight current,
      foldBound_current also, hashed_sameOutcome hexadecimal]
    · exact ⟨fun unreal both => unreal both.2,
        fun neither real => neither ⟨hashes, real⟩⟩
    · intro incoming computed
      have formed := isDigest_of_orderedEventDigest hexadecimal computed
      have compared :
          (checkpoint.latestEventDigest.any fun latest =>
              browserDigestMatches latest incoming) = true ↔
            checkpoint.latestEventDigest = some incoming := by
        cases held : checkpoint.latestEventDigest with
        | none => simp
        | some latest =>
            have form := anchored.1 latest held
            simp [browserDigestMatches, form, formed]
      by_cases same : checkpoint.latestEventDigest = some incoming
      · rw [if_pos same, if_pos (compared.2 same)]
        exact .duplicate _ _
      · rw [if_neg same, if_neg fun held => same (compared.1 held)]
        exact .refused rfl
  · by_cases next :
        ordered.auditOrdinal = checkpoint.state.latestAuditOrdinal + 1
    · exact reduceOrdered_sameOutcome hexadecimal preflight next
    · have other : (boundEvent ordered event).auditOrdinal ≠
          checkpoint.state.latestAuditOrdinal := current
      have gap : (boundEvent ordered event).auditOrdinal ≠
          checkpoint.state.latestAuditOrdinal + 1 := next
      rw [fold_elsewhere preflight current next,
        foldBound_elsewhere other gap]
      refine iff_of_true (.refused rfl) ?_
      · rintro ⟨⟨_, _, here | ⟨following, _⟩⟩, _⟩
        · exact current here
        · exact next following

/-- An event on which the boundaries part has two outcomes. -/
theorem parted_otherOutcome (hexadecimal : HexadecimalDigests host)
    (distinct : (Value.keys ordered.event.data).Nodup)
    (divides : Divides number accepts ordered) :
    ¬SameOutcome (foldOrderedEvent host checkpoint ordered none)
      (foldOrderedDashboardEvent host number accepts checkpoint
        (documentOf ordered)) := by
  intro same
  have parted := boundary_parted distinct divides
  generalize contracts : validateOrderedEventBoundary ordered = verdict
    at parted
  generalize browser : orderedEventBoundary number accepts
    (documentOf ordered) = other at parted
  cases parted with
  | browserAccepts malformed =>
      rw [fold_malformed contracts] at same
      generalize folded : foldOrderedDashboardEvent host number accepts
        checkpoint (documentOf ordered) = result at same
      cases same with
      | refused code =>
          exact foldOrderedDashboardEvent_code browser folded
            (code.symm.trans malformed)
  | contractsAccept malformed =>
      rw [foldOrderedDashboardEvent, browser] at same
      generalize folded : foldOrderedEvent host checkpoint ordered none =
        outcome at same
      cases same with
      | refused code =>
          exact fold_code hexadecimal contracts folded
            (code.trans malformed)
  | codes differ =>
      rw [fold_malformed contracts, foldOrderedDashboardEvent,
        browser] at same
      cases same with
      | refused code => exact differ code

/-- An event with one verdict at the boundaries has one outcome, unless one
language alone can hash it. -/
theorem united_sameOutcome (hexadecimal : HexadecimalDigests host)
    (verdicts : SameVerdict
      ((validateOrderedEventBoundary ordered).map (boundEvent ordered))
      (orderedEventBoundary number accepts (documentOf ordered))) :
    SameOutcome (foldOrderedEvent host checkpoint ordered none)
        (foldOrderedDashboardEvent host number accepts checkpoint
          (documentOf ordered)) ↔
      ¬(HashesEvent checkpoint ordered ∧
        RealHashed host number ordered) := by
  rw [foldOrderedDashboardEvent]
  generalize orderedEventBoundary number accepts (documentOf ordered) =
    browser at verdicts ⊢
  cases contracts : validateOrderedEventBoundary ordered with
  | error problem =>
      rw [contracts] at verdicts
      cases verdicts with
      | refused code =>
          rw [fold_malformed contracts]
          exact iff_of_true (.refused code) fun both =>
            unhashed_of_malformed contracts both.1
  | ok event =>
      rw [contracts] at verdicts
      cases verdicts
      have anchors := anchor_sameVerdict checkpoint
      dsimp only
      generalize DomainReducer.checkpointFromAnchor checkpoint.state
        checkpoint.latestEventDigest = anchor at anchors ⊢
      cases anchored : checkAnchor checkpoint.state
          checkpoint.latestEventDigest with
      | ok _ =>
          rw [anchored] at anchors
          cases anchors
          exact bound_sameOutcome hexadecimal
            (foldPreflight_eq_ok.2 ⟨contracts, anchored⟩)
      | error problem =>
          have preflight :
              foldPreflight checkpoint ordered = .error problem := by
            rw [foldPreflight, contracts]
            simp only [bind, Except.bind, anchored]
          rw [anchored] at anchors
          rw [foldOrderedEvent, preflight]
          cases anchors with
          | refused code =>
              refine iff_of_true (.refused code) ?_
              rintro ⟨⟨_, also, _⟩, _⟩
              rw [preflight] at also
              cases also

end Parity

/-- A runtime whose every digest is zero. -/
def zeroHost : Host :=
  composingHost fun _ => String.ofList (List.replicate 64 '0')

theorem zeroHost_hexadecimal : HexadecimalDigests zeroHost := by
  intro bytes
  change isDigest (String.ofList (List.replicate 64 '0')) = true
  decide

/-- An unassigned sector whose event names an assignee that is no identifier. -/
def foreignSector : OrderedDashboardEvent where
  auditOrdinal := 1
  event :=
    { kind := "sectorLifecycle"
      eventClass := .mission
      mission := "mission-1"
      time := "2026-01-01T00:00:00.000Z"
      data :=
        [ ("sectorId", .text "sector-1"),
          ("state", .text "UNASSIGNED"),
          ("assignedMemberId", .text "Not An Identifier") ] }

/-- The first event of a mission: its search begins. -/
def searching : OrderedDashboardEvent where
  auditOrdinal := 1
  event :=
    { kind := "missionLifecycle"
      eventClass := .mission
      mission := "mission-1"
      time := "2026-01-01T00:00:00.000Z"
      data := [("lifecycle", .text "SEARCHING")] }

end AerialRescue.Dashboard.ReducerParity
