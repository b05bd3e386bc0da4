import AerialRescue.Contracts.InstantCodec
import AerialRescue.Gateway.Service
import AerialRescue.Lib.Run
import AerialRescue.Store.Decisions

/-!
# The lifetime of an approval

An approval is issued by one process and consumed by another, whose monotonic
clock has its own origin.  Binding an approval writes down where its issue
falls on the gateway's own clock; the authority is then never changed, so what
is consumed later was issued less than one lifetime ago on both clocks, up to
the millisecond that is floored away when it is bound.
-/

namespace AerialRescue.Gateway

open AerialRescue.Contracts
open AerialRescue.Contracts.Canonical
open AerialRescue.Contracts.Instant
open AerialRescue.Domain.Approvals
open AerialRescue.Gateway.Ingress
open AerialRescue.Lib
open AerialRescue.Lib.Guard
open AerialRescue.Lib.Run
open AerialRescue.Lib.Transaction
open AerialRescue.Store

/-- A binding with the authority of one gateway epoch. -/
def boundTo (authority : StoredApprovalAuthority)
    (row : StoredApprovalBinding) : StoredApprovalBinding :=
  { row with authority := some authority }

theorem boundTo_approvalId (authority : StoredApprovalAuthority)
    (row : StoredApprovalBinding) :
    (boundTo authority row).approvalId = row.approvalId :=
  rfl

/-- The authority places the issue of an approval on the clock it was read by. -/
structure Rebased (row : StoredApproval) (clock : AuthorizationClock)
    (held : StoredApprovalAuthority) (issued : DateTime) : Prop where
  parsed : parseInstant row.issuedWall = .ok issued
  epoch : held.runtimeEpoch = clock.runtimeEpoch
  reading :
    held.issuedMonotonicMilliseconds =
      clock.reading.monotonic / 1000 -
        issued.elapsed clock.reading.wall.floored / 1000

/-- What verifying one approval event does to approvals and bindings. -/
inductive ApprovalEffect (host : Host) (clock : AuthorizationClock)
    (before after : Database) : Prop where
  | unchanged (approvals : after.approvals = before.approvals)
      (bindings : after.bindings = before.bindings)
  | binds (approvalId : String) (pair : StoredAuthorizationApproval)
      (persisted : PersistedBinding) (authority : StoredApprovalAuthority)
      (found : before.bindings.find? approvalId = some pair.binding)
      (free : pair.binding.authority = none)
      (approval :
        before.approvals.find? pair.binding.proposalId = some pair.approval)
      (mapped : mapApprovalBinding host pair = .ok persisted)
      (rebased : rebasedAuthority persisted clock = .ok authority)
      (approvals : after.approvals = before.approvals)
      (bindings :
        after.bindings =
          before.bindings.amend approvalId (boundTo authority)
            (boundTo_approvalId authority))

/-- Issue instants, lifetimes and authorities outlive a change. -/
structure LifetimeKept (before after : Database) : Prop where
  approvals : ∀ proposalId row,
    before.approvals.find? proposalId = some row →
      ∃ next, after.approvals.find? proposalId = some next ∧
        next.issuedWall = row.issuedWall ∧
        next.timeToLiveMilliseconds = row.timeToLiveMilliseconds
  bindings : ∀ approvalId row held,
    before.bindings.find? approvalId = some row →
      row.authority = some held →
        after.bindings.find? approvalId = some row

variable {host : Host}

/-! ## Binding -/

theorem bindAuthority_cases {approvalId : String}
    {authority : StoredApprovalAuthority} {before after : Database}
    {decision : ApprovalAuthorityDecision}
    (bound :
      exec (bindAuthority approvalId authority) before =
        (.ok decision, after)) :
    ∃ row, before.bindings.find? approvalId = some row ∧
      (row.authority = none ∧
          after =
            { before with
              bindings :=
                before.bindings.amend approvalId (boundTo authority)
                  (boundTo_approvalId authority) } ∨
        after = before) := by
  simp only [bindAuthority, exec_bind_eq_ok, exec_require_eq_ok, exec_read,
    exec_demand_eq_ok, Prod.mk.injEq, Except.ok.injEq] at bound
  rcases bound with
    ⟨_, _, ⟨_, rfl⟩, _, _, ⟨rfl, rfl⟩, row, _, ⟨found, rfl⟩, rest⟩
  refine ⟨row, found, ?_⟩
  split at rest
  · next free =>
      simp only [exec_bind_eq_ok, exec_write, exec_pure, Prod.mk.injEq,
        Except.ok.injEq] at rest
      rcases rest with ⟨_, _, ⟨_, rfl⟩, _, rfl⟩
      exact Or.inl ⟨free, rfl⟩
  · simp only [readableBinding, exec_bind_eq_ok, exec_require_eq_ok,
      exec_pure, exec_ite, Prod.mk.injEq, Except.ok.injEq] at rest
    rcases rest with ⟨_, _, ⟨_, _, ⟨_, rfl⟩, _, rfl⟩, settled⟩
    split at settled <;>
      · simp only [Prod.mk.injEq] at settled
        exact Or.inr settled.2.symm

theorem verifyNewClaim_effect {ingress : OperatorApprovalIngress}
    {clock : AuthorizationClock} {before after : Database}
    {outcome : ApprovalIngressOutcome}
    (verified :
      exec (verifyNewClaim host ingress clock) before =
        (.ok outcome, after)) :
    ApprovalEffect host clock before after := by
  simp only [verifyNewClaim, loadPersistedBinding, exec_bind_eq_ok,
    exec_rethrow_eq_ok, exec_lift_eq_ok, exec_ite] at verified
  rcases verified with ⟨persisted, _, ⟨pair, _, loaded, mapped, rfl⟩, rest⟩
  rcases loadBinding_ok.1 loaded with ⟨found, _, approval, rfl⟩
  split at rest
  · simp only [exec_pure, Prod.mk.injEq] at rest
    rw [← rest.2]
    exact .unchanged rfl rfl
  · split at rest
    · simp only [exec_pure, Prod.mk.injEq] at rest
      rw [← rest.2]
      exact .unchanged rfl rfl
    · next authority rebased =>
        simp only [exec_bind_eq_ok, exec_rethrow_eq_ok, exec_pure,
          Prod.mk.injEq] at rest
        rcases rest with ⟨_, _, bound, _, rfl⟩
        rcases bindAuthority_cases bound with
          ⟨row, again, ⟨free, rfl⟩ | rfl⟩
        · rw [found] at again
          cases again
          exact .binds _ pair persisted authority found free approval mapped
            rebased rfl rfl
        · exact .unchanged rfl rfl

theorem operatorApprovalBody_effect {ingress : OperatorApprovalIngress}
    {identity : InboxIdentity} {clock : AuthorizationClock}
    {before after : Database} {result : ApprovalIngressResult}
    (returned :
      exec (operatorApprovalBody host ingress identity clock) before =
        (.ok result, after)) :
    ApprovalEffect host clock before after := by
  simp only [operatorApprovalBody, exec_bind_eq_ok,
    exec_rethrow_eq_ok] at returned
  rcases returned with ⟨claim, _, claimed, answered⟩
  rcases claimInbox_ok claimed with
    ⟨rfl, inbox, inserted, rfl⟩ | ⟨_, _, _, rfl, rfl, _⟩
  · simp only [answerApproval, exec_bind_eq_ok, exec_rethrow_eq_ok,
      exec_lift_eq_ok, exec_pure, Prod.mk.injEq] at answered
    rcases answered with ⟨_, _, verified, _, _, ⟨_, rfl⟩, _, _, completed,
      _, rfl⟩
    rcases completeInbox_ok completed with ⟨_, _, _, _, rfl⟩
    cases verifyNewClaim_effect verified with
    | unchanged approvals bindings => exact .unchanged approvals bindings
    | binds approvalId pair persisted authority found free approval mapped
        rebased approvals bindings =>
        exact .binds approvalId pair persisted authority found free approval
          mapped rebased approvals bindings
  · simp only [answerApproval, exec_bind_eq_ok, exec_demand_eq_ok,
      exec_pure, Prod.mk.injEq] at answered
    rcases answered with ⟨_, _, ⟨_, rfl⟩, _, rfl⟩
    exact .unchanged rfl rfl

/-- A handled approval event binds at most one unbound decision. -/
theorem handleOperatorApproval_effect (observedAt : String)
    (settlement : SettlementPort) (delivery : GuaranteedDelivery)
    (clock : AuthorizationClock) (before : World) :
    ApprovalEffect host clock before.database
      (exec (handleOperatorApproval host observedAt settlement delivery
        clock) before).2.database := by
  unfold handleOperatorApproval
  rcases handleDelivery_database host approvalRefusalChannel
      (.approvalIngress .ingressKind) operatorApproval?
      (fun payload => payload.missionId)
      (fun ingress identity =>
        operatorApprovalBody host ingress identity clock)
      observedAt settlement delivery before with
    same | ⟨_, _, _, _, _, _, _, returned⟩
  · rw [same]
    exact .unchanged rfl rfl
  · exact operatorApprovalBody_effect returned

/-- What was computed when an approval was bound, from its stored row. -/
theorem rebasedAuthority_ok {pair : StoredAuthorizationApproval}
    {persisted : PersistedBinding} {clock : AuthorizationClock}
    {authority : StoredApprovalAuthority}
    (maps : mapApprovalBinding host pair = .ok persisted)
    (rebases : rebasedAuthority persisted clock = .ok authority) :
    ∃ issued, Rebased pair.approval clock authority issued := by
  simp only [mapApprovalBinding, bind_eq_ok, pure_eq_ok] at maps
  rcases maps with ⟨mapped, maps, _, _, rfl⟩
  have parsed := (mapApproval_ok maps).2.2.2.2.2.1
  have spelled := (parseInstant_eq_ok.1 parsed).1
  simp only [rebasedAuthority, rebaseInstants, spelled, parsed,
    parseInstant_formatInstant, bind_eq_ok, present_eq_ok, ensure_eq_ok,
    exists_const, pure_eq_ok] at rebases
  rcases rebases with ⟨⟨issued, current⟩, same, _, _, _, _, rfl⟩
  cases same
  exact ⟨_, parsed, rfl, rfl⟩

/-- An authority that one event added was rebased by it. -/
theorem ApprovalEffect.rebased {clock : AuthorizationClock}
    {before after : Database} (effect : ApprovalEffect host clock before after)
    {approvalId : String} {row next : StoredApprovalBinding}
    {held : StoredApprovalAuthority}
    (found : before.bindings.find? approvalId = some row)
    (free : row.authority = none)
    (added : after.bindings.find? approvalId = some next)
    (holds : next.authority = some held) :
    ∃ approval issued,
      after.approvals.find? next.proposalId = some approval ∧
        Rebased approval clock held issued := by
  cases effect with
  | unchanged approvals bindings =>
      rw [bindings, found] at added
      cases added
      rw [free] at holds
      cases holds
  | binds bound pair persisted authority known unbound approval mapped
      rebased approvals bindings =>
      rw [bindings, Table.find?_amend, found] at added
      split at added
      · next same =>
          subst same
          rw [found] at known
          cases known
          cases added
          cases holds
          rcases rebasedAuthority_ok mapped rebased with ⟨issued, placed⟩
          refine ⟨pair.approval, issued, ?_, placed⟩
          rw [approvals]
          exact approval
      · cases added
        rw [free] at holds
        cases holds

/-! ## What every step keeps -/

theorem LifetimeKept.of_eq {before after : Database}
    (approvals : after.approvals = before.approvals)
    (bindings : after.bindings = before.bindings) :
    LifetimeKept before after where
  approvals := fun proposalId row found => by
    rw [approvals]
    exact ⟨row, found, rfl, rfl⟩
  bindings := fun approvalId row held found _ => by
    rw [bindings]
    exact found

theorem LifetimeKept.trans {before middle after : Database}
    (first : LifetimeKept before middle)
    (second : LifetimeKept middle after) : LifetimeKept before after where
  approvals := fun proposalId row found => by
    rcases first.approvals proposalId row found with
      ⟨next, nextFound, wall, lifetime⟩
    rcases second.approvals proposalId next nextFound with
      ⟨last, lastFound, lastWall, lastLifetime⟩
    exact ⟨last, lastFound, lastWall.trans wall,
      lastLifetime.trans lifetime⟩
  bindings := fun approvalId row held found authority =>
    second.bindings approvalId row held
      (first.bindings approvalId row held found authority) authority

/-- An event binds only a decision that had no authority. -/
theorem ApprovalEffect.kept {clock : AuthorizationClock}
    {before after : Database}
    (effect : ApprovalEffect host clock before after) :
    LifetimeKept before after := by
  cases effect with
  | unchanged approvals bindings => exact .of_eq approvals bindings
  | binds bound pair persisted authority known free approval mapped rebased
      approvals bindings =>
      refine
        { approvals := fun proposalId row found => ?_
          bindings := fun approvalId row held found holds => ?_ }
      · rw [approvals]
        exact ⟨row, found, rfl, rfl⟩
      rw [bindings, Table.find?_amend_of_ne]
      · exact found
      · rintro rfl
        rw [known] at found
        cases found
        rw [free] at holds
        cases holds

/-- Consuming an approval changes its state and nothing else. -/
theorem approvalsAfter_kept (before : Database) (decision : Decision)
    {proposalId : String} {row : StoredApproval}
    (found : before.approvals.find? proposalId = some row) :
    ∃ next, (approvalsAfter before decision).find? proposalId = some next ∧
      next.issuedWall = row.issuedWall ∧
      next.timeToLiveMilliseconds = row.timeToLiveMilliseconds := by
  unfold approvalsAfter
  cases decision.approval with
  | none => exact ⟨row, found, rfl, rfl⟩
  | some bound =>
      rw [Option.elim_some, executeApproval_find?, found]
      split
      · exact ⟨_, rfl, rfl, rfl⟩
      · exact ⟨row, rfl, rfl, rfl⟩

theorem Committed.kept {before after : Database}
    {ingress : OperatorCommandIngress} {identity : InboxIdentity}
    {stamp : AuthorizationStamp} {now : AuthorizationClock}
    {result : AuthorizationResult}
    (committed :
      Committed host before after ingress identity stamp now result) :
    LifetimeKept before after := by
  cases committed with
  | redelivery _ _ _ _ _ _ unchanged =>
      rw [unchanged]
      exact .of_eq rfl rfl
  | prior _ _ frame _ =>
      rw [frame]
      exact .of_eq rfl rfl
  | decided _ decision _ _ _ written =>
      refine
        { approvals := fun proposalId row found => ?_
          bindings := fun approvalId row held found _ => ?_ }
      · rw [written.approvals]
        exact approvalsAfter_kept before decision found
      · rw [written.frame]
        exact found

theorem routeGuaranteed_kept (channel : String)
    (delivery : GuaranteedDelivery) (turn : Turn)
    (settlement : SettlementPort) (before : World) :
    LifetimeKept before.database
      (exec (routeGuaranteed host channel delivery turn settlement)
        before).2.database := by
  unfold routeGuaranteed
  split
  · rw [exec_bind_database rfl]
    rcases handleOperatorCommand_database turn.observedAt settlement
        delivery turn.stamp turn.clock before with
      same | ⟨ingress, identity, result, _, _, committed⟩
    · rw [same]
      exact .of_eq rfl rfl
    · exact committed.kept
  · split
    · rw [exec_bind_database rfl]
      exact (handleOperatorApproval_effect turn.observedAt settlement
        delivery turn.clock before).kept
    · split
      · rw [exec_bind_database rfl]
        rcases handleCommandResult_database turn.observedAt settlement
            delivery before with same | moved
        · rw [same]
          exact .of_eq rfl rfl
        · rw [moved.frame]
          exact .of_eq rfl rfl
      · exact .of_eq rfl rfl

theorem gatewayStep_kept (before : World) (step : GatewayStep) :
    LifetimeKept before.database (gatewayStep host before step).database := by
  have published {after : Database}
      (only : PublicationOnly before.database after) :
      LifetimeKept before.database after := by
    rw [only.frame]
    exact .of_eq rfl rfl
  cases step with
  | dispatch channel delivery turn settlement =>
      simp only [gatewayStep, dispatchGuaranteed_database]
      exact routeGuaranteed_kept channel delivery turn settlement before
  | publishApplication answers confirmedAt =>
      exact published
        (publishApplicationBatch_respects host answers confirmedAt before)
  | publishCommands answers confirmedAt =>
      exact published
        (publishBatch_respects host answers confirmedAt before)
  | reconcile row evidence confirmedAt =>
      exact published
        (reconcilePublication_respects row evidence confirmedAt before)

/-! ## Runs -/

/-- A turn of a gateway, or a decision that the dashboard records. -/
inductive LifetimeStep where
  | serve (step : GatewayStep)
  | decide (approval : StoredApproval) (binding : StoredApprovalBinding)

/-- The world after one step; a refused decision is rolled back. -/
def lifetimeStep (host : Host) (world : World) : LifetimeStep → World
  | .serve step => gatewayStep host world step
  | .decide approval binding =>
      match recordDecision approval binding world.database with
      | .ok database => { world with database }
      | .error _ => world

theorem lifetimeStep_kept (before : World) (step : LifetimeStep) :
    LifetimeKept before.database
      (lifetimeStep host before step).database := by
  cases step with
  | serve step => exact gatewayStep_kept before step
  | decide approval binding =>
      cases recorded : recordDecision approval binding before.database with
      | error refusal =>
          simp only [lifetimeStep, recorded]
          exact .of_eq rfl rfl
      | ok after =>
          simp only [lifetimeStep, recorded]
          rcases recordDecision_ok recorded with ⟨approvals, bindings⟩
          exact
            { approvals := fun _ row found =>
                ⟨row, Table.find?_of_grown approvals found, rfl, rfl⟩
              bindings := fun _ _ _ found _ =>
                Table.find?_of_grown bindings found }

theorem run_kept (start : World) (steps : List LifetimeStep) :
    LifetimeKept start.database
      (run (lifetimeStep host) start steps).database := by
  induction steps generalizing start with
  | nil => exact .of_eq rfl rfl
  | cons step rest inductionHypothesis =>
      rw [run_cons]
      exact (lifetimeStep_kept start step).trans (inductionHypothesis _)

/-! ## Consumption -/

/-- The bound authority under which an approval is consumed at a reading. -/
structure LiveAuthority (pair : StoredAuthorizationApproval)
    (now : AuthorizationClock) (held : StoredApprovalAuthority)
    (issued : DateTime) : Prop where
  authority : pair.binding.authority = some held
  epoch : held.runtimeEpoch = now.runtimeEpoch
  parsed : parseInstant pair.approval.issuedWall = .ok issued
  wall :
    0 ≤ issued.elapsed now.reading.wall ∧
      issued.elapsed now.reading.wall <
        pair.approval.timeToLiveMilliseconds * 1000
  monotonic :
    0 ≤ now.reading.monotonic - held.issuedMonotonicMilliseconds * 1000 ∧
      now.reading.monotonic - held.issuedMonotonicMilliseconds * 1000 <
        pair.approval.timeToLiveMilliseconds * 1000

/-- What is consumed was bound in this epoch and is live on both clocks. -/
theorem consumeBoundApproval_consumable {pair : StoredAuthorizationApproval}
    {bound consumed : BoundApproval} {stored : StoredProposal}
    {payload : Option Value.Members} {now : AuthorizationClock}
    (maps : mapAuthorizationApproval host pair = .ok bound)
    (consumes :
      consumeBoundApproval host bound stored payload now =
        .ok (.ok consumed)) :
    ∃ held issued, LiveAuthority pair now held issued := by
  rcases mapAuthorizationApproval_ok maps with
    ⟨mapped, _, _, _, _, _, _, epoch⟩
  rcases mapApproval_ok mapped with
    ⟨_, _, _, _, _, parsed, monotonic, lifetime⟩
  unfold consumeBoundApproval at consumes
  split at consumes
  · cases consumes
  · next sameEpoch =>
      dsimp only at consumes
      split at consumes
      · next approval succeeded =>
          rcases consume_ok succeeded with ⟨approved, _, _, _, live, _⟩
          have named : bound.runtimeEpoch = some now.runtimeEpoch :=
            by_contra fun other => sameEpoch ⟨approved, other⟩
          rw [epoch] at named
          unfold Approval.Live Approval.wallElapsed
            Approval.monotonicElapsed at live
          rw [monotonic, lifetime] at live
          cases held : pair.binding.authority with
          | none =>
              rw [held] at named
              cases named
          | some authority =>
              rw [held, Option.map_some, Option.some.injEq] at named
              rw [issuedMonotonic, held, Option.elim_some] at live
              exact ⟨authority, _, held, named, parsed, live.1, live.2⟩
      · cases consumes
      · cases consumes

/-- Flooring drops what is left over of the last millisecond. -/
theorem microseconds_floored (value : DateTime) :
    value.floored.microseconds =
      value.microseconds - value.microseconds % 1000 := by
  simp only [DateTime.microseconds, DateTime.floored]
  omega

theorem microseconds_whole {value : DateTime}
    (whole : value.microsecond % 1000 = 0) :
    value.microseconds % 1000 = 0 := by
  simp only [DateTime.microseconds]
  omega

/-- Both floors together hide less than one millisecond. -/
theorem age_lt {issued wall bound now lifetime : Int}
    (whole : issued % 1000 = 0)
    (live :
      now - (bound / 1000 - (wall - wall % 1000 - issued) / 1000) * 1000 <
        lifetime) :
    wall - issued + (now - bound) < lifetime + 1000 := by
  omega

/-- The age at binding and the time since then, up to one millisecond. -/
theorem Rebased.age {row : StoredApproval} {clock : AuthorizationClock}
    {held : StoredApprovalAuthority} {issued : DateTime}
    {monotonic lifetime : Duration}
    (rebased : Rebased row clock held issued)
    (live :
      monotonic - held.issuedMonotonicMilliseconds * 1000 < lifetime) :
    issued.elapsed clock.reading.wall +
        (monotonic - clock.reading.monotonic) < lifetime + 1000 := by
  have whole := (parseInstant_eq_ok.1 rebased.parsed).2
  rw [rebased.reading, DateTime.elapsed, microseconds_floored] at live
  exact age_lt (microseconds_whole whole) live

/-! ## The lifetime -/

/--
An approval that is consumed was bound in the same epoch.  When an event bound
it at a reading, then whatever happens before it is consumed, its authority is
the one that was bound; it is consumed less than its lifetime after it was
issued on the wall clock; and its age when it was bound and the monotonic time
since then are below its lifetime and one millisecond.
-/
theorem approval_lifetime (host : Host) :
    (∀ (pair : StoredAuthorizationApproval) (bound consumed : BoundApproval)
      (stored : StoredProposal) (payload : Option Value.Members)
      (now : AuthorizationClock),
      mapAuthorizationApproval host pair = .ok bound →
      consumeBoundApproval host bound stored payload now =
        .ok (.ok consumed) →
      ∃ held, pair.binding.authority = some held ∧
        held.runtimeEpoch = now.runtimeEpoch) ∧
    ∀ (start : World) (observedAt : String) (settlement : SettlementPort)
      (delivery : GuaranteedDelivery) (clock : AuthorizationClock)
      (approvalId : String) (row next : StoredApprovalBinding)
      (held : StoredApprovalAuthority) (steps : List LifetimeStep),
      let handled := (exec (handleOperatorApproval host observedAt settlement
        delivery clock) start).2
      let later := (run (lifetimeStep host) handled steps).database
      start.database.bindings.find? approvalId = some row →
      row.authority = none →
      handled.database.bindings.find? approvalId = some next →
      next.authority = some held →
      later.bindings.find? approvalId = some next ∧
      ∀ (proposalId : String) (pair : StoredAuthorizationApproval)
        (bound consumed : BoundApproval) (stored : StoredProposal)
        (payload : Option Value.Members) (now : AuthorizationClock),
        exec (loadApproval proposalId) later = (.ok pair, later) →
        pair.binding.approvalId = approvalId →
        mapAuthorizationApproval host pair = .ok bound →
        consumeBoundApproval host bound stored payload now =
          .ok (.ok consumed) →
        clock.runtimeEpoch = now.runtimeEpoch ∧
        ∃ issued,
          parseInstant pair.approval.issuedWall = .ok issued ∧
          0 ≤ issued.elapsed now.reading.wall ∧
          issued.elapsed now.reading.wall <
            pair.approval.timeToLiveMilliseconds * 1000 ∧
          issued.elapsed clock.reading.wall +
              (now.reading.monotonic - clock.reading.monotonic) <
            pair.approval.timeToLiveMilliseconds * 1000 + 1000 := by
  refine ⟨fun pair bound consumed stored payload now maps consumes => ?_, ?_⟩
  · rcases consumeBoundApproval_consumable maps consumes with
      ⟨held, issued, consumable⟩
    exact ⟨held, consumable.authority, consumable.epoch⟩
  · intro start observedAt settlement delivery clock approvalId row next held
      steps handled later found free added holds
    have kept : LifetimeKept handled.database later :=
      run_kept handled steps
    have stays := kept.bindings approvalId next held added holds
    refine ⟨stays, ?_⟩
    intro proposalId pair bound consumed stored payload now loaded named maps
      consumes
    rcases loadApproval_ok.1 loaded with ⟨approval, binding, _, _⟩
    rcases bindingFor?_mem binding with ⟨listed, ofProposal⟩
    have same : pair.binding = next := by
      have again : later.bindings.find? approvalId = some pair.binding :=
        Table.find?_eq_some.2 ⟨listed, named⟩
      rw [stays] at again
      exact (Option.some.inj again).symm
    rcases (handleOperatorApproval_effect observedAt settlement delivery
      clock start).rebased found free added holds with
      ⟨rebasedRow, issued, bindRow, rebased⟩
    rcases kept.approvals _ _ bindRow with ⟨lastRow, last, wall, lifetime⟩
    have sameRow : lastRow = pair.approval := by
      rw [← same, ofProposal, approval] at last
      exact (Option.some.inj last).symm
    rcases consumeBoundApproval_consumable maps consumes with
      ⟨bearer, consumedIssued, consumable⟩
    have sameHeld : bearer = held := by
      have authority := consumable.authority
      rw [same, holds] at authority
      exact (Option.some.inj authority).symm
    have sameIssued : consumedIssued = issued := by
      have parsed := consumable.parsed
      rw [← sameRow, wall, rebased.parsed] at parsed
      exact (Except.ok.inj parsed).symm
    subst sameHeld sameIssued
    exact ⟨rebased.epoch.symm.trans consumable.epoch, consumedIssued,
      consumable.parsed, consumable.wall.1, consumable.wall.2,
      rebased.age consumable.monotonic.2⟩

end AerialRescue.Gateway
