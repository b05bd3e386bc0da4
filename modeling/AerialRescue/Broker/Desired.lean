import AerialRescue.Broker.Queues
import Mathlib.Data.List.Infix

/-!
# The desired state of the broker

Every object that the authorization tables imply for one message VPN: ACL
profiles with their topic exceptions, client profiles, usernames, queue
templates, and each application queue with its isolated dead-message queue.
-/

namespace AerialRescue.Broker.Desired

open AerialRescue.Lib.Guard
open AerialRescue.Contracts.Topics
open AerialRescue.Broker.Subscriptions AerialRescue.Broker.Queues
open AerialRescue.Domain.Principals

/-! ## Queues -/

/-- `QueueTemplateSpec` -/
structure QueueTemplateSpec where
  role : Principal
  name : String
  deadMessageQueue : String
  durability : String
  nameFilter : String
  maxMessageBytes : Nat
  maxDeliveredUnacked : Nat
deriving DecidableEq

/-- A template of the pinned upstream components, by its role and name. -/
def upstreamTemplate (role : Principal) (name : String) :
    QueueTemplateSpec where
  role := role
  name := name
  deadMessageQueue := name ++ "_dmq"
  durability := "non-durable"
  nameFilter := ""
  maxMessageBytes := 10000000
  maxDeliveredUnacked := 10000

/-- `queue_templates` -/
def queueTemplates : List QueueTemplateSpec :=
  [ upstreamTemplate .agentMeshAgent "aerial-rescue-agent-mesh-temp",
    upstreamTemplate .eventMeshGateway
      "aerial-rescue-event-mesh-gateway-temp",
    upstreamTemplate .eventMeshTool "aerial-rescue-event-mesh-tool-temp" ]

/-- `_dead_message_queue` -/
def deadMessageQueue (name : String)
    (maxMessageBytes maxDeliveredUnacked : Nat) : QueueSpec where
  name := name
  owner := ""
  subscriptions := []
  deadMessageQueue := none
  maxMessageBytes := maxMessageBytes
  maxDeliveredUnacked := maxDeliveredUnacked

/-- `primary_queues` -/
def primaryQueues (drones : List String) :
    Except QueueFailure (List QueueSpec) := do
  let queues ← Principal.all.mapM fun role => queuesFor role drones
  pure queues.flatten

/-- A primary queue after its dead-message queue. -/
def queuePair (primary : QueueSpec) : List QueueSpec :=
  [ deadMessageQueue (deadMessageQueueName primary.name)
      primary.maxMessageBytes primary.maxDeliveredUnacked,
    primary ]

/-- The dead-message queue that a template names. -/
def templateQueue (template : QueueTemplateSpec) : QueueSpec :=
  deadMessageQueue template.deadMessageQueue template.maxMessageBytes
    template.maxDeliveredUnacked

/-- `desired_queues` -/
def desiredQueues (drones : List String) :
    Except QueueFailure (List QueueSpec) := do
  let primaries ← primaryQueues drones
  pure (queueTemplates.map templateQueue ++ primaries.flatMap queuePair)

/-! ## Profiles and usernames -/

/-- `ProfileState` -/
structure ProfileState where
  name : String
  publish : List String
  subscribe : List String
deriving DecidableEq

/-- `ClientProfileState` -/
structure ClientProfileState where
  role : Principal
  allowGuaranteedSend : Bool
  allowGuaranteedReceive : Bool
  allowEndpointCreate : Bool
  maxConnections : Nat
  maxEgressFlows : Nat
  maxIngressFlows : Nat
  maxEndpoints : Nat
  maxSubscriptions : Nat
  rejectNoSubscription : Bool
  queueTemplate : Option String
deriving DecidableEq

/-- `UsernameState` -/
structure UsernameState where
  name : String
  profile : String
  password : String
  enabled : Bool
deriving DecidableEq

/-- `_exceptions_for` -/
def exceptionsFor (role : Principal) (access : Access)
    (namespaceText : Option String) :
    Except SubscriptionRefusal (List String) := do
  let granted := (grants role access).map subscriptionFor
  let narrowed :=
    if role = .recorder ∧ access = .subscribe then
      (granted.filter (· ≠ subscriptionFor .droneEvent)) ++
        [connectivitySubscription, salientSubscription]
    else granted
  let mesh ←
    match namespaceText with
    | some text =>
        if mayUseA2a role then (a2aSubscription text).map ([·]) else pure []
    | none => pure []
  let reply :=
    if access = .subscribe ∧ mayUseReplyChannel role then
      [replySubscription]
    else []
  pure (narrowed ++ mesh ++ reply)

/-- `_client_profile` -/
def clientProfile : Principal → ClientProfileState
  | .fleetSimulator =>
      ⟨.fleetSimulator, true, true, false, 1, 23, 1, 23, 0, true, none⟩
  | .commandGateway =>
      ⟨.commandGateway, true, true, false, 1, 3, 1, 3, 2, true, none⟩
  | .dashboardApi =>
      ⟨.dashboardApi, true, true, false, 1, 6, 1, 6, 3, true, none⟩
  | .evidenceService =>
      ⟨.evidenceService, true, true, false, 1, 2, 1, 2, 0, true, none⟩
  | .recorder =>
      ⟨.recorder, false, true, false, 1, 10, 0, 10, 3, false, none⟩
  | .eventMeshGateway =>
      ⟨.eventMeshGateway, true, true, true, 4, 1, 1, 2, 0, false,
        some "aerial-rescue-event-mesh-gateway-temp"⟩
  | .eventMeshTool =>
      ⟨.eventMeshTool, true, true, true, 1, 1, 1, 1, 0, false,
        some "aerial-rescue-event-mesh-tool-temp"⟩
  | .agentMeshAgent =>
      ⟨.agentMeshAgent, true, true, true, 16, 1, 1, 9, 0, false,
        some "aerial-rescue-agent-mesh-temp"⟩
  | .discovery =>
      ⟨.discovery, false, false, false, 0, 0, 0, 0, 0, false, none⟩

/-! ## The desired state -/

/-- Why a desired state cannot be built. -/
inductive DesiredRefusal where
  | missingCredential (role : Principal)
  | subscription (refusal : SubscriptionRefusal)
  | queue (failure : QueueFailure)
deriving DecidableEq

/-- `DesiredState` -/
structure DesiredState where
  vpn : String
  profiles : List ProfileState
  clientProfiles : List ClientProfileState
  usernames : List UsernameState
  queueTemplates : List QueueTemplateSpec
  queues : List QueueSpec
deriving DecidableEq

/-- `_credential`, of which a missing one is blank. -/
def credential (credentials : Principal → String) (role : Principal) :
    Except DesiredRefusal String := do
  ensure (credentials role ≠ "") (.missingCredential role)
  pure (credentials role)

/-- The ACL profile of a role. -/
def profileFor (namespaceText : Option String) (role : Principal) :
    Except DesiredRefusal ProfileState := do
  let publish ←
    recast .subscription (exceptionsFor role .publish namespaceText)
  let subscribe ←
    recast .subscription (exceptionsFor role .subscribe namespaceText)
  pure { name := role.value, publish, subscribe }

/-- The username of a role. -/
def usernameFor (credentials : Principal → String) (role : Principal) :
    Except DesiredRefusal UsernameState := do
  let password ← credential credentials role
  pure { name := role.value, profile := role.value, password, enabled := true }

/-- `desired_state` -/
def desiredState (vpn : String) (credentials : Principal → String)
    (namespaceText : Option String) (drones : List String) :
    Except DesiredRefusal DesiredState := do
  let profiles ← Principal.all.mapM (profileFor namespaceText)
  let usernames ←
    (Principal.all.filter (· ≠ .discovery)).mapM (usernameFor credentials)
  let queues ← recast .queue (desiredQueues drones)
  pure
    { vpn, profiles, usernames, queueTemplates, queues
      clientProfiles := Principal.all.map clientProfile }

/-! ## The names of queues -/

/-- `{queue.name for queue in state.queues}` -/
def DesiredState.queueNames (state : DesiredState) : List String :=
  state.queues.map QueueSpec.name

/-- Some fleet can have a primary queue of the name. -/
def OwnedPrimary (name : String) : Prop :=
  ∃ drones queues, primaryQueues drones = .ok queues ∧
    name ∈ queues.map QueueSpec.name

/-- The primary queues of an empty fleet, which every fleet has. -/
def fixedQueues : List QueueSpec :=
  match primaryQueues [] with
  | .ok queues => queues
  | .error _ => []

theorem primaryQueues_nil : primaryQueues [] = .ok fixedQueues := by
  have succeeds : (primaryQueues []).isOk = true := by decide +kernel
  unfold fixedQueues
  cases built : primaryQueues [] with
  | ok queues => rfl
  | error failure =>
      rw [built] at succeeds
      cases succeeds

/-- A fleet's primary queues are those of its drones and the fixed ones. -/
theorem primaryQueues_eq (drones : List String) :
    primaryQueues drones =
      (droneQueues drones).map fun queues => queues ++ fixedQueues := by
  have split : Principal.all = .fleetSimulator :: Principal.all.tail := rfl
  have others : (Principal.all.tail.mapM fun role => queuesFor role drones) =
      Principal.all.tail.mapM fun role => queuesFor role [] := by
    simp only [Principal.all, List.tail_cons, List.mapM_cons]
    rfl
  have empty := primaryQueues_nil
  unfold primaryQueues at empty ⊢
  rw [split, List.mapM_cons] at empty ⊢
  rw [others]
  simp only [bind_eq_ok, pure_eq_ok] at empty
  rcases empty with ⟨_, ⟨none, unmanned, rest, fixed, rfl⟩, same⟩
  have nothing : none = [] := by
    cases unmanned
    rfl
  rw [fixed, ← same, nothing]
  change ((droneQueues drones >>= _) >>= _) = _
  cases droneQueues drones with
  | error failure => rfl
  | ok queues => rfl

/-! ## The names of a drone's queue -/

/-- The name of a drone's queue without the drone. -/
def droneQueuePrefix : String :=
  match droneQueueName "x" with
  | .ok sample => String.ofList sample.toList.dropLast
  | .error _ => ""

theorem droneQueueName_ok {drone name : String} :
    droneQueueName drone = .ok name ↔
      isIdentifier drone = true ∧ name = droneQueuePrefix ++ drone := by
  have opening : droneQueuePrefix.toList =
      "aerial-rescue/v1/fleet-simulator/drone.command/".toList := by
    decide +kernel
  have joined : ownedName .fleetSimulator
      [literalSuffix .droneCommand, drone] = droneQueuePrefix ++ drone := by
    apply String.toList_injective
    rw [ownedName, String.toList_intercalate, String.toList_append, opening]
    simp only [List.map_cons, List.map_nil, List.intercalate_cons_cons,
      List.intercalate_singleton]
    rfl
  have rule : ruleFor "droneId" = .identifier := by decide
  simp only [droneQueueName, validatedLevel, bind_eq_ok, ensure_eq_ok,
    pure_eq_ok, exists_const, rule, conforms]
  constructor
  · rintro ⟨_, ⟨identifier, rfl⟩, rfl⟩
    exact ⟨identifier, joined⟩
  · rintro ⟨identifier, rfl⟩
    exact ⟨drone, ⟨identifier, rfl⟩, joined⟩

/-- A drone's queue can be built when its name can. -/
theorem droneQueues_singleton {drone name : String}
    (named : droneQueueName drone = .ok name) :
    ∃ queue, droneQueues [drone] = .ok [queue] ∧ queue.name = name := by
  have identifier := (droneQueueName_ok.1 named).1
  have valid : validatedLevel "droneId" drone = .ok drone := by
    have rule : ruleFor "droneId" = .identifier := by decide
    simp only [validatedLevel, rule, conforms, identifier]
    rfl
  refine ⟨applicationQueue name Principal.fleetSimulator.value
    [fixedSubscription .droneCommand "droneId" drone], ?_, rfl⟩
  simp only [droneQueues, List.mapM_cons, List.mapM_nil, named,
    droneCommandSubscription, valid]
  rfl

theorem mem_droneQueues {drones : List String} {queues : List QueueSpec}
    {queue : QueueSpec} (built : droneQueues drones = .ok queues)
    (member : queue ∈ queues) :
    ∃ drone, droneQueueName drone = .ok queue.name := by
  rcases mapM_ok_source built member with ⟨drone, _, queued⟩
  simp only [recast_eq_ok, bind_eq_ok, pure_eq_ok] at queued
  rcases queued with ⟨name, named, _, _, rfl⟩
  exact ⟨drone, named⟩

/-- The primary names are the fixed ones and those of the drones. -/
theorem ownedPrimary_iff {name : String} :
    OwnedPrimary name ↔
      name ∈ fixedQueues.map QueueSpec.name ∨
        ∃ drone, droneQueueName drone = .ok name := by
  constructor
  · rintro ⟨drones, queues, built, member⟩
    rw [primaryQueues_eq] at built
    cases droned : droneQueues drones with
    | error failure =>
        rw [droned] at built
        cases built
    | ok queued =>
        rw [droned] at built
        cases built
        rw [List.map_append, List.mem_append] at member
        rcases member with ofDrone | fixed
        · rcases List.mem_map.1 ofDrone with ⟨queue, inQueues, rfl⟩
          exact .inr (mem_droneQueues droned inQueues)
        · exact .inl fixed
  · rintro (fixed | ⟨drone, named⟩)
    · exact ⟨[], fixedQueues, primaryQueues_nil, fixed⟩
    · rcases droneQueues_singleton named with ⟨queue, built, rfl⟩
      refine ⟨[drone], [queue] ++ fixedQueues, ?_, ?_⟩
      · rw [primaryQueues_eq, built]
        rfl
      · simp

theorem isIdentifier_noUnderscore {drone : String}
    (identifier : isIdentifier drone = true) : '_' ∉ drone.toList := by
  intro member
  simp only [isIdentifier, Bool.and_eq_true, List.all_eq_true,
    Bool.or_eq_true, decide_eq_true_eq] at identifier
  have allowed := identifier.1.1.2 '_' member
  revert allowed
  decide

/-- A primary name is never the name of a dead-message queue. -/
theorem OwnedPrimary.unpaired {name : String} (owned : OwnedPrimary name) :
    ¬"_dmq".toList <:+ name.toList := by
  rcases ownedPrimary_iff.1 owned with fixed | ⟨drone, named⟩
  · have every : ((fixedQueues.map QueueSpec.name).all fun queue =>
        !"_dmq".toList.isSuffixOf queue.toList) = true := by
      decide +kernel
    have this := List.all_eq_true.1 every name fixed
    rw [Bool.not_eq_true', ← Bool.not_eq_true, List.isSuffixOf_iff_suffix] at this
    exact this
  · rcases droneQueueName_ok.1 named with ⟨identifier, rfl⟩
    have noUnderscore := isIdentifier_noUnderscore identifier
    rw [String.toList_append]
    intro paired
    rcases List.suffix_or_suffix_of_suffix paired
      (List.suffix_append droneQueuePrefix.toList drone.toList) with
      inside | short
    · exact noUnderscore (inside.subset (by decide))
    · have every : ("_dmq".toList.tails.all fun tail =>
          tail.contains '_' ||
            !"_dmq".toList.isSuffixOf (droneQueuePrefix.toList ++ tail)) =
              true := by
        decide +kernel
      have this := List.all_eq_true.1 every drone.toList
        ((List.mem_tails _ _).2 short)
      rw [Bool.or_eq_true] at this
      rcases this with underscore | unpaired
      · exact noUnderscore (List.contains_iff_mem.1 underscore)
      · rw [Bool.not_eq_true', ← Bool.not_eq_true,
          List.isSuffixOf_iff_suffix] at unpaired
        exact unpaired paired

end AerialRescue.Broker.Desired
