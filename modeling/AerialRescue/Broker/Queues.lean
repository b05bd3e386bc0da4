import AerialRescue.Broker.Subscriptions
import AerialRescue.Contracts.EnvelopeForm
import AerialRescue.Contracts.PlainText
import AerialRescue.Domain.Principals

/-!
# The durable queues of a role

A role owns one queue for each guaranteed family it may subscribe to, the
fleet one for each drone, and the recorder one combined lifecycle queue, one
for salient drone events and one for every other guaranteed family.
-/

namespace AerialRescue.Broker.Queues

open AerialRescue.Lib.Guard
open AerialRescue.Contracts.Canonical
open AerialRescue.Contracts.Envelopes
open AerialRescue.Contracts.Topics
open AerialRescue.Broker.Subscriptions
open AerialRescue.Domain.Principals

/-! ## Endpoints -/

/-- How a role's guaranteed consumption is endpointed. -/
inductive Endpoint where
  | family
  | combinedLifecycle
  | perDrone
  | upstream
  | absent
deriving DecidableEq

/-- `endpoint_for` -/
def endpointFor : Principal → Endpoint
  | .fleetSimulator => .perDrone
  | .commandGateway | .dashboardApi | .evidenceService => .family
  | .recorder => .combinedLifecycle
  | .eventMeshGateway => .upstream
  | .eventMeshTool | .agentMeshAgent | .discovery => .absent

/-- Why a queue cannot be named. -/
inductive QueueRefusal where
  | unguaranteedFamily (family : Family)
  | notAFamilyConsumer (role : Principal)
deriving DecidableEq

/-- Everything that naming a queue can be refused with. -/
inductive QueueFailure where
  | principal (refusal : PrincipalRefusal)
  | queue (refusal : QueueRefusal)
  | topic (refusal : TopicRefusal)
deriving DecidableEq

/-- One durable queue and the topics it attracts. -/
structure QueueSpec where
  name : String
  owner : String
  subscriptions : List String
  deadMessageQueue : Option String
  maxMessageBytes : Nat
  maxDeliveredUnacked : Nat
deriving DecidableEq

namespace QueueSpec

/-- A queue receives a topic that one of its subscriptions attracts. -/
def receives (topic : String) (queue : QueueSpec) : Bool :=
  queue.subscriptions.any fun subscription => attracts subscription topic

end QueueSpec

/-! ## Queue sets -/

/-- `guaranteed_grants` -/
def guaranteedGrants (role : Principal) : List Family :=
  (grants role .subscribe).filter fun family =>
    deliveryFor family = .guaranteed

/-- `dead_message_queue_name` -/
def deadMessageQueueName (queue : String) : String :=
  queue ++ "_dmq"

/-- `_application_queue` -/
def applicationQueue (name owner : String) (subscriptions : List String) :
    QueueSpec where
  name := name
  owner := owner
  subscriptions := subscriptions
  deadMessageQueue := some (deadMessageQueueName name)
  maxMessageBytes := 262144
  maxDeliveredUnacked := 1

/-- A queue name beneath the owned root and its role. -/
def ownedName (role : Principal) (levels : List String) : String :=
  String.intercalate "/" ("aerial-rescue/v1" :: role.value :: levels)

/-- `family_queue_name` -/
def familyQueueName (role : Principal) (family : Family) :
    Except QueueFailure String := do
  let _ ← recast QueueFailure.principal (authorize role .subscribe family)
  ensure (deliveryFor family = .guaranteed)
    (.queue (.unguaranteedFamily family))
  ensure (endpointFor role = .family) (.queue (.notAFamilyConsumer role))
  pure (ownedName role [literalSuffix family])

/-- `drone_queue_name` -/
def droneQueueName (droneId : String) : Except TopicRefusal String := do
  let level ← validatedLevel "droneId" droneId
  pure (ownedName .fleetSimulator [literalSuffix .droneCommand, level])

/-- `_family_queues`, in the order of the families. -/
def familyQueues (role : Principal) : Except QueueFailure (List QueueSpec) :=
  (Family.all.filter (guaranteedGrants role).contains).mapM fun family => do
    let name ← familyQueueName role family
    pure (applicationQueue name role.value [subscriptionFor family])

/-- `_drone_queues`, in the order of the scenario. -/
def droneQueues (drones : List String) :
    Except QueueFailure (List QueueSpec) :=
  drones.mapM fun drone => recast QueueFailure.topic do
    let name ← droneQueueName drone
    let subscription ← droneCommandSubscription drone
    pure
      (applicationQueue name Principal.fleetSimulator.value [subscription])

/-- The families of the combined lifecycle queue. -/
def lifecycleFamilies : List Family :=
  [.droneEvent, .missionEvent, .sectorEvent]

/-- `_recorder_lifecycle_queue` -/
def recorderLifecycleQueue : QueueSpec :=
  applicationQueue "aerial-rescue/v1/recorder/dashboard.lifecycle"
    Principal.recorder.value
    (lifecycleFamilies.map fun family =>
      if family = .droneEvent then connectivitySubscription
      else subscriptionFor family)

/-- The recorder's queue over one subscription, named for a family. -/
def recorderQueue (family : Family) (subscription : String) : QueueSpec :=
  applicationQueue (ownedName .recorder [literalSuffix family])
    Principal.recorder.value [subscription]

/-- The guaranteed recorder families outside the lifecycle queue. -/
def remainingFamilies : List Family :=
  (guaranteedGrants .recorder).filter fun family =>
    !lifecycleFamilies.contains family

/-- `_recorder_queues` -/
def recorderQueues : List QueueSpec :=
  recorderLifecycleQueue ::
    recorderQueue .droneEvent salientSubscription ::
      (Family.all.filter remainingFamilies.contains).map fun family =>
        recorderQueue family (subscriptionFor family)

/-- `queues_for` -/
def queuesFor (role : Principal) (drones : List String) :
    Except QueueFailure (List QueueSpec) :=
  match endpointFor role with
  | .family => familyQueues role
  | .combinedLifecycle => .ok recorderQueues
  | .perDrone => droneQueues drones
  | .upstream | .absent => .ok []

/-! ## The types of recorded drone events -/

/-- The bound event types without the namespace. -/
def boundTypes : List String :=
  [ "operator.command.assign-sector", "operator.command.escalate-rescue",
    "operator.approval.approve", "operator.approval.reject",
    "drone.telemetry", "drone.event.salient",
    "drone.event.connectivity-changed", "mission.event.lifecycle",
    "sector.event.lifecycle", "gateway.record",
    "agent.proposal.candidate-location", "evidence.decision",
    "drone.command.assign-sector", "drone.command.escalate-rescue",
    "drone.command-result", "audit.proposal-normalization",
    "audit.evidence-decision", "audit.command-authorization" ]

theorem bindingFor_bound {type : String} {bound : Binding}
    (found : bindingFor type = .ok bound) :
    ∃ suffix ∈ boundTypes, type = "aerial-rescue.v1." ++ suffix := by
  have table :
      bindings.map Binding.eventType =
        boundTypes.map fun suffix => "aerial-rescue.v1." ++ suffix :=
    rfl
  simp only [bindingFor, present_eq_ok] at found
  have named : bound.eventType = type := by
    simpa using List.find?_some found
  have member := List.mem_map_of_mem (f := Binding.eventType)
    (List.mem_of_find?_eq_some found)
  rw [table, named] at member
  rcases List.mem_map.1 member with ⟨suffix, inTypes, same⟩
  exact ⟨suffix, inTypes, same.symm⟩

/-- The drone events that have a payload schema. -/
theorem droneEvent_bound {kind : String}
    (bound : "drone.event." ++ kind ∈ boundTypes) :
    kind = "salient" ∨ kind = "connectivity-changed" := by
  have decided :
      ∀ suffix ∈ boundTypes,
        (octets suffix).take 12 = octets "drone.event." →
          suffix = "drone.event." ++ "salient" ∨
            suffix = "drone.event." ++ "connectivity-changed" := by
    decide +kernel
  have opening :
      (octets ("drone.event." ++ kind)).take 12 = octets "drone.event." := by
    rw [octets_append]
    exact List.take_left' (by decide +kernel)
  rcases decided _ bound opening with same | same
  · exact .inl ((String.append_right_inj _).1 same)
  · exact .inr ((String.append_right_inj _).1 same)

/-- The type of a drone event spells its kind last. -/
theorem eventType_droneEvent {topic : Topic} {type : String}
    (family : topic.family = .droneEvent)
    (typed : eventType topic = .ok type) :
    type = "aerial-rescue.v1." ++
      ("drone.event." ++ topic.parameter "eventType") := by
  have template :
      Family.droneEvent.typeLevels =
        [.literal "drone", .literal "event", .parameter "eventType"] := by
    decide
  simp only [eventType, family, template, List.mapM_cons, List.mapM_nil,
    bind_eq_ok, pure_eq_ok] at typed
  rcases typed with
    ⟨_, ⟨_, rfl, _, ⟨_, rfl, _, ⟨kind, valid, _, rfl, rfl⟩, rfl⟩, rfl⟩, rfl⟩
  rw [(validatedLevel_ok valid).1]
  rfl

/-- An accepted drone event with a bound envelope is one of two kinds. -/
theorem droneEvent_kind {topic : Topic} {envelope : Envelope}
    (family : topic.family = .droneEvent) (follows : envelope.Follows)
    (binds : checkTopicBinding envelope topic = .ok ()) :
    topic.parameter "eventType" = "salient" ∨
      topic.parameter "eventType" = "connectivity-changed" := by
  have typeBound := follows.bound
  simp only [bindEnvelope, bind_eq_ok] at typeBound
  rcases typeBound with ⟨_, found, _⟩
  simp only [checkTopicBinding, bind_eq_ok, recast_eq_ok, ensure_eq_ok,
    exists_const] at binds
  rcases binds with ⟨type, typed, rfl, _⟩
  rcases bindingFor_bound found with ⟨suffix, inTypes, same⟩
  rw [eventType_droneEvent family typed, String.append_right_inj] at same
  exact droneEvent_bound (same ▸ inTypes)

/-! ## One recorder queue for every recorded event -/

section Recorder

variable {text : String} {topic : Topic}

/-- A queue over one family subscription receives that family. -/
theorem recorderQueue_receives {family : Family}
    (parses : parseTopic text = .ok topic)
    (notification : family ≠ .gatewayResponse) :
    (recorderQueue family (subscriptionFor family)).receives text =
      decide (topic.family = family) := by
  rw [Bool.eq_iff_iff, decide_eq_true_eq,
    ← attracts_subscriptionFor parses notification]
  simp [QueueSpec.receives, recorderQueue, applicationQueue]

/-- What the salient queue receives. -/
theorem salientQueue_receives (parses : parseTopic text = .ok topic) :
    (recorderQueue .droneEvent salientSubscription).receives text = true ↔
      topic.family = .droneEvent ∧
        topic.parameter "eventType" = "salient" := by
  rw [← attracts_fixedSubscription parses (by decide +kernel) (by decide)]
  simp [QueueSpec.receives, recorderQueue, applicationQueue,
    salientSubscription]

/-- What the lifecycle queue receives. -/
theorem lifecycleQueue_receives (parses : parseTopic text = .ok topic) :
    recorderLifecycleQueue.receives text = true ↔
      (topic.family = .droneEvent ∧
          topic.parameter "eventType" = "connectivity-changed") ∨
        topic.family = .missionEvent ∨ topic.family = .sectorEvent := by
  have subscriptions :
      recorderLifecycleQueue.subscriptions =
        [connectivitySubscription, subscriptionFor .missionEvent,
          subscriptionFor .sectorEvent] :=
    rfl
  have plain : Plain "connectivity-changed" := by decide +kernel
  have named : "eventType" ∈ Family.droneEvent.parameters := by decide
  have connectivity := attracts_fixedSubscription parses plain named
  have missions := attracts_subscriptionFor parses
    (show Family.missionEvent ≠ .gatewayResponse by decide)
  have sectors := attracts_subscriptionFor parses
    (show Family.sectorEvent ≠ .gatewayResponse by decide)
  rw [← connectivity, ← missions, ← sectors, QueueSpec.receives,
    subscriptions, List.any_cons, List.any_cons, List.any_cons, List.any_nil, Bool.or_false,
    Bool.or_eq_true, Bool.or_eq_true]
  rfl

/-- The ordinary recorder queues receive a topic as often as they name it. -/
theorem countP_familyQueues (parses : parseTopic text = .ok topic)
    (families : List Family) (notification : .gatewayResponse ∉ families) :
    (families.map fun family =>
        recorderQueue family (subscriptionFor family)).countP
        (QueueSpec.receives text) =
      families.count topic.family := by
  rw [List.countP_map]
  refine List.countP_congr fun family member => ?_
  have other : family ≠ .gatewayResponse :=
    fun same => notification (same ▸ member)
  rw [Function.comp_apply, recorderQueue_receives parses other,
    decide_eq_true_eq, beq_iff_eq]
  exact eq_comm

/-- A recorded event is received by one of the recorder's queues only. -/
theorem recorderQueues_receive_once (parses : parseTopic text = .ok topic)
    (granted : topic.family ∈ guaranteedGrants .recorder)
    (kinds :
      topic.family = .droneEvent →
        topic.parameter "eventType" = "salient" ∨
          topic.parameter "eventType" = "connectivity-changed") :
    recorderQueues.countP (QueueSpec.receives text) = 1 := by
  have remaining :
      Family.all.filter remainingFamilies.contains =
        [.operatorCommand, .operatorApproval, .droneCommand,
          .droneCommandResult, .agentProposal, .evidenceDecision, .audit] := by
    decide
  have grantedFamilies :
      guaranteedGrants .recorder =
        [.operatorCommand, .operatorApproval, .droneEvent, .droneCommand,
          .droneCommandResult, .agentProposal, .evidenceDecision, .audit,
          .missionEvent, .sectorEvent] := by
    decide
  have ordinary :=
    countP_familyQueues parses
      (Family.all.filter remainingFamilies.contains) (by decide)
  rw [recorderQueues, List.countP_cons, List.countP_cons, ordinary,
    remaining, if_congr (lifecycleQueue_receives parses) rfl rfl,
    if_congr (salientQueue_receives parses) rfl rfl]
  rw [grantedFamilies] at granted
  cases family : topic.family with
  | droneEvent =>
      rcases kinds family with kind | kind <;> rw [kind] <;> decide
  | _ =>
      simp only [family, reduceCtorEq, false_and, false_or, or_false,
        List.mem_cons, List.not_mem_nil] at granted ⊢
      try decide

end Recorder

/--
Every subscription reaches exactly what it names.  Among the accepted topics a
family subscription attracts its family, a drone's one that drone's commands,
the reply one the replies of the reserved mission and the mesh one nothing, and
every topic of a recorded event lands in one queue of the recorder.
-/
theorem subscriptions_separate {text : String} {topic : Topic}
    (accepted : parseTopic text = .ok topic) :
    (∀ family : Family, family ≠ .gatewayResponse →
      (attracts (subscriptionFor family) text = true ↔
        topic.family = family)) ∧
    (∀ droneId subscription,
      droneCommandSubscription droneId = .ok subscription →
        (attracts subscription text = true ↔
          topic.family = .droneCommand ∧
            topic.parameter "droneId" = droneId)) ∧
    (attracts replySubscription text = true ↔
      topic.family = .gatewayResponse ∧ topic.missionId = "reply") ∧
    (∀ namespaceText subscription,
      a2aSubscription namespaceText = .ok subscription →
        attracts subscription text = false) ∧
    (∀ envelope drones,
      topic.family ∈ guaranteedGrants .recorder → envelope.Follows →
        checkTopicBinding envelope topic = .ok () →
          ∃ queues, queuesFor .recorder drones = .ok queues ∧
            queues.countP (QueueSpec.receives text) = 1) := by
  refine ⟨fun family => attracts_subscriptionFor accepted,
    fun droneId subscription => attracts_droneCommandSubscription accepted,
    attracts_replySubscription accepted,
    fun namespaceText subscription => attracts_a2aSubscription accepted, ?_⟩
  intro envelope drones granted follows binds
  exact ⟨recorderQueues, rfl,
    recorderQueues_receive_once accepted granted
      fun family => droneEvent_kind family follows binds⟩

/-! ## One recorded event -/

/-- A salient event of one drone. -/
def salientTopic : Topic where
  family := .droneEvent
  missionId := "m"
  parameters := [("droneId", "d"), ("eventType", "salient")]

/-- An envelope on the sample topic. -/
def salientEnvelope : Envelope where
  id := "e"
  source := "urn:aerial-rescue:f:1"
  type := "aerial-rescue.v1.drone.event.salient"
  subject := "m"
  time := "2026-01-01T00:00:10.000Z"
  dataschema := schemaBase ++ "drone-event-salient" ++ ".schema.json"
  sequence := "000000000000000"
  correlationId := "c"
  traceparent := "00-0123456789abcdef0123456789abcdef-0123456789abcdef-01"
  data := [("missionId", .text "m"), ("droneId", .text "d")]
  causationId := none
  tracestate := none

theorem salientTopic_parses :
    parseTopic "aerial-rescue/v1/m/drone/d/event/salient" =
      .ok salientTopic := by
  decide +kernel

theorem salientEnvelope_binds :
    salientEnvelope.Follows ∧
      checkTopicBinding salientEnvelope salientTopic = .ok () := by
  decide +kernel

/-- One queue receives the sample event, and the drone's commands do not. -/
theorem salientEvent_received_once :
    (attracts (subscriptionFor .droneEvent)
        "aerial-rescue/v1/m/drone/d/event/salient" = true ↔
      salientTopic.family = .droneEvent) ∧
    ∃ queues, queuesFor .recorder ["d"] = .ok queues ∧
      queues.countP
        (QueueSpec.receives "aerial-rescue/v1/m/drone/d/event/salient") =
        1 := by
  have separate := subscriptions_separate salientTopic_parses
  exact ⟨separate.1 .droneEvent (by decide),
    separate.2.2.2.2 salientEnvelope ["d"] (by decide)
      salientEnvelope_binds.1 salientEnvelope_binds.2⟩

end AerialRescue.Broker.Queues
