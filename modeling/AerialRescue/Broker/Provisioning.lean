import AerialRescue.Broker.Semp

/-!
# The convergent apply

`apply` of the broker package: it writes the objects of a desired state in the
order in which they depend on each other, reads each of them back, and
reconciles the topic exceptions of profiles and the subscriptions of queues.
-/

namespace AerialRescue.Broker.Provisioning

open AerialRescue.Lib.Guard AerialRescue.Lib.Clients
open AerialRescue.Contracts.Canonical
open AerialRescue.Broker.Queues AerialRescue.Broker.Desired
open AerialRescue.Broker.Retirement (quote)
open AerialRescue.Broker.Semp
open AerialRescue.Domain.Principals

/-! ## The transport -/

/-- `ProvisioningRefusal`, with what it is raised for. -/
inductive ProvisioningRefusal where
  | malformedReadback (path : String)
  | readbackMismatch (path : String)
  | retiredIdentityPresent (paths : List String)
deriving DecidableEq

/-- Why an apply ends early. -/
inductive ApplyFailure where
  | semp (failure : SempFailure)
  | provisioning (refusal : ProvisioningRefusal)
deriving DecidableEq

/-- A client of the configuration transport. -/
abbrev Applying :=
  Client Query Answer ApplyFailure

/-- `require_config_fields` -/
def requireConfigFields (required : List (String × List String)) :
    Applying Unit :=
  Client.query (.requireConfigFields required) (recast .semp)

/-- `send` -/
def send (request : Request) : Applying (List Members) :=
  Client.query (.send request) (recast .semp)

/-- `read_all` -/
def readAll (path : String) : Applying (List Members) :=
  Client.query (.readAll path) (recast .semp)

/-- A refusal, unless a condition holds. -/
def require (condition : Prop) [Decidable condition]
    (refusal : ProvisioningRefusal) : Applying Unit :=
  Client.lift (ensure condition (.provisioning refusal))

/-- The segments of a path between separators. -/
def joined (segments : List String) : String :=
  String.intercalate "/" segments

/-! ## Requests -/

/-- `_BROKER_PROTOCOL_STATE` -/
def brokerProtocolState : Body :=
  [ ("serviceAmqpEnabled", .flag false),
    ("serviceMqttEnabled", .flag false),
    ("serviceRestIncomingEnabled", .flag false),
    ("serviceRestOutgoingEnabled", .flag false),
    ("serviceSmfEnabled", .flag true),
    ("serviceWebTransportEnabled", .flag false) ]

/-- `_VPN_PROTOCOL_STATE` -/
def vpnProtocolState : Body :=
  [ ("serviceAmqpPlainTextEnabled", .flag false),
    ("serviceAmqpTlsEnabled", .flag false),
    ("serviceMqttPlainTextEnabled", .flag false),
    ("serviceMqttTlsEnabled", .flag false),
    ("serviceMqttTlsWebSocketEnabled", .flag false),
    ("serviceMqttWebSocketEnabled", .flag false),
    ("serviceRestIncomingPlainTextEnabled", .flag false),
    ("serviceRestIncomingTlsEnabled", .flag false),
    ("serviceSmfPlainTextEnabled", .flag false),
    ("serviceSmfTlsEnabled", .flag true),
    ("serviceWebPlainTextEnabled", .flag false),
    ("serviceWebTlsEnabled", .flag false) ]

/-- `_profile_request`: the body. -/
def profileBody (vpn : String) (profile : ProfileState) : Body :=
  [ ("aclProfileName", .text profile.name),
    ("msgVpnName", .text vpn),
    ("clientConnectDefaultAction", .text "allow"),
    ("publishTopicDefaultAction", .text "disallow"),
    ("subscribeTopicDefaultAction", .text "disallow"),
    ("subscribeShareNameDefaultAction", .text "disallow") ]

/-- `_profile_request` -/
def profileRequest (vpn : String) (profile : ProfileState) : Request where
  method := .put
  path := joined ["msgVpns", vpn, "aclProfiles", profile.name]
  body := profileBody vpn profile

/-- `_username_request`: the body. -/
def usernameBody (vpn : String) (username : UsernameState) : Body :=
  [ ("clientUsername", .text username.name),
    ("msgVpnName", .text vpn),
    ("aclProfileName", .text username.profile),
    ("clientProfileName", .text username.profile),
    ("enabled", .flag username.enabled),
    ("guaranteedEndpointPermissionOverrideEnabled", .flag false),
    ("subscriptionManagerEnabled", .flag false),
    ("password", .text username.password) ]

/-- `_username_request` -/
def usernameRequest (vpn : String) (username : UsernameState) : Request where
  method := .put
  path := joined ["msgVpns", vpn, "clientUsernames", username.name]
  body := usernameBody vpn username

/-- The messages of the flow window of a profile's receivers. -/
def deliveryWindow (profile : ClientProfileState) : Nat :=
  if profile.queueTemplate.isSome then 255 else 1

/-- `_client_profile_request`: the body. -/
def clientProfileBody (vpn : String) (profile : ClientProfileState) : Body :=
  [ ("clientProfileName", .text profile.role.value),
    ("msgVpnName", .text vpn),
    ("allowGuaranteedMsgSendEnabled", .flag profile.allowGuaranteedSend),
    ("allowGuaranteedMsgReceiveEnabled",
      .flag profile.allowGuaranteedReceive),
    ("allowGuaranteedEndpointCreateEnabled",
      .flag profile.allowEndpointCreate),
    ("allowGuaranteedEndpointCreateDurability", .text "non-durable"),
    ("allowTransactedSessionsEnabled", .flag false),
    ("allowBridgeConnectionsEnabled", .flag false),
    ("allowSharedSubscriptionsEnabled", .flag false),
    ("compressionEnabled", .flag false),
    ("elidingEnabled", .flag false),
    ("apiQueueManagementCopyFromOnCreateTemplateName",
      .text (profile.queueTemplate.getD "")),
    ("rejectMsgToSenderOnNoSubscriptionMatchEnabled",
      .flag profile.rejectNoSubscription),
    ("maxConnectionCountPerClientUsername",
      .number profile.maxConnections),
    ("serviceSmfMaxConnectionCountPerClientUsername",
      .number profile.maxConnections),
    ("serviceWebMaxConnectionCountPerClientUsername", .number 0),
    ("maxEgressFlowCount", .number profile.maxEgressFlows),
    ("queueGuaranteed1MinMsgBurst",
      .number (profile.maxEgressFlows * deliveryWindow profile)),
    ("maxIngressFlowCount", .number profile.maxIngressFlows),
    ("maxEndpointCountPerClientUsername", .number profile.maxEndpoints),
    ("maxSubscriptionCount",
      .number
        (profile.maxSubscriptions +
          if profile.maxConnections = 0 then 0 else 1)),
    ("maxTransactedSessionCount", .number 0),
    ("maxTransactionCount", .number 0),
    ("serviceSmfMinKeepaliveEnabled", .flag true),
    ("serviceMinKeepaliveTimeout", .number 30),
    ("tcpKeepaliveCount", .number 5),
    ("tcpKeepaliveIdleTime", .number 3),
    ("tcpKeepaliveInterval", .number 1),
    ("tlsAllowDowngradeToPlainTextEnabled", .flag false) ]

/-- `_client_profile_request` -/
def clientProfileRequest (vpn : String) (profile : ClientProfileState) :
    Request where
  method := .put
  path := joined ["msgVpns", vpn, "clientProfiles", profile.role.value]
  body := clientProfileBody vpn profile

/-- `_queue_template_request`: the body. -/
def queueTemplateBody (vpn : String) (template : QueueTemplateSpec) : Body :=
  [ ("queueTemplateName", .text template.name),
    ("msgVpnName", .text vpn),
    ("queueNameFilter", .text template.nameFilter),
    ("accessType", .text "exclusive"),
    ("durabilityOverride", .text template.durability),
    ("maxBindCount", .number 1),
    ("maxDeliveredUnackedMsgsPerFlow", .number template.maxDeliveredUnacked),
    ("maxMsgSize", .number template.maxMessageBytes),
    ("maxMsgSpoolUsage", .number 10),
    ("redeliveryEnabled", .flag true),
    ("maxRedeliveryCount", .number 3),
    ("maxTtl", .number 300),
    ("respectTtlEnabled", .flag true),
    ("deadMsgQueue", .text template.deadMessageQueue),
    ("permission", .text "no-access"),
    ("rejectMsgToSenderOnDiscardBehavior", .text "always"),
    ("respectDmqEligibleEnabled", .flag true),
    ("eventBindCountThreshold", .thresholds 60 80),
    ("eventMsgSpoolUsageThreshold", .thresholds 18 25),
    ("eventRejectLowPriorityMsgLimitThreshold", .thresholds 60 80) ]

/-- `_queue_template_request` -/
def queueTemplateRequest (vpn : String) (template : QueueTemplateSpec) :
    Request where
  method := .put
  path := joined ["msgVpns", vpn, "queueTemplates", template.name]
  body := queueTemplateBody vpn template

/-- `DEAD_MESSAGE_REFUSED_MEMBERS` -/
def deadMessageRefusedMembers : List String :=
  ["maxRedeliveryCount", "maxTtl"]

/-- `_queue_request`: the body before its refused members are left out. -/
def wholeQueueBody (vpn : String) (queue : QueueSpec) : Body :=
  let dead := queue.deadMessageQueue.isNone
  [ ("queueName", .text queue.name),
    ("msgVpnName", .text vpn),
    ("owner", .text queue.owner),
    ("permission", .text "no-access"),
    ("accessType", .text "exclusive"),
    ("maxBindCount", .number 1),
    ("maxDeliveredUnackedMsgsPerFlow", .number queue.maxDeliveredUnacked),
    ("maxMsgSize", .number queue.maxMessageBytes),
    ("maxMsgSpoolUsage", .number 10),
    ("maxRedeliveryCount", .number 3),
    ("maxTtl", .number 300),
    ("respectTtlEnabled", .flag !dead),
    ("deadMsgQueue", .text (queue.deadMessageQueue.getD "")),
    ("respectDmqEligibleEnabled", .flag false),
    ("redeliveryEnabled", .flag !dead),
    ("rejectMsgToSenderOnDiscardBehavior", .text "always"),
    ("eventBindCountThreshold", .thresholds 60 80),
    ("eventMsgSpoolUsageThreshold", .thresholds 18 25),
    ("eventRejectLowPriorityMsgLimitThreshold", .thresholds 60 80),
    ("ingressEnabled", .flag true),
    ("egressEnabled", .flag true) ]

/-- `_queue_request`: the body. -/
def queueBody (vpn : String) (queue : QueueSpec) : Body :=
  let refused :=
    if queue.deadMessageQueue.isNone then
      "deadMsgQueue" :: deadMessageRefusedMembers
    else []
  (wholeQueueBody vpn queue).filter fun entry => !refused.contains entry.1

/-- `_queue_request` -/
def queueRequest (vpn : String) (queue : QueueSpec) : Request where
  method := .put
  path := joined ["msgVpns", vpn, "queues", quote queue.name]
  body := queueBody vpn queue

/-- `FACTORY_CLIENT_USERNAME` -/
def factoryClientUsername : String :=
  "default"

/-- `_disable_factory_request` -/
def disableFactoryRequest (vpn : String) : Request where
  method := .patch
  path := joined ["msgVpns", vpn, "clientUsernames", factoryClientUsername]
  body := [("enabled", .flag false)]

/-- `_broker_protocol_request` -/
def brokerProtocolRequest : Request where
  method := .patch
  path := ""
  body := brokerProtocolState

/-- `_vpn_protocol_request` -/
def vpnProtocolRequest (vpn : String) : Request where
  method := .patch
  path := joined ["msgVpns", vpn]
  body := vpnProtocolState

/-! ## Collections -/

/-- `_Collection` -/
structure Collection where
  path : String
  member : String
  extra : Body
  keyPrefix : String

/-- `_EXCEPTION_COLLECTION` -/
def exceptionCollectionName : Access → String
  | .publish => "publishTopicExceptions"
  | .subscribe => "subscribeTopicExceptions"

/-- `_EXCEPTION_MEMBER` -/
def exceptionMember : Access → String
  | .publish => "publishTopicException"
  | .subscribe => "subscribeTopicException"

/-- `_SYNTAX_MEMBER` -/
def syntaxMember : Access → String
  | .publish => "publishTopicExceptionSyntax"
  | .subscribe => "subscribeTopicExceptionSyntax"

/-- `_exception_collection` -/
def exceptionCollection (vpn profile : String) (access : Access) :
    Collection where
  path :=
    joined
      ["msgVpns", vpn, "aclProfiles", profile, exceptionCollectionName access]
  member := exceptionMember access
  extra := [(syntaxMember access, .text "smf")]
  keyPrefix := "smf,"

/-- `_subscription_collection` -/
def subscriptionCollection (vpn queue : String) : Collection where
  path := joined ["msgVpns", vpn, "queues", quote queue, "subscriptions"]
  member := "subscriptionTopic"
  extra := []
  keyPrefix := ""

/-! ## Reading -/

/-- `_inventory`, and `_present` of a collection's path and member. -/
def inventory (path member : String) : Applying (List String) := do
  let rows ← readAll path
  let names ← Client.lift
    (rows.mapM fun row =>
      present (row.text member) (.provisioning (.malformedReadback path)))
  require names.Nodup (.malformedReadback path)
  pure names

/-- The row's members equal the readable members of a body. -/
def agrees (body : Body) (row : Members) : Bool :=
  (body.filter fun entry => !secretMembers.contains entry.1).all fun entry =>
    row entry.1 = some entry.2

/-- `_verify_readback` -/
def verifyReadback (request : Request) : Applying Unit := do
  let rows ← send { method := .get, path := request.path, body := [] }
  match rows with
  | [row] => require (agrees request.body row) (.readbackMismatch request.path)
  | _ => require False (.malformedReadback request.path)

/-- `_write_verified` -/
def writeVerified (request : Request) : Applying Unit := do
  let _ ← send request
  verifyReadback request

/-! ## Identities -/

/-- The path of the usernames of a message VPN. -/
def clientUsernames (vpn : String) : String :=
  joined ["msgVpns", vpn, "clientUsernames"]

/-- `_client_username_inventory` -/
def clientUsernameInventory (vpn : String) : Applying (List String) :=
  inventory (clientUsernames vpn) "clientUsername"

/-- The path of the obsolete messaging identity. -/
def discoveryPath (vpn : String) : String :=
  joined ["msgVpns", vpn, "clientUsernames", Principal.discovery.value]

/-- `_remove_discovery_username`, once it is there. -/
def removePresentDiscovery (vpn : String) : Applying Unit := do
  writeVerified
    { method := .patch
      path := discoveryPath vpn
      body := [("enabled", .flag false)] }
  let _ ← send { method := .delete, path := discoveryPath vpn, body := [] }
  let left ← clientUsernameInventory vpn
  require (Principal.discovery.value ∉ left)
    (.readbackMismatch (discoveryPath vpn))

/-- `_remove_discovery_username` -/
def removeDiscoveryUsername (vpn : String) : Applying Unit := do
  let names ← clientUsernameInventory vpn
  if Principal.discovery.value ∈ names then removePresentDiscovery vpn
  else pure ()

/-- `RETIRED_SCENARIO_IDENTITY` -/
def retiredScenarioIdentity : String :=
  "scenario-service"

/-- A collection with an identifying member, and the members that an object
of the retired identity has. -/
structure RetiredObject where
  collection : String
  member : String
  expected : List String

/-- The objects of the retired identity. -/
def retiredObjects : List RetiredObject :=
  [ ⟨"clientUsernames", "clientUsername",
      ["clientUsername", "aclProfileName", "clientProfileName"]⟩,
    ⟨"aclProfiles", "aclProfileName", ["aclProfileName"]⟩,
    ⟨"clientProfiles", "clientProfileName", ["clientProfileName"]⟩ ]

/-- One turn of the loop of `_refuse_retired_scenario_identity`: the path of
an object that is there. -/
def retiredPath (vpn : String) (object : RetiredObject) :
    Applying (List String) := do
  let names ← inventory (joined ["msgVpns", vpn, object.collection])
    object.member
  if retiredScenarioIdentity ∈ names then
    let path :=
      joined ["msgVpns", vpn, object.collection, retiredScenarioIdentity]
    let rows ← send { method := .get, path, body := [] }
    let expected := object.expected.map fun name =>
      (name, Value.text retiredScenarioIdentity)
    match rows with
    | [row] => do
        require (expected.all fun entry => row entry.1 = some entry.2)
          (.malformedReadback path)
        pure [path]
    | _ => do
        require False (.malformedReadback path)
        pure []
  else pure []

/-- The paths of the retired objects that are there. -/
def retiredPaths (vpn : String) : List RetiredObject → Applying (List String)
  | [] => pure []
  | first :: rest => do
      let found ← retiredPath vpn first
      let others ← retiredPaths vpn rest
      pure (found ++ others)

/-- `_refuse_retired_scenario_identity` -/
def refuseRetiredScenarioIdentity (vpn : String) : Applying Unit := do
  let paths ← retiredPaths vpn retiredObjects
  require (paths = []) (.retiredIdentityPresent paths)

/-! ## Reconciliation -/

/-- The body of a topic that a collection lacks. -/
def Collection.body (collection : Collection) (topic : String) : Body :=
  (collection.member, .text topic) :: collection.extra

/-- Add a topic to a collection. -/
def addTopic (collection : Collection) (topic : String) : Applying Unit := do
  let _ ← send
    { method := .post
      path := collection.path
      body := collection.body topic }
  pure ()

/-- Remove a topic from a collection. -/
def removeTopic (collection : Collection) (topic : String) :
    Applying Unit := do
  let key := collection.keyPrefix ++ quote topic
  let _ ← send
    { method := .delete
      path := collection.path ++ "/" ++ key
      body := [] }
  pure ()

/-- `sorted` of a set difference. -/
def difference (left right : List String) : List String :=
  (left.dedup.filter fun topic => !right.contains topic).insertionSort (· ≤ ·)

/-- `_reconcile` -/
def reconcile (collection : Collection) (wanted : List String) :
    Applying Unit := do
  let present ← inventory collection.path collection.member
  Client.each (addTopic collection) (difference wanted present)
  Client.each (removeTopic collection) (difference present wanted)
  let left ← inventory collection.path collection.member
  require ((∀ topic ∈ left, topic ∈ wanted) ∧ ∀ topic ∈ wanted, topic ∈ left)
    (.readbackMismatch collection.path)

/-! ## Apply -/

/-- `_apply_queue` -/
def applyQueue (vpn : String) (queue : QueueSpec) : Applying Unit := do
  writeVerified (queueRequest vpn queue)
  reconcile (subscriptionCollection vpn queue.name) queue.subscriptions

/-- `_apply_queue_partition` -/
def applyQueuePartition (state : DesiredState) (templateDmqs : List String)
    (applyTemplateDmqs : Bool) : Applying Unit :=
  Client.each
    (fun queue =>
      let isTemplateDmq := templateDmqs.contains queue.name
      if isTemplateDmq = applyTemplateDmqs then applyQueue state.vpn queue
      else pure ())
    state.queues

/-- The topics that a profile wants in one direction. -/
def wantedTopics (profile : ProfileState) : Access → List String
  | .publish => profile.publish
  | .subscribe => profile.subscribe

/-- One turn of the loop of `_apply_acl_profiles`. -/
def applyAclProfile (vpn : String) (profile : ProfileState) :
    Applying Unit := do
  writeVerified (profileRequest vpn profile)
  Client.each
    (fun access =>
      reconcile (exceptionCollection vpn profile.name access)
        (wantedTopics profile access))
    [.publish, .subscribe]

/-- `_apply_acl_profiles` -/
def applyAclProfiles (state : DesiredState) : Applying Unit :=
  Client.each (applyAclProfile state.vpn) state.profiles

/-- The names of the members of requests. -/
def fields (requests : List Request) : List String :=
  (requests.flatMap fun request => request.body.map Prod.fst).dedup

/-- `_config_spec_requirements` -/
def configSpecRequirements (state : DesiredState) :
    List (String × List String) :=
  [ ("Broker", fields [brokerProtocolRequest]),
    ("MsgVpn", fields [vpnProtocolRequest state.vpn]),
    ("MsgVpnClientProfile",
      fields (state.clientProfiles.map (clientProfileRequest state.vpn))),
    ("MsgVpnClientUsername",
      fields (state.usernames.map (usernameRequest state.vpn))),
    ("MsgVpnQueue", fields (state.queues.map (queueRequest state.vpn))),
    ("MsgVpnQueueTemplate",
      fields (state.queueTemplates.map (queueTemplateRequest state.vpn))) ]

/-- The dead-message queues that the templates name. -/
def templateDmqs (state : DesiredState) : List String :=
  state.queueTemplates.map QueueTemplateSpec.deadMessageQueue

/-- `apply` -/
def apply (state : DesiredState) : Applying Unit := do
  requireConfigFields (configSpecRequirements state)
  writeVerified (disableFactoryRequest state.vpn)
  writeVerified brokerProtocolRequest
  writeVerified (vpnProtocolRequest state.vpn)
  removeDiscoveryUsername state.vpn
  refuseRetiredScenarioIdentity state.vpn
  applyQueuePartition state (templateDmqs state) true
  Client.each (fun template =>
      writeVerified (queueTemplateRequest state.vpn template))
    state.queueTemplates
  applyAclProfiles state
  Client.each (fun profile =>
      writeVerified (clientProfileRequest state.vpn profile))
    state.clientProfiles
  Client.each (fun username =>
      writeVerified (usernameRequest state.vpn username))
    state.usernames
  applyQueuePartition state (templateDmqs state) false

end AerialRescue.Broker.Provisioning
