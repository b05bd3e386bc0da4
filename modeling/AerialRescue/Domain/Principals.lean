import AerialRescue.Contracts.Topics

/-!
# The broker authorization tables

Nine roles, and the topic families each may publish and subscribe to.  A role
that a table leaves out of a family is denied it.
-/

namespace AerialRescue.Domain.Principals

open AerialRescue.Lib.Guard
open AerialRescue.Contracts.Topics

/-- The closed set of broker authorization roles. -/
inductive Principal where
  | fleetSimulator
  | commandGateway
  | dashboardApi
  | evidenceService
  | recorder
  | eventMeshGateway
  | eventMeshTool
  | agentMeshAgent
  | discovery
deriving DecidableEq

namespace Principal

/-- The spelling of a role, which is also its client username. -/
def value : Principal → String
  | fleetSimulator => "fleet-simulator"
  | commandGateway => "command-gateway"
  | dashboardApi => "dashboard-api"
  | evidenceService => "evidence-service"
  | recorder => "recorder"
  | eventMeshGateway => "event-mesh-gateway"
  | eventMeshTool => "event-mesh-tool"
  | agentMeshAgent => "agent-mesh-agent"
  | discovery => "discovery"

/-- The roles in the order of their declaration. -/
def all : List Principal :=
  [fleetSimulator, commandGateway, dashboardApi, evidenceService, recorder,
    eventMeshGateway, eventMeshTool, agentMeshAgent, discovery]

@[simp]
theorem mem_all (role : Principal) : role ∈ all := by
  cases role <;> decide

end Principal

/-- The direction a grant authorizes. -/
inductive Access where
  | publish
  | subscribe
deriving DecidableEq

/-- `_PUBLISH` -/
def publishGrants : Principal → List Family
  | .fleetSimulator =>
      [.droneTelemetry, .droneEvent, .droneCommandResult, .sectorEvent]
  | .commandGateway =>
      [.droneCommand, .gatewayResponse, .gatewayRecord, .agentProposal,
        .audit]
  | .dashboardApi => [.operatorCommand, .operatorApproval, .missionEvent]
  | .evidenceService => [.evidenceDecision, .audit]
  | .eventMeshGateway => [.agentResponse]
  | .eventMeshTool => [.gatewayRequest]
  | .recorder | .agentMeshAgent | .discovery => []

/-- `_SUBSCRIBE` -/
def subscribeGrants : Principal → List Family
  | .fleetSimulator => [.droneCommand]
  | .commandGateway =>
      [.operatorCommand, .operatorApproval, .gatewayRequest, .agentResponse,
        .droneCommandResult]
  | .dashboardApi =>
      [.droneTelemetry, .droneEvent, .droneCommand, .droneCommandResult,
        .gatewayRecord, .agentProposal, .agentResponse, .evidenceDecision,
        .audit]
  | .evidenceService => [.droneEvent, .agentProposal]
  | .recorder =>
      Family.all.filter fun family =>
        family ≠ .gatewayRequest ∧ family ≠ .gatewayResponse
  | .eventMeshGateway => [.droneEvent]
  | .eventMeshTool | .agentMeshAgent | .discovery => []

/-- `grants` -/
def grants (role : Principal) : Access → List Family
  | .publish => publishGrants role
  | .subscribe => subscribeGrants role

/-- `may_use_a2a` -/
def mayUseA2a (role : Principal) : Bool :=
  [.agentMeshAgent, .eventMeshGateway, .eventMeshTool].contains role

/-- `may_use_reply_channel` -/
def mayUseReplyChannel (role : Principal) : Bool :=
  role = .eventMeshTool

/-- Why a broker identity is not authorized. -/
inductive PrincipalRefusal where
  | denied (role : Principal) (access : Access) (family : Family)
deriving DecidableEq

/-- `authorize` -/
def authorize (role : Principal) (access : Access) (family : Family) :
    Except PrincipalRefusal Family := do
  ensure ((grants role access).contains family) (.denied role access family)
  pure family

end AerialRescue.Domain.Principals
