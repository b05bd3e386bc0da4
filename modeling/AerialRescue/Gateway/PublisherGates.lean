import AerialRescue.Contracts.EnvelopeBytes
import AerialRescue.Gateway.Normalization
import AerialRescue.Gateway.Service
import AerialRescue.Lib.Run

/-!
# Producer and publisher gates

The publisher validates every staged row again, from its bytes.  Whatever the
builders of the gateway stage passes that gate: the bytes decode to the
envelope that was checked when they were made, up to the normal form of its
data, and what the row repeats is ASCII text that the normal form keeps.
-/

namespace AerialRescue.Gateway

open AerialRescue.Contracts
open AerialRescue.Contracts.Canonical
open AerialRescue.Contracts.CanonicalForm
open AerialRescue.Contracts.EnvelopeObjects (Ascii BindsTo
  checkTopicBinding_eq_ok decodeEnvelope_of_spells get_normal normalEnvelope
  shortTexts_of_follows)
open AerialRescue.Contracts.Envelopes
open AerialRescue.Contracts.Rpc (AgentResponse)
open AerialRescue.Contracts.Topics
open AerialRescue.Gateway.Ingress
open AerialRescue.Lib.Guard
open AerialRescue.Lib.Run
open AerialRescue.Lib.Transaction
open AerialRescue.Store

/-! ## Topics -/

/-- The parameters of a formatted topic are ASCII. -/
theorem formatTopic_ascii {topic : Topic} {text : String}
    (formatted : formatTopic topic = .ok text)
    (unique : (topic.parameters.map Prod.fst).Nodup) :
    ∀ name expected, (name, expected) ∈ topic.parameters →
      Ascii expected := by
  intro name expected member
  have lookup := formatTopic_parameters formatted name
  rw [lookup_of_mem unique member] at lookup
  split at lookup
  · next known =>
      have conforming := (formatTopic_ok formatted).2.2 name
        (parameter_mem_levels.2 known)
      rw [← Option.some.inj lookup] at conforming
      exact fun character among =>
        (conforms_characters conforming character among).ascii
  · cases lookup

/-- A topic whose parameters are those of its template, in its order. -/
def InOrder (topic : Topic) : Prop :=
  boundParameters topic topic.family.levels = topic.parameters

theorem parseTopic_inOrder {topic : Topic} {text : String}
    (formatted : formatTopic topic = .ok text) (ordered : InOrder topic) :
    parseTopic text = .ok topic := by
  rw [parseTopic_formatTopic formatted (formatTopic_size formatted),
    ordered]

section Gates

variable {host : Host}

/-! ## Events that were checked when they were made -/

/-- The bytes of a checked document decode to its envelope in normal form,
which binds to the same topic. -/
theorem decodes_of_checked (ascii : host.KeepsAscii)
    (idempotent : Normalizes host) (reads : ReadsJson host)
    {members : Value.Members} {envelope checked : Envelope} {topic : Topic}
    {text : String} {bytes : Bytes} (spells : Spells members envelope)
    (distinct : (Value.keys members).Nodup)
    (keyed : Keyed (.object envelope.data))
    (parsed : parseEnvelope host (.object members) = .ok checked)
    (bound : checkTopicBinding checked topic = .ok ())
    (formatted : formatTopic topic = .ok text)
    (unique : (topic.parameters.map Prod.fst).Nodup)
    (encoded : canonicalBytes host (.object members) = .ok bytes) :
    envelope.WellFormed host ∧
      decodeEnvelope host bytes = .ok (normalEnvelope host envelope) ∧
      checkTopicBinding (normalEnvelope host envelope) topic = .ok () := by
  rcases parseEnvelope_eq_ok.1 parsed with ⟨also, formed⟩
  cases also.unique spells
  have data : InProfile host (.object envelope.data) := by
    rcases isOk_eq_true.1 formed.data with ⟨_, encodes⟩
    simp only [canonicalBytes, bind_eq_ok] at encodes
    rcases encodes with ⟨text, encodes, _⟩
    exact inProfile_of_encode _ text keyed encodes
  have binds := checkTopicBinding_eq_ok.1 bound
  exact ⟨formed,
    decodeEnvelope_of_spells ascii idempotent reads data formed spells
      distinct encoded,
    checkTopicBinding_eq_ok.2
      (binds.normal ascii data (formatTopic_ascii formatted unique))⟩

/-- The empty property object is read back. -/
theorem canonicalObject_empty (ascii : host.KeepsAscii)
    (idempotent : Normalizes host) (reads : ReadsJson host) {headers : Bytes}
    (encoded : canonicalBytes host (.object []) = .ok headers) :
    canonicalObject host headers = some [] := by
  have admitted : InProfile host (.object []) := by
    simp [InProfile, MembersInProfile, Value.keys]
  have text := canonicalBytes_normalize ascii admitted
  rw [encoded, Except.ok.injEq] at text
  have decoded := decode_normalize ascii idempotent reads admitted
  rw [← text] at decoded
  rw [canonicalObject, decoded]
  simp [CanonicalForm.normalize, normalizeMembers, sortMembers]

/-- What a row says of its own envelope. -/
structure RowOf (row : StagedApplicationEvent) (envelope : Envelope) :
    Prop where
  eventId : envelope.id = row.eventId
  traceparent : envelope.traceparent = row.traceparent
  tracestate : envelope.tracestate = row.tracestate
  correlationId : envelope.correlationId = row.correlationId
  causationId : envelope.causationId = row.causationId
  stagedAt : envelope.time = row.stagedAt

/-- The publisher accepts a row of the gateway that was made of its envelope
and its topic, with the empty property object. -/
theorem applicationProperties_of_row (ascii : host.KeepsAscii)
    (idempotent : Normalizes host) (reads : ReadsJson host)
    {row : StagedApplicationEvent} {envelope : Envelope} {topic : Topic}
    (formatted : formatTopic topic = .ok row.topic)
    (ordered : InOrder topic) (own : row.producer = producer)
    (family : row.family = topic.family.outboxFamily)
    (decoded : decodeEnvelope host row.payload = .ok envelope)
    (bound : checkTopicBinding envelope topic = .ok ())
    (rowOf : RowOf row envelope)
    (headers : canonicalBytes host (.object []) = .ok row.headers) :
    applicationProperties host row = .ok [] := by
  simp only [applicationProperties, bind_eq_ok, recast_eq_ok, ensure_eq_ok,
    exists_const, present_eq_ok]
  exact ⟨topic, parseTopic_inOrder formatted ordered, ⟨own, family⟩, envelope,
    decoded, (), bound,
    ⟨rowOf.eventId, rowOf.traceparent, rowOf.tracestate, rowOf.correlationId,
      rowOf.causationId, rowOf.stagedAt⟩,
    canonicalObject_empty ascii idempotent reads headers⟩

/-! ## Authorization artifacts -/

theorem keys_eventDocument (ingress : OperatorCommandIngress)
    (stamp : AuthorizationStamp) (spec : EventSpec)
    (kind dataschema sequence : String) :
    (Value.keys
      (eventDocument ingress stamp spec kind dataschema sequence)).Nodup := by
  cases held : stamp.tracestate <;> simp [eventDocument, held, Value.keys]

/-- The bytes of an output event decode to its envelope in normal form. -/
theorem event_decodes (ascii : host.KeepsAscii)
    (idempotent : Normalizes host) (reads : ReadsJson host)
    {ingress : OperatorCommandIngress} {stamp : AuthorizationStamp}
    {spec : EventSpec} {encoded : Encoded}
    (built : event host ingress stamp spec = .ok encoded)
    (ordered : InOrder spec.topic)
    (unique : (spec.topic.parameters.map Prod.fst).Nodup)
    (keyed : Keyed (.object spec.payload)) :
    ∃ text kind dataschema sequence,
      let envelope :=
        eventEnvelope ingress stamp spec kind dataschema sequence
      formatTopic spec.topic = .ok text ∧
        eventType spec.topic = .ok kind ∧ envelope.WellFormed host ∧
        decodeEnvelope host encoded.bytes =
          .ok (normalEnvelope host envelope) ∧
        checkTopicBinding (normalEnvelope host envelope) spec.topic =
          .ok () := by
  simp only [event, bind_eq_ok, recast_eq_ok, present_eq_ok,
    pure_eq_ok] at built
  rcases built with ⟨sequence, _, text, formatted, parsed, parses, kind,
    typed, bound, _, checked, accepted, _, binds, bytes, encodes, rfl⟩
  rw [parseTopic_inOrder formatted ordered] at parses
  cases parses
  exact ⟨text, kind, bound.dataschema, sequence, formatted, typed,
    decodes_of_checked ascii idempotent reads
      (spells_eventDocument ingress stamp spec kind bound.dataschema sequence)
      (keys_eventDocument ingress stamp spec kind bound.dataschema sequence)
      keyed accepted binds formatted unique encodes⟩

theorem keyed_document (action : OperatorAction) :
    Keyed (.object action.document) := by
  cases action <;>
    simp [OperatorAction.document, Keyed, MembersKeyed, Value.keys]

theorem keyed_auditPayload {ingress : OperatorCommandIngress}
    {stamp : AuthorizationStamp} {authorized : Bool}
    {approvalId : Option String} {reason : Option AuthorizationReason}
    {payload : Value.Members}
    (built :
      auditPayload ingress stamp authorized approvalId reason =
        .ok payload) : Keyed (.object payload) := by
  have action := keyed_document ingress.payload.action
  cases authorized with
  | true =>
      simp only [auditPayload, if_true, pure_eq_ok] at built
      cases approvalId <;> cases built <;>
        simp [Keyed, MembersKeyed, Value.keys] at action ⊢ <;> exact action
  | false =>
      simp only [auditPayload, Bool.false_eq_true, if_false, bind_eq_ok,
        pure_eq_ok] at built
      rcases built with ⟨_, _, rfl⟩
      simp [Keyed, MembersKeyed, Value.keys] at action ⊢
      exact action

theorem keyed_commandPayload {ingress : OperatorCommandIngress}
    {approvalId : Option String} {payload : Value.Members}
    (built : commandPayload ingress approvalId = .ok payload) :
    Keyed (.object payload) := by
  unfold commandPayload at built
  split at built
  · simp only [pure_eq_ok] at built
    cases built
    simp [Keyed, MembersKeyed, Value.keys]
  · simp only [bind_eq_ok, pure_eq_ok] at built
    rcases built with ⟨_, _, rfl⟩
    simp [Keyed, MembersKeyed, Value.keys]

/-- A command payload repeats the identities of its row. -/
theorem commandPayload_identities {ingress : OperatorCommandIngress}
    {approvalId : Option String} {payload : Value.Members}
    (built : commandPayload ingress approvalId = .ok payload) :
    Value.get "missionId" payload = .text ingress.payload.missionId ∧
      Value.get "droneId" payload =
        .text ingress.payload.action.droneId ∧
      Value.get "commandId" payload = .text ingress.payload.commandId := by
  unfold commandPayload at built
  split at built
  · simp only [pure_eq_ok] at built
    cases built
    exact ⟨rfl, rfl, rfl⟩
  · simp only [bind_eq_ok, pure_eq_ok] at built
    rcases built with ⟨_, _, rfl⟩
    exact ⟨rfl, rfl, rfl⟩

/-- The publisher accepts the audit event of every decision. -/
theorem auditEffects_accepted (ascii : host.KeepsAscii)
    (idempotent : Normalizes host) (reads : ReadsJson host)
    {ingress : OperatorCommandIngress} {stamp : AuthorizationStamp}
    {authorized : Bool} {approvalId : Option String}
    {reason : Option AuthorizationReason} {record : AuditRecord}
    {row : StagedApplicationEvent}
    (built :
      auditEffects host ingress stamp authorized approvalId reason =
        .ok (record, row)) :
    applicationProperties host row = .ok [] := by
  simp only [auditEffects, bind_eq_ok, recast_eq_ok, pure_eq_ok,
    Prod.mk.injEq] at built
  rcases built with ⟨payload, ofDecision, encoded, builtEvent, text,
    formatted, headers, empty, _, _, rfl, rfl⟩
  have ordered : InOrder (auditTopic ingress) := by rfl
  rcases event_decodes ascii idempotent reads builtEvent ordered
    (List.nodup_singleton _) (keyed_auditPayload ofDecision) with
    ⟨_, _, _, _, _, _, _, decoded, bound⟩
  exact applicationProperties_of_row ascii idempotent reads formatted ordered
    rfl rfl decoded bound ⟨rfl, rfl, rfl, rfl, rfl, rfl⟩ empty

/-- The publisher accepts the command of every authorized decision. -/
theorem commandEffects_accepted (ascii : host.KeepsAscii)
    (idempotent : Normalizes host) (reads : ReadsJson host)
    {ingress : OperatorCommandIngress} {stamp : AuthorizationStamp}
    {approvalId : Option String} {command : StagedCommand}
    {identity : CommandIdentity}
    (built :
      commandEffects host ingress stamp approvalId =
        .ok (command, identity)) :
    ∃ text, formatTopic (commandTopic ingress) = .ok text ∧
      publicationTopic host command = .ok text := by
  simp only [commandEffects, bind_eq_ok, pure_eq_ok, Prod.mk.injEq] at built
  rcases built with ⟨payload, ofAction, encoded, builtEvent, rfl, rfl⟩
  have ordered : InOrder (commandTopic ingress) := by rfl
  have keyed := keyed_commandPayload ofAction
  have distinct : (Value.keys payload).Nodup := by
    rw [Keyed] at keyed
    exact keyed.1
  have fixed : ∀ identifier : Identifier,
      host.nfc identifier.1 = identifier.1 := fun identifier =>
    ascii _ fun character member =>
      (isIdentifier_characters identifier.2 character member).ascii
  rcases event_decodes ascii idempotent reads builtEvent ordered
    (by simp [commandTopic]) keyed with ⟨text, kind, _, _, formatted, typed, _, decoded, bound⟩
  rcases commandPayload_identities ofAction with ⟨mission, drone, named⟩
  refine ⟨text, formatted, ?_⟩
  have derived : kind = commandKind ingress.payload.action :=
    eventType_commandTopic typed
  have published : publishedCommandType kind =
      some ingress.payload.action.commandType := by
    rw [derived]
    cases ingress.payload.action <;> rfl
  have repeats : ∀ {name : String} {identifier : Identifier},
      Value.get name payload = .text identifier →
        memberEq (sortMembers (normalizeMembers host payload)) name
          (.text identifier) = true := fun held =>
    Value.pyEq_text.2 (get_normal distinct (fixed _) held)
  simp only [publicationTopic, bind_eq_ok, recast_eq_ok, present_eq_ok]
  exact ⟨_, decoded, _, published, (),
    ensure_of ⟨repeats mission, repeats drone, repeats named, rfl, rfl, rfl⟩,
    (), bound, formatted⟩

/-! ## Normalization artifacts -/

namespace Normalization

theorem keyed_proposalPayload {response : AgentResponse}
    {pending : PendingInvocation} {stamp : NormalizationStamp}
    {payload : Value.Members}
    (built : proposalPayload host response pending stamp = .ok payload) :
    Keyed (.object payload) ∧
      ∃ digest, Value.get "proposalDigest" payload = .text digest := by
  simp only [proposalPayload, bind_eq_ok, pure_eq_ok] at built
  rcases built with ⟨candidate, _, digest, _, rfl⟩
  refine ⟨?_, digest, rfl⟩
  simp [proposalMembers, Keyed, MembersKeyed, Value.keys]

theorem keyed_auditPayload {response : AgentResponse}
    {pending : PendingInvocation} {stamp : NormalizationStamp}
    {proposal : Option Value.Members} {payload : Value.Members}
    (digested : ∀ members, proposal = some members →
      ∃ digest, Value.get "proposalDigest" members = .text digest)
    (built : auditPayload response pending stamp proposal = .ok payload) :
    Keyed (.object payload) := by
  cases proposal with
  | none =>
      simp only [auditPayload, bind_eq_ok, pure_eq_ok] at built
      rcases built with ⟨_, _, rfl⟩
      simp [Keyed, MembersKeyed, Value.keys]
  | some members =>
      rcases digested members rfl with ⟨digest, held⟩
      simp only [auditPayload, pure_eq_ok, held] at built
      cases built
      simp [Keyed, MembersKeyed, Value.keys]

/-- The bytes of an output event decode to its envelope in normal form. -/
theorem event_decodes (ascii : host.KeepsAscii)
    (idempotent : Normalizes host) (reads : ReadsJson host)
    {pending : PendingInvocation} {stamp : NormalizationStamp}
    {spec : EventSpec} {bytes : Bytes} {text : String}
    (built : event host pending stamp spec = .ok bytes)
    (formatted : formatTopic spec.topic = .ok text)
    (unique : (spec.topic.parameters.map Prod.fst).Nodup)
    (keyed : Keyed (.object spec.payload)) :
    ∃ envelope,
      decodeEnvelope host bytes = .ok envelope ∧
        checkTopicBinding envelope spec.topic = .ok () := by
  simp only [event, bind_eq_ok, recast_eq_ok, present_eq_ok] at built
  rcases built with ⟨sequence, _, kind, _, bound, _, checked, accepted, _,
    binds, encodes⟩
  have decodes := decodes_of_checked ascii idempotent reads
    (spells_eventDocument pending stamp spec kind bound.dataschema sequence)
    (keys_eventDocument pending stamp spec kind bound.dataschema sequence)
    keyed accepted binds formatted unique encodes
  exact ⟨_, decodes.2⟩

/-- The publisher accepts every row of a built event. -/
theorem staged_accepted (ascii : host.KeepsAscii)
    (idempotent : Normalizes host) (reads : ReadsJson host)
    {pending : PendingInvocation} {stamp : NormalizationStamp}
    {spec : EventSpec} {bytes : Bytes} {row : StagedApplicationEvent}
    (built : event host pending stamp spec = .ok bytes)
    (rowed : staged host bytes spec.topic.family spec.topic = .ok row)
    (ordered : InOrder spec.topic)
    (unique : (spec.topic.parameters.map Prod.fst).Nodup)
    (keyed : Keyed (.object spec.payload)) :
    applicationProperties host row = .ok [] := by
  simp only [staged, bind_eq_ok, recast_eq_ok, pure_eq_ok] at rowed
  rcases rowed with ⟨envelope, decoded, text, formatted, headers, empty, rfl⟩
  rcases event_decodes ascii idempotent reads built formatted unique keyed
    with ⟨also, decodes, bound⟩
  rw [decoded, Except.ok.injEq] at decodes
  subst decodes
  exact applicationProperties_of_row ascii idempotent reads formatted ordered
    rfl rfl decoded bound ⟨rfl, rfl, rfl, rfl, rfl, rfl⟩ empty

theorem staged_own {bytes : Bytes} {family : Family} {topic : Topic}
    {row : StagedApplicationEvent}
    (rowed : staged host bytes family topic = .ok row) :
    row.producer = producer := by
  simp only [staged, bind_eq_ok, pure_eq_ok] at rowed
  rcases rowed with ⟨_, _, _, _, _, _, rfl⟩
  rfl

theorem auditEffects_own {response : AgentResponse}
    {pending : PendingInvocation} {stamp : NormalizationStamp}
    {proposal : Option Value.Members} {row : StagedApplicationEvent}
    (built : auditEffects host response pending stamp proposal = .ok row) :
    row.producer = producer := by
  simp only [auditEffects, bind_eq_ok] at built
  rcases built with ⟨_, _, _, _, rowed⟩
  exact staged_own rowed

theorem proposalEffects_own {response : AgentResponse}
    {pending : PendingInvocation} {stamp : NormalizationStamp}
    {payload : Value.Members} {proposal : StoredProposal}
    {row : StagedApplicationEvent}
    (built :
      proposalEffects host response pending stamp =
        .ok (payload, proposal, row)) : row.producer = producer := by
  simp only [proposalEffects, bind_eq_ok, pure_eq_ok,
    Prod.mk.injEq] at built
  rcases built with ⟨_, _, _, _, _, _, _, rowed, _, _, _, _, rfl⟩
  exact staged_own rowed

theorem auditEffects_accepted (ascii : host.KeepsAscii)
    (idempotent : Normalizes host) (reads : ReadsJson host)
    {response : AgentResponse} {pending : PendingInvocation}
    {stamp : NormalizationStamp} {proposal : Option Value.Members}
    {row : StagedApplicationEvent}
    (digested : ∀ members, proposal = some members →
      ∃ digest, Value.get "proposalDigest" members = .text digest)
    (built : auditEffects host response pending stamp proposal = .ok row) :
    applicationProperties host row = .ok [] := by
  simp only [auditEffects, bind_eq_ok] at built
  rcases built with ⟨payload, ofResponse, bytes, builtEvent, rowed⟩
  exact staged_accepted ascii idempotent reads builtEvent rowed rfl
    (List.nodup_singleton _) (keyed_auditPayload digested ofResponse)

theorem proposalEffects_accepted (ascii : host.KeepsAscii)
    (idempotent : Normalizes host) (reads : ReadsJson host)
    {response : AgentResponse} {pending : PendingInvocation}
    {stamp : NormalizationStamp} {payload : Value.Members}
    {proposal : StoredProposal} {row : StagedApplicationEvent}
    (built :
      proposalEffects host response pending stamp =
        .ok (payload, proposal, row)) :
    applicationProperties host row = .ok [] ∧
      ∃ digest, Value.get "proposalDigest" payload = .text digest := by
  simp only [proposalEffects, bind_eq_ok, pure_eq_ok,
    Prod.mk.injEq] at built
  rcases built with ⟨_, _, _, ofCandidate, bytes, builtEvent, _, rowed, _, _,
    rfl, _, rfl⟩
  rcases keyed_proposalPayload ofCandidate with ⟨keyed, digested⟩
  exact ⟨staged_accepted ascii idempotent reads builtEvent rowed rfl
    (by simp [proposalTopic]) keyed, digested⟩

/-- The publisher accepts every event of a normalization. -/
theorem buildNormalization_accepted (ascii : host.KeepsAscii)
    (idempotent : Normalizes host) (reads : ReadsJson host)
    {ingress : AgentResponseIngress} {pending : PendingInvocation}
    {stamp : NormalizationStamp} {artifacts : NormalizationArtifacts}
    (built :
      buildNormalization host ingress pending stamp = .ok artifacts) :
    ∀ row ∈ artifacts.events,
      row.producer = producer ∧ applicationProperties host row = .ok [] := by
  simp only [buildNormalization, bind_eq_ok] at built
  rcases built with ⟨_, _, rest⟩
  cases outcome : ingress.response.outcome with
  | candidate =>
      simp only [outcome, bind_eq_ok, pure_eq_ok] at rest
      rcases rest with ⟨⟨payload, proposal, row⟩, proposed, audit, audited,
        rfl⟩
      rcases proposalEffects_accepted ascii idempotent reads proposed with
        ⟨accepted, digested⟩
      have audits := auditEffects_accepted ascii idempotent reads
        (by rintro members ⟨rfl⟩; exact digested) audited
      simp only [List.forall_mem_cons, List.not_mem_nil, false_implies,
        implies_true, and_true]
      exact ⟨⟨proposalEffects_own proposed, accepted⟩,
        auditEffects_own audited, audits⟩
  | abstained =>
      simp only [outcome, bind_eq_ok, pure_eq_ok] at rest
      rcases rest with ⟨audit, audited, rfl⟩
      rw [List.forall_mem_singleton]
      exact ⟨auditEffects_own audited,
        auditEffects_accepted ascii idempotent reads (by simp) audited⟩

end Normalization

/-! ## Durable rows -/

/-- The publisher accepts every row that the gateway holds in its outboxes. -/
structure Publishable (host : Host) (database : Database) : Prop where
  commands : ∀ row ∈ database.commandOutbox.rows,
    ∃ text, publicationTopic host row.command = .ok text
  events : ∀ row ∈ database.applicationOutbox.rows,
    row.event.producer = producer →
      ∃ properties, applicationProperties host row.event = .ok properties

theorem Publishable.congr {before after : Database}
    (publishable : Publishable host before)
    (commands : after.commandOutbox.rows.map CommandOutboxRow.command =
      before.commandOutbox.rows.map CommandOutboxRow.command)
    (events : after.applicationOutbox.rows.map ApplicationOutboxRow.event =
      before.applicationOutbox.rows.map ApplicationOutboxRow.event) :
    Publishable host after where
  commands := by
    intro row member
    have among := List.mem_map_of_mem (f := CommandOutboxRow.command) member
    rw [commands] at among
    rcases List.mem_map.1 among with ⟨held, earlier, same⟩
    rw [← same]
    exact publishable.commands held earlier
  events := by
    intro row member
    have among := List.mem_map_of_mem (f := ApplicationOutboxRow.event) member
    rw [events] at among
    rcases List.mem_map.1 among with ⟨held, earlier, same⟩
    rw [← same]
    exact publishable.events held earlier

/-- The artifacts of a decision are published when they are staged. -/
theorem Publishable.written (ascii : host.KeepsAscii)
    (idempotent : Normalizes host) (reads : ReadsJson host)
    {before after : Database} {ingress : OperatorCommandIngress}
    {identity : InboxIdentity} {stamp : AuthorizationStamp}
    {claim : StoredClaim} {decision : Decision}
    {artifacts : AuthorizationArtifacts}
    (publishable : Publishable host before)
    (written :
      Written host before after ingress identity stamp claim decision
        artifacts) : Publishable host after := by
  rcases buildAuthorizationArtifacts_ok written.built with
    ⟨audited, _, commanded⟩
  constructor
  · intro row member
    rw [written.commandOutbox, List.mem_append] at member
    rcases member with earlier | staged
    · exact publishable.commands row earlier
    · split at commanded
      · rcases commanded with ⟨command, built, held⟩
        simp only [stagedCommands, held, Option.elim_some,
          List.mem_singleton] at staged
        subst staged
        rcases commandEffects_accepted ascii idempotent reads built with
          ⟨text, _, accepted⟩
        exact ⟨text, accepted⟩
      · simp [stagedCommands, commanded] at staged
  · intro row member _
    rw [written.applicationOutbox, List.mem_append] at member
    rcases member with earlier | staged
    · exact publishable.events row earlier ‹_›
    · rw [List.mem_singleton] at staged
      subst staged
      exact ⟨[], auditEffects_accepted ascii idempotent reads audited⟩

/-- The staging loop of a normalization transaction. -/
def stageEvents : List StagedApplicationEvent → StoreTx Unit
  | [] => pure ()
  | event :: rest => do
      stageApplication event
      stageEvents rest

/-- What a normalization leaves in the outbox: the events of its artifacts, or
nothing when it is refused or one of them is staged already. -/
def stageNormalization (host : Host) (database : Database)
    (ingress : Normalization.AgentResponseIngress)
    (pending : Normalization.PendingInvocation)
    (stamp : Normalization.NormalizationStamp) : Database :=
  match Normalization.buildNormalization host ingress pending stamp with
  | .error _ => database
  | .ok artifacts =>
      (exec (atomically (stageEvents artifacts.events)) database).2

theorem stageEvents_ok {events : List StagedApplicationEvent}
    {before after : Database} {value : Unit}
    (staged : exec (stageEvents events) before = (.ok value, after)) :
    after.commandOutbox = before.commandOutbox ∧
      after.applicationOutbox.rows = before.applicationOutbox.rows ++
        events.map fun event => ⟨event, .staged, none⟩ := by
  induction events generalizing before with
  | nil =>
      cases staged
      simp
  | cons event rest inductionHypothesis =>
      simp only [stageEvents, exec_bind_eq_ok, stageApplication_ok] at staged
      rcases staged with ⟨_, _, ⟨outbox, inserted, rfl⟩, later⟩
      rcases inductionHypothesis later with ⟨commands, events⟩
      refine ⟨commands, ?_⟩
      rw [events]
      simp [Lib.Table.insert?_rows inserted]

theorem Publishable.normalization (ascii : host.KeepsAscii)
    (idempotent : Normalizes host) (reads : ReadsJson host)
    {database : Database} (publishable : Publishable host database)
    (ingress : Normalization.AgentResponseIngress)
    (pending : Normalization.PendingInvocation)
    (stamp : Normalization.NormalizationStamp) :
    Publishable host
      (stageNormalization host database ingress pending stamp) := by
  unfold stageNormalization
  cases built : Normalization.buildNormalization host ingress pending stamp with
  | error failure => exact publishable
  | ok artifacts =>
      rcases outcome : exec (atomically (stageEvents artifacts.events))
        database with ⟨result, after⟩
      cases result with
      | error failure =>
          simp only [outcome, atomically_rolls_back outcome]
          exact publishable
      | ok value =>
          rcases stageEvents_ok (exec_atomically_eq_ok.1 outcome) with
            ⟨commands, events⟩
          simp only [outcome]
          constructor
          · intro row member
            rw [commands] at member
            exact publishable.commands row member
          · intro row member own
            rw [events, List.mem_append] at member
            rcases member with earlier | staged
            · exact publishable.events row earlier own
            · rcases List.mem_map.1 staged with ⟨event, among, rfl⟩
              exact ⟨[], (Normalization.buildNormalization_accepted ascii
                idempotent reads built event among).2⟩

/-- A turn of the gateway's serving loop, or the normalization of a response. -/
inductive ProducerStep where
  | serve (step : GatewayStep)
  | normalize (ingress : Normalization.AgentResponseIngress)
      (pending : Normalization.PendingInvocation)
      (stamp : Normalization.NormalizationStamp)

/-- The world after one step of the producer. -/
def producerStep (host : Host) (world : World) : ProducerStep → World
  | .serve step => gatewayStep host world step
  | .normalize ingress pending stamp =>
      { world with
        database :=
          stageNormalization host world.database ingress pending stamp }

/-- Every effect of a gateway step keeps the outboxes publishable. -/
theorem Publishable.effect (ascii : host.KeepsAscii)
    (idempotent : Normalizes host) (reads : ReadsJson host)
    {before after : Database} (publishable : Publishable host before)
    (effect : StepEffect host before after) : Publishable host after := by
  cases effect with
  | refusal same =>
      rw [SameButRefusals] at same
      exact publishable.congr (by rw [same]) (by rw [same])
  | approval bound =>
      exact publishable.congr (by rw [bound.frame]) (by rw [bound.frame])
  | result moved =>
      exact publishable.congr (by rw [moved.frame]) (by rw [moved.frame])
  | publication published =>
      exact publishable.congr published.commands published.events
  | command ingress identity turn result committed =>
      cases committed with
      | redelivery _ _ _ _ _ _ unchanged =>
          rw [unchanged]
          exact publishable
      | prior _ _ frame _ =>
          exact publishable.congr (by rw [frame]) (by rw [frame])
      | decided _ _ _ _ _ written =>
          exact publishable.written ascii idempotent reads written

/-- No run of the gateway leaves a row that the publisher refuses. -/
theorem run_publishable (ascii : host.KeepsAscii)
    (idempotent : Normalizes host) (reads : ReadsJson host)
    (steps : List ProducerStep) {world : World}
    (publishable : Publishable host world.database) :
    Publishable host (run (producerStep host) world steps).database := by
  have keeps : ∀ (before : World) (step : ProducerStep),
      Publishable host before.database →
        Publishable host (producerStep host before step).database := by
    intro before step held
    cases step with
    | serve step =>
        exact held.effect ascii idempotent reads
          (gatewayStep_effect before step)
    | normalize ingress pending stamp =>
        exact held.normalization ascii idempotent reads ingress pending stamp
  exact run_keeps_always keeps steps publishable

/-- Producer and publisher agree: every command and every event that a builder
stages is accepted by the publisher, and so is every row that a run of the
gateway leaves in its outboxes. -/
theorem gates_agree (host : Host) (ascii : host.KeepsAscii)
    (idempotent : Normalizes host) (reads : ReadsJson host) :
    (∀ ingress stamp authorized approvalId reason artifacts,
      buildAuthorizationArtifacts host ingress stamp authorized approvalId
          reason = .ok artifacts →
        (∃ properties,
          applicationProperties host artifacts.auditEvent =
            .ok properties) ∧
        ∀ command identity, artifacts.command = some (command, identity) →
          ∃ text, publicationTopic host command = .ok text) ∧
    (∀ ingress pending stamp artifacts,
      Normalization.buildNormalization host ingress pending stamp =
          .ok artifacts →
        ∀ row ∈ artifacts.events,
          ∃ properties, applicationProperties host row = .ok properties) ∧
    ∀ steps world, Publishable host world.database →
      Publishable host (run (producerStep host) world steps).database := by
  refine ⟨?_, ?_, fun steps world publishable =>
    run_publishable ascii idempotent reads steps publishable⟩
  · intro ingress stamp authorized approvalId reason artifacts built
    rcases buildAuthorizationArtifacts_ok built with ⟨audited, _, commanded⟩
    refine ⟨⟨[], auditEffects_accepted ascii idempotent reads audited⟩, ?_⟩
    intro command identity held
    split at commanded
    · rcases commanded with ⟨pair, effects, staged⟩
      rw [held, Option.some.injEq] at staged
      subst staged
      rcases commandEffects_accepted ascii idempotent reads effects with
        ⟨text, _, accepted⟩
      exact ⟨text, accepted⟩
    · rw [held] at commanded
      cases commanded
  · intro ingress pending stamp artifacts built row member
    exact ⟨[], (Normalization.buildNormalization_accepted ascii idempotent
      reads built row member).2⟩

/-- A response whose agent abstained. -/
def abstention : Normalization.AgentResponseIngress where
  topic := ⟨.agentResponse, "mission-1", []⟩
  response :=
    { missionId := "mission-1"
      agentName := "LocatorAgent"
      invocationId := "invocation-1"
      correlationId := "mission-1"
      outcome := .abstained
      candidate := none
      reason := some .timeout }

/-- The invocation that the abstention answers. -/
def abstentionPending : Normalization.PendingInvocation where
  missionId := "mission-1"
  agentName := "LocatorAgent"
  invocationId := "invocation-1"
  correlationId := "mission-1"
  sourceEventId := "event-1"
  sourceEventDigest := "0"

/-- The stamp that the abstention is normalized with. -/
def abstentionStamp : Normalization.NormalizationStamp where
  producerId := "command-gateway"
  proposalId := "proposal-1"
  proposalEventId := "event-2"
  auditRecordId := "record-1"
  auditEventId := "event-3"
  occurredAt := "2026-01-01T00:00:01.000Z"
  proposalSequence := 1
  auditSequence := 2
  traceparent := "00-0af7651916cd43dd8448eb211c80319c-b7ad6b7169203331-01"
  tracestate := none

/-- An abstention is normalized, and its audit event is accepted. -/
theorem gates_agree_abstention :
    ∃ artifacts,
      Normalization.buildNormalization readingHost abstention
          abstentionPending abstentionStamp = .ok artifacts ∧
        artifacts.events.length = 1 ∧
        ∀ row ∈ artifacts.events, ∃ properties,
          applicationProperties readingHost row = .ok properties := by
  have ascii : readingHost.KeepsAscii := fun _ _ => rfl
  have idempotent : Normalizes readingHost := fun _ => rfl
  rcases payloadOf : Normalization.auditPayload abstention.response
    abstentionPending abstentionStamp none with _ | payload
  · cases payloadOf
  rcases isOk_eq_true.1 (by
    cases payloadOf
    decide : (Normalization.event readingHost abstentionPending
      abstentionStamp
      { topic := Normalization.auditTopic abstentionPending
        payload
        eventId := abstentionStamp.auditEventId
        sequence := abstentionStamp.auditSequence }).isOk = true)
    with ⟨bytes, made⟩
  rcases isOk_eq_true.1 (by decide :
    (formatTopic (Normalization.auditTopic abstentionPending)).isOk = true)
    with ⟨text, formatted⟩
  rcases isOk_eq_true.1 (by decide :
    (canonicalBytes readingHost (.object [])).isOk = true)
    with ⟨headers, empty⟩
  rcases Normalization.event_decodes ascii idempotent readingHost_reads made
    formatted (List.nodup_singleton _)
    (Normalization.keyed_auditPayload (by simp) payloadOf) with
    ⟨envelope, decoded, _⟩
  have bound : Normalization.bindPending abstention.response
      abstentionPending = .ok () := by decide
  have rowed : ∃ row, Normalization.staged readingHost bytes .audit
      (Normalization.auditTopic abstentionPending) = .ok row := by
    simp only [Normalization.staged, bind_eq_ok, recast_eq_ok, pure_eq_ok]
    exact ⟨_, envelope, decoded, text, formatted, headers, empty, rfl⟩
  rcases rowed with ⟨row, rowed⟩
  have audited : Normalization.auditEffects readingHost abstention.response
      abstentionPending abstentionStamp none = .ok row :=
    bind_eq_ok.2 ⟨payload, payloadOf, bind_eq_ok.2 ⟨bytes, made, rowed⟩⟩
  have built : Normalization.buildNormalization readingHost abstention
      abstentionPending abstentionStamp =
        .ok ⟨none, [row], row.payload⟩ := by
    refine bind_eq_ok.2 ⟨(), bound, ?_⟩
    exact bind_eq_ok.2 ⟨row, audited, rfl⟩
  exact ⟨_, built, rfl, (gates_agree readingHost ascii idempotent
    readingHost_reads).2.1 _ _ _ _ built⟩

end Gates

end AerialRescue.Gateway
