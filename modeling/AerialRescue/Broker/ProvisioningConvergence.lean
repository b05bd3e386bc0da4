import AerialRescue.Broker.ApplyConvergence

/-!
# Provisioning converges

An apply that starts in any store and is interrupted anywhere reaches one
target, and leaves it there when it is repeated.  It does so exactly when the
name of the message VPN stands for itself in a path and the topic exceptions
of its profiles are of the SMF syntax.
-/

namespace AerialRescue.Broker.Provisioning

open AerialRescue.Lib AerialRescue.Lib.Guard AerialRescue.Lib.Clients
open AerialRescue.Contracts AerialRescue.Contracts.Canonical
open AerialRescue.Broker.Queues AerialRescue.Broker.Desired
open AerialRescue.Broker.Retirement (quote)
open AerialRescue.Broker.Semp
open AerialRescue.Domain.Principals

/-- An apply of the store completes, with the aims of another one. -/
def Reaches (state : DesiredState) (store origin : ConfigStore) : Prop :=
  ((apply state).serve semp store).1 = .ok () ∧
    ∀ path, ((apply state).serve semp store).2.get? path =
      target state origin path

/-- Applies converge from a store on. -/
structure Converges (state : DesiredState) (store : ConfigStore) : Prop where
  reaches : Reaches state store store
  provided : ∀ pair ∈ (apply state).trail semp store,
    Provided state.vpn pair.1 pair.2
  repeated :
    ∀ pair ∈ (apply state).trail semp ((apply state).serve semp store).2,
      isReconciling pair.2 = false
  resumed : ∀ later ∈ (apply state).reached semp store,
    Reaches state later store

/-! ## Convergence -/

section Convergence

variable {state : DesiredState} {store : ConfigStore}

/-- A store with SMF exceptions only starts at its own target. -/
theorem at_start (smf : SmfOnly state store) :
    At state (target state store) (fun _ => False) store := by
  refine ⟨?_, fun _ => rfl, fun _ impossible => impossible.elim⟩
  intro topics member key object found entry inExtra
  simp only [ownedTopics, List.mem_append, List.mem_flatMap, List.mem_map,
    List.mem_pair] at member
  rcases member with ⟨profile, inState, rfl | rfl⟩ | ⟨queue, _, rfl⟩
  · rw [List.mem_singleton.1 inExtra]
    exact text_eq_some.1 (smf profile inState .publish key object found)
  · rw [List.mem_singleton.1 inExtra]
    exact text_eq_some.1 (smf profile inState .subscribe key object found)
  · cases inExtra

theorem target_reachable (ordered : Ordered state) (plain : Plain state.vpn)
    (factory : FactoryExists state.vpn store)
    (retired : RetiredAbsent state.vpn store) :
    Reachable state (target state store) := by
  have patched {patch : Path × Body} (member : patch ∈ patches state.vpn)
      (there : (store.get? patch.1).isSome) :
      (target state store patch.1).isSome := by
    rw [target, aim_patch ordered member, Option.isSome_map]
    exact there
  have root : ([], brokerProtocolState) ∈ patches state.vpn := by
    simp [patches]
  have vpn : (vpnPlace state.vpn, vpnProtocolState) ∈ patches state.vpn := by
    simp [patches]
  constructor
  · exact plain
  · exact patched root store.root
  · exact patched vpn factory.1
  · exact patched List.mem_cons_self factory.2
  · intro collection member
    rw [target, aim_retired ordered member]
    exact retired collection member

theorem reaches_of_at (ordered : Ordered state) {goal : Path → Option Members}
    {origin later : ConfigStore} (same : goal = target state origin)
    (reachable : Reachable state goal)
    (stands : At state goal (fun _ => False) later) :
    Reaches state later origin := by
  have run : Serves semp (Allowed state goal fun _ => False)
      (At state goal fun _ => False) (apply state)
      fun _ => At state goal fun _ => True :=
    serves_apply ordered reachable
  rcases run later stands with ⟨_, _, completes, final⟩
  exact ⟨completes, fun path => same ▸ final.settled path trivial⟩

/-- Applies converge from every store with SMF exceptions only. -/
theorem converges_of_smfOnly (ordered : Ordered state)
    (factory : FactoryExists state.vpn store)
    (retired : RetiredAbsent state.vpn store) (plain : Plain state.vpn)
    (smf : SmfOnly state store) : Converges state store := by
  have reachable := target_reachable ordered plain factory retired
  have start := at_start smf
  have first : Serves semp (Allowed state (target state store) fun _ => False)
      (At state (target state store) fun _ => False) (apply state)
      fun _ => At state (target state store) fun _ => True :=
    serves_apply ordered reachable
  have second : Serves semp (Allowed state (target state store) fun _ => True)
      (At state (target state store) fun _ => True) (apply state)
      fun _ => At state (target state store) fun _ => True :=
    serves_apply ordered reachable
  rcases first store start with ⟨asked, _, completes, final⟩
  constructor
  · exact reaches_of_at ordered rfl reachable start
  · exact fun pair member => (asked pair member).provided
  · intro pair member
    rcases second _ final with ⟨again, _⟩
    have allowed := again pair member
    cases reconciling : isReconciling pair.2 with
    | false => rfl
    | true =>
        rcases allowed.needed reconciling with ⟨path, differs⟩
        exact absurd (allowed.held.settled path trivial) differs
  · intro later member
    refine reaches_of_at ordered rfl reachable ?_
    exact first.reached (fun _ _ allowed => allowed.held)
      (fun _ _ last => last.mono fun _ _ => trivial) start later member

end Convergence

/-! ## The name of the message VPN -/

/-- A text that its first segment stands for stands for itself. -/
theorem plain_of_head {text : String} {first : Bytes} {rest : Path}
    (split : segments text = first :: rest) (same : octets text = first) :
    Plain text := by
  by_cases whole : '/' ∈ text.toList
  · rcases List.eq_append_cons_of_mem whole with
      ⟨before, after, spelled, unsplit⟩
    have head : first = Percent.unquote before := by
      rw [segments, spelled, List.splitOn_append_cons_of_beq _ _ (by decide),
        List.splitOn_eq_singleton unsplit] at split
      exact (List.cons.inj split).1.symm
    have shorter := Percent.length_unquote_le before
    rw [← head, ← same, ← utf8_toList, spelled] at shorter
    simp only [utf8, List.flatMap_append, List.flatMap_cons,
      List.length_append] at shorter
    have one : (String.utf8EncodeChar '/').length = 1 := by decide
    omega
  · rw [Plain, segments_single whole]
    rw [segments_single whole] at split
    rw [same, (List.cons.inj split).1]

theorem serve_each_ok {item : Type} {act : item → Applying Unit}
    {items : List item} {store : ConfigStore}
    (completes : ((Client.each act items).serve semp store).1 = .ok ()) :
    ∀ each ∈ items, ∃ earlier, ((act each).serve semp earlier).1 = .ok () := by
  induction items generalizing store with
  | nil =>
      intro each member
      cases member
  | cons head rest inductionHypothesis =>
      rcases serve_bind_ok completes with ⟨_, first, later⟩
      intro each member
      rcases List.mem_cons.1 member with rfl | further
      · exact ⟨store, first⟩
      · exact inductionHypothesis later each further

/-- An accepted `PUT` is in the message VPN that it names. -/
theorem put_inVpn {store : ConfigStore} {request : Request}
    {rows : List Members} (method : request.method = .put)
    (accepted : (store.send request).1 = .ok rows) :
    inVpn (Semp.decode request.path) (members request.body) = true := by
  rw [ConfigStore.send, method] at accepted
  simp only [ConfigStore.put] at accepted
  split at accepted
  · rename_i conditions
    rw [Bool.and_eq_true] at conditions
    exact conditions.2
  · cases accepted

/-- A write that completes has had its own request accepted. -/
theorem writeVerified_sends {request : Request} {store : ConfigStore}
    (completes : ((writeVerified request).serve semp store).1 = .ok ()) :
    ∃ rows, (store.send request).1 = .ok rows := by
  rcases serve_bind_ok completes with ⟨rows, sent, _⟩
  exact ⟨rows, recast_eq_ok.1 sent⟩

theorem queueRequest_accepted {vpn : String} {queue : QueueSpec}
    {store : ConfigStore}
    (completes : ((writeVerified (queueRequest vpn queue)).serve
      semp store).1 = .ok ()) : Plain vpn := by
  rcases writeVerified_sends completes with ⟨_, sent⟩
  have inside := put_inVpn rfl sent
  have nonempty : segments vpn ≠ [] := by
    rw [segments, Ne, List.map_eq_nil_iff]
    exact List.splitOn_ne_nil _ _
  rcases List.exists_cons_of_ne_nil nonempty with ⟨first, rest, split⟩
  refine plain_of_head split ?_
  have path : Semp.decode (queueRequest vpn queue).path =
      octets "msgVpns" :: first ::
        (rest ++ ["queues", quote queue.name].flatMap segments) := by
    change Semp.decode (joined ["msgVpns", vpn, "queues", quote queue.name]) = _
    rw [decode_joined, List.flatMap_cons, split]
    rfl
  change inVpn _ (members (queueBody vpn queue)) = true at inside
  unfold inVpn at inside
  rw [path, (queueBody_text vpn queue).1] at inside
  exact of_decide_eq_true inside

/-- An apply completes only in a message VPN whose name stands for itself. -/
theorem plain_of_completes {state : DesiredState} {store : ConfigStore}
    (ordered : Ordered state)
    (completes : ((apply state).serve semp store).1 = .ok ()) :
    Plain state.vpn := by
  rcases serve_bind_ok completes with ⟨_, _, afterFields⟩
  rcases serve_bind_ok afterFields with ⟨_, _, afterFactory⟩
  rcases serve_bind_ok afterFactory with ⟨_, _, afterBroker⟩
  rcases serve_bind_ok afterBroker with ⟨_, _, afterVpn⟩
  rcases serve_bind_ok afterVpn with ⟨_, _, afterDiscovery⟩
  rcases serve_bind_ok afterDiscovery with ⟨_, _, afterRetired⟩
  rcases serve_bind_ok afterRetired with ⟨_, queues, _⟩
  have template : upstreamTemplate .agentMeshAgent
      "aerial-rescue-agent-mesh-temp" ∈ queueTemplates :=
    List.mem_cons_self
  rcases serve_each_ok queues _ (ordered.templateQueues _ template) with
    ⟨earlier, turn⟩
  have chosen : (templateDmqs state).contains
      (templateQueue (upstreamTemplate .agentMeshAgent
        "aerial-rescue-agent-mesh-temp")).name = true := by
    rw [templateDmqs, ordered.templates]
    decide +kernel
  simp only [chosen, if_true] at turn
  rcases serve_bind_ok turn with ⟨_, written, _⟩
  exact queueRequest_accepted written

/-! ## Rows that no apply removes -/

/-- The query removes nothing at a place. -/
def Spares (path : Path) : Query → Prop
  | .send request =>
      request.method = .delete → Semp.decode request.path ≠ path
  | _ => True

section Spared

variable {path : Path} {store : ConfigStore}

theorem write_keeps {other : Path} {object : Members}
    (there : (store.get? path).isSome) :
    ((store.write other object).2.get? path).isSome := by
  unfold ConfigStore.write
  split
  · rw [ConfigStore.get?_set]
    split
    · rfl
    · exact there
  · exact there

/-- What is spared by a query stays. -/
theorem next_keeps {query : Query} (spares : Spares path query)
    (there : (store.get? path).isSome) :
    ((semp.next store query).get? path).isSome := by
  cases query with
  | requireConfigFields required => exact there
  | readAll collection => exact there
  | send request =>
      change ((store.send request).2.get? path).isSome = true
      unfold ConfigStore.send
      cases method : request.method with
      | get => exact there
      | put =>
          simp only [ConfigStore.put]
          split
          · exact write_keeps there
          · exact there
      | patch =>
          simp only [ConfigStore.patch]
          split
          · exact write_keeps there
          · exact there
      | post =>
          simp only [ConfigStore.post]
          split
          · split
            · exact write_keeps there
            · exact there
          · exact there
      | delete =>
          have other : path ≠ Semp.decode request.path :=
            Ne.symm (spares method)
          simp only [ConfigStore.delete]
          split
          · split
            · rw [ConfigStore.get?_erase, if_neg other]
              exact there
            · exact there
          · exact there

theorem asks_writeVerified {request : Request}
    (other : request.method ≠ .delete) :
    (writeVerified request).Asks (Spares path) := by
  refine asks_bind (asks_query fun deletes => absurd deletes other)
    fun _ => ?_
  refine asks_bind (asks_query fun impossible => ?_) fun rows => ?_
  · cases impossible
  · rcases rows with _ | ⟨row, _ | ⟨next, rest⟩⟩
    · exact asks_lift _
    · exact asks_lift _
    · exact asks_lift _

theorem asks_inventory (collection member : String) :
    (inventory collection member).Asks (Spares path) :=
  asks_bind (asks_query trivial) fun _ =>
    asks_bind (asks_lift _) fun _ => asks_bind (asks_lift _) fun _ => trivial

theorem asks_reconcile {collection : Collection} {wanted : List String}
    (other : ∀ topic, Semp.decode
        (collection.path ++ "/" ++ (collection.keyPrefix ++ quote topic)) ≠
      path) :
    (reconcile collection wanted).Asks (Spares path) := by
  refine asks_bind (asks_inventory _ _) fun present => ?_
  refine asks_bind (asks_each fun topic _ => ?_) fun _ => ?_
  · refine asks_bind (asks_query fun impossible => ?_) fun _ => trivial
    cases impossible
  refine asks_bind (asks_each fun topic _ => ?_) fun _ => ?_
  · exact asks_bind (asks_query fun _ => other topic) fun _ => trivial
  exact asks_bind (asks_inventory _ _) fun _ => asks_lift _

theorem asks_retiredPaths (vpn : String) (objects : List RetiredObject) :
    (retiredPaths vpn objects).Asks (Spares path) := by
  induction objects with
  | nil => trivial
  | cons object rest inductionHypothesis =>
      refine asks_bind ?_ fun _ =>
        asks_bind inductionHypothesis fun _ => trivial
      refine asks_bind (asks_inventory _ _) fun names => ?_
      by_cases there : retiredScenarioIdentity ∈ names
      · rw [if_pos there]
        refine asks_bind (asks_query fun impossible => ?_) fun rows => ?_
        · cases impossible
        · rcases rows with _ | ⟨row, _ | ⟨next, others⟩⟩
          · exact asks_bind (asks_lift _) fun _ => trivial
          · exact asks_bind (asks_lift _) fun _ => trivial
          · exact asks_bind (asks_lift _) fun _ => trivial
      · rw [if_neg there]
        trivial

variable {state : DesiredState}

theorem asks_applyQueuePartition {applyTemplateDmqs : Bool}
    (addressed : ∀ topics ∈ ownedTopics state, topics.Addressed)
    (other : ∀ topics ∈ ownedTopics state, ∀ topic, topics.row topic ≠ path) :
    (applyQueuePartition state (templateDmqs state) applyTemplateDmqs).Asks
      (Spares path) := by
  refine asks_each fun queue member => ?_
  by_cases chosen :
      (templateDmqs state).contains queue.name = applyTemplateDmqs
  · simp only [chosen, if_true]
    have owned : subscriptionTopics state.vpn queue ∈ ownedTopics state :=
      List.mem_append_right _ (List.mem_map_of_mem member)
    refine asks_bind (asks_writeVerified Method.noConfusion) fun _ => ?_
    refine asks_reconcile fun topic => ?_
    exact (addressed _ owned).row topic ▸ other _ owned topic
  · simp only [chosen, if_false]
    trivial

/-- An apply asks for the removal of owned topics and of the discovery
username only. -/
theorem asks_apply
    (addressed : ∀ topics ∈ ownedTopics state, topics.Addressed)
    (other : ∀ topics ∈ ownedTopics state, ∀ topic, topics.row topic ≠ path)
    (discovery : Semp.decode (discoveryPath state.vpn) ≠ path) :
    (apply state).Asks (Spares path) := by
  refine asks_bind (asks_query trivial) fun _ => ?_
  refine asks_bind (asks_writeVerified Method.noConfusion) fun _ => ?_
  refine asks_bind (asks_writeVerified Method.noConfusion) fun _ => ?_
  refine asks_bind (asks_writeVerified Method.noConfusion) fun _ => ?_
  refine asks_bind (asks_bind (asks_inventory _ _) fun names => ?_)
    fun _ => ?_
  · by_cases there : Principal.discovery.value ∈ names
    · rw [if_pos there]
      refine asks_bind (asks_writeVerified Method.noConfusion) fun _ => ?_
      refine asks_bind (asks_query fun _ => discovery) fun _ => ?_
      exact asks_bind (asks_inventory _ _) fun _ => asks_lift _
    · rw [if_neg there]
      trivial
  refine asks_bind
    (asks_bind (asks_retiredPaths _ _) fun _ => asks_lift _) fun _ => ?_
  refine asks_bind (asks_applyQueuePartition addressed other) fun _ => ?_
  refine asks_bind (asks_each fun _ _ =>
    asks_writeVerified Method.noConfusion) fun _ => ?_
  refine asks_bind (asks_each fun profile member => ?_) fun _ => ?_
  · refine asks_bind (asks_writeVerified Method.noConfusion) fun _ => ?_
    refine asks_each fun access _ => asks_reconcile fun topic => ?_
    have owned := exceptionTopics_mem member access
    exact (addressed _ owned).row topic ▸ other _ owned topic
  refine asks_bind (asks_each fun _ _ =>
    asks_writeVerified Method.noConfusion) fun _ => ?_
  refine asks_bind (asks_each fun _ _ =>
    asks_writeVerified Method.noConfusion) fun _ => ?_
  exact asks_applyQueuePartition addressed other

/-- An apply keeps what is no owned topic and not the discovery username. -/
theorem apply_keeps
    (addressed : ∀ topics ∈ ownedTopics state, topics.Addressed)
    (other : ∀ topics ∈ ownedTopics state, ∀ topic, topics.row topic ≠ path)
    (discovery : Semp.decode (discoveryPath state.vpn) ≠ path)
    (there : (store.get? path).isSome) :
    (((apply state).serve semp store).2.get? path).isSome := by
  have step (later : ConfigStore) (query : Query)
      (spares : Spares path query) (held : (later.get? path).isSome) :
      ((semp.next later query).get? path).isSome :=
    next_keeps spares held
  exact Client.Asks.keeps step (asks_apply addressed other discovery) there

end Spared

/-! ## Exceptions of another syntax -/

/-- A row of another syntax than SMF has an MQTT key. -/
theorem exception_key {vpn : String} {profile : ProfileState}
    {access : Access} {key : Bytes} {object : Members}
    (fitting : fits ((exceptionTopics vpn profile access).path ++ [key])
      object = true)
    (other : object.text (syntaxMember access) ≠ some "smf") :
    ∃ topic, key = octets ("mqtt" ++ "," ++ topic) := by
  have identity := identityOf_exceptions access
  have keyed := key_of_fits fitting (by
    rw [identity]
    exact Identity.noConfusion)
  rw [identity, Identity.key] at keyed
  cases spelled : object.text (syntaxMember access) with
  | none =>
      rw [spelled] at keyed
      cases keyed
  | some topicSyntax =>
      cases named : object.text (exceptionMember access) with
      | none =>
          rw [spelled, named] at keyed
          cases keyed
      | some topic =>
          rw [spelled, named] at keyed
          simp only at keyed
          split at keyed
          · rename_i known
            rw [syntaxes, List.mem_pair] at known
            rcases known with rfl | rfl
            · exact absurd spelled other
            · exact ⟨topic, (Option.some.inj keyed).symm⟩
          · cases keyed

section Exceptions

variable {state : DesiredState} {store : ConfigStore}
  (ordered : Ordered state)

include ordered

theorem ownedTopics_addressed (plain : Plain state.vpn) :
    ∀ topics ∈ ownedTopics state, topics.Addressed := by
  intro topics member
  simp only [ownedTopics, List.mem_append, List.mem_flatMap, List.mem_map,
    List.mem_pair] at member
  rcases member with ⟨profile, inState, rfl | rfl⟩ | ⟨queue, _, rfl⟩
  · exact exceptionTopics_addressed plain (profile_plain ordered inState) _
  · exact exceptionTopics_addressed plain (profile_plain ordered inState) _
  · exact subscriptionTopics_addressed plain queue

/-- No request of an apply is about a row with an MQTT key. -/
theorem row_ne_mqtt {profile : ProfileState}
    (member : profile ∈ state.profiles) (access : Access) (other : String) :
    ∀ topics ∈ ownedTopics state, ∀ topic, topics.row topic ≠
      (exceptionTopics state.vpn profile access).path ++
        [octets ("mqtt" ++ "," ++ other)] := by
  intro topics owned topic same
  rcases List.append_inj' same rfl with ⟨paths, keys⟩
  have here := ownedTopics_of_path ordered owned
    (exceptionTopics_mem member access) paths
  rw [here, List.cons.injEq, TopicSet.key, octets_injective.eq_iff] at keys
  have heads := congrArg (fun text : String => text.toList.head?) keys.1
  simp only [String.toList_append] at heads
  exact absurd heads (by simp [exceptionTopics, exceptionCollection])

/-- An apply that reaches its target started with SMF exceptions only. -/
theorem smfOnly_of_reaches (plain : Plain state.vpn)
    (reaches : Reaches state store store) : SmfOnly state store := by
  intro profile member access key object found
  by_contra other
  rcases exception_key (store.identified _ _ found) other with ⟨topic, rfl⟩
  have apart := row_ne_mqtt ordered member access topic
  have owned := exceptionTopics_mem member access
  have discovery : Semp.decode (discoveryPath state.vpn) ≠
      (exceptionTopics state.vpn profile access).path ++
        [octets ("mqtt" ++ "," ++ topic)] := by
    rw [decode_discovery plain]
    exact outside_place _ _ _ _ owned _
  have there : (store.get? ((exceptionTopics state.vpn profile access).path ++
      [octets ("mqtt" ++ "," ++ topic)])).isSome := by
    rw [found]
    rfl
  have kept := apply_keeps (ownedTopics_addressed ordered plain) apart
    discovery there
  rw [reaches.2, target, aim_topics ordered owned, TopicSet.aim_unwanted]
    at kept
  · cases kept
  · intro wanted _ same
    exact apart _ owned wanted (by rw [TopicSet.row, same])

end Exceptions

/-! ## The law -/

/--
Applies of a built state converge from a store with the factory username and
without the retired identity exactly when the name of the message VPN stands
for itself and the owned profiles have SMF exceptions only.
-/
theorem apply_converges {vpn : String} {credentials : Principal → String}
    {namespaceText : Option String} {drones : List String}
    {state : DesiredState}
    (built : desiredState vpn credentials namespaceText drones = .ok state)
    {store : ConfigStore} (factory : FactoryExists vpn store)
    (retired : RetiredAbsent vpn store) :
    Converges state store ↔ Plain vpn ∧ SmfOnly state store := by
  rcases desiredState_ordered built with ⟨ordered, rfl⟩
  constructor
  · intro converges
    have plain := plain_of_completes ordered converges.reaches.1
    exact ⟨plain, smfOnly_of_reaches ordered plain converges.reaches⟩
  · rintro ⟨plain, smf⟩
    exact converges_of_smfOnly ordered factory retired plain smf

/-- A broker with one message VPN and its factory username. -/
def factoryStore : ConfigStore :=
  let broker : ConfigStore :=
    { objects := Mapping.put Table.empty [] fun _ => none
      root := by
        rw [Mapping.get?_put, if_pos rfl]
        rfl
      identified := by
        intro path object found
        rw [Mapping.get?_put] at found
        split at found
        · rename_i here
          rw [here]
          rfl
        · rw [Mapping.get?_empty] at found
          cases found }
  (broker.set (vpnPlace "default")
      (members [("msgVpnName", .text "default")])
      (by decide +kernel)).set (factoryPlace "default")
    (members [("clientUsername", .text "default")])
    (by decide +kernel)

theorem factoryStore_short {path : Path} (length : path.length = 6) :
    factoryStore.get? path = none := by
  have notFactory : path ≠ factoryPlace "default" := by
    rintro rfl
    cases length
  have notVpn : path ≠ vpnPlace "default" := by
    rintro rfl
    cases length
  have notBroker : path ≠ [] := by
    rintro rfl
    cases length
  rw [factoryStore, ConfigStore.get?_set, if_neg notFactory,
    ConfigStore.get?_set, if_neg notVpn]
  change Mapping.get? (Mapping.put _ _ _) path = none
  rw [Mapping.get?_put, if_neg notBroker, Mapping.get?_empty]

theorem desiredState_builds :
    ∃ state, desiredState "default" (fun _ => "secret") none [] =
      .ok state := by
  have succeeds : (desiredState "default" (fun _ => "secret") none []).isOk =
      true := by
    decide +kernel
  cases built : desiredState "default" (fun _ => "secret") none [] with
  | ok state => exact ⟨state, rfl⟩
  | error refusal =>
      rw [built] at succeeds
      cases succeeds

theorem apply_converges_factory :
    ∃ state, desiredState "default" (fun _ => "secret") none [] = .ok state ∧
      Converges state factoryStore := by
  rcases desiredState_builds with ⟨state, built⟩
  refine ⟨state, built, (apply_converges built
    ⟨by decide +kernel, by decide +kernel⟩ ?_).2 ⟨by decide +kernel, ?_⟩⟩
  · intro collection member
    have every : (identityCollections.all fun collection =>
        (factoryStore.get? (place "default" collection
          retiredScenarioIdentity)).isNone) = true := by
      decide +kernel
    exact Option.isNone_iff_eq_none.1 (List.all_eq_true.1 every _ member)
  · intro profile _ access key object found
    rw [factoryStore_short rfl] at found
    cases found

/-- A broker with an MQTT topic exception of the recorder's profile. -/
def mqttStore : ConfigStore :=
  factoryStore.set
    (place "default" "aclProfiles" Principal.recorder.value ++
      [octets "publishTopicExceptions"] ++ [octets "mqtt,x"])
    (members
      [ ("publishTopicExceptionSyntax", .text "mqtt"),
        ("publishTopicException", .text "x") ])
    (by decide +kernel)

theorem mqttStore_diverges :
    ∃ state, desiredState "default" (fun _ => "secret") none [] = .ok state ∧
      FactoryExists "default" mqttStore ∧ RetiredAbsent "default" mqttStore ∧
      ¬Converges state mqttStore := by
  rcases desiredState_builds with ⟨state, built⟩
  refine ⟨state, built, ⟨by decide +kernel, by decide +kernel⟩, ?_, ?_⟩
  · intro collection member
    have every : (identityCollections.all fun collection =>
        (mqttStore.get? (place "default" collection
          retiredScenarioIdentity)).isNone) = true := by
      decide +kernel
    exact Option.isNone_iff_eq_none.1 (List.all_eq_true.1 every _ member)
  · intro converges
    rcases desiredState_ordered built with ⟨ordered, named⟩
    have plain : Plain state.vpn := named ▸ by decide +kernel
    have smf := smfOnly_of_reaches ordered plain converges.reaches
    have recorder : Principal.recorder.value ∈
        state.profiles.map ProfileState.name := by
      rw [ordered.profiles]
      decide +kernel
    rcases List.mem_map.1 recorder with ⟨profile, inState, spelled⟩
    have row : mqttStore.get?
        ((exceptionTopics state.vpn profile .publish).path ++
          [octets "mqtt,x"]) =
        some (members
          [ ("publishTopicExceptionSyntax", .text "mqtt"),
            ("publishTopicException", .text "x") ]) := by
      rw [mqttStore, ConfigStore.get?_set, if_pos]
      rw [exceptionTopics, spelled, named]
      rfl
    have claimed := smf profile inState .publish _ _ row
    exact absurd claimed (by decide)

end AerialRescue.Broker.Provisioning
