import AerialRescue.Broker.Convergence

/-!
# Convergence of a whole apply

The loops and the steps of an apply, each of which settles the places that it
writes, and the apply as their sequence: at its end every place is at its aim.
-/

namespace AerialRescue.Broker.Provisioning

open AerialRescue.Lib AerialRescue.Lib.Guard AerialRescue.Lib.Clients
open AerialRescue.Contracts AerialRescue.Contracts.Canonical
open AerialRescue.Broker.Queues AerialRescue.Broker.Desired
open AerialRescue.Broker.Retirement (quote)
open AerialRescue.Broker.Semp
open AerialRescue.Domain.Principals

/-! ## Loops -/

section Loops

variable {state : DesiredState} {goal : Path → Option Members}
  {base settled : Path → Prop} {item : Type}

/-- A loop settles what its turns settle. -/
theorem serves_loop {act : item → Applying Unit} {items : List item}
    {adds : item → Path → Prop}
    (turn : ∀ done current rest, items = done ++ current :: rest →
      ∀ earlier : Path → Prop, (∀ path, settled path → earlier path) →
        (∀ each ∈ done, ∀ path, adds each path → earlier path) →
          Serves semp (Allowed state goal base) (At state goal earlier)
            (act current)
            fun _ => At state goal fun path =>
              earlier path ∨ adds current path) :
    Serves semp (Allowed state goal base) (At state goal settled)
      (Client.each act items)
      fun _ => At state goal fun path =>
        settled path ∨ ∃ each ∈ items, adds each path := by
  have step : ∀ done current rest, items = done ++ current :: rest →
      Serves semp (Allowed state goal base)
        (At state goal fun path =>
          settled path ∨ ∃ each ∈ done, adds each path)
        (act current)
        fun _ => At state goal fun path =>
          settled path ∨ ∃ each ∈ done ++ [current], adds each path := by
    intro done current rest split
    refine (turn done current rest split
      (fun path => settled path ∨ ∃ each ∈ done, adds each path)
      (fun path member => .inl member)
      fun each member path added => .inr ⟨each, member, added⟩).imp
      (fun _ held => held) fun _ store stands => stands.mono ?_
    rintro path (member | ⟨each, inList, added⟩)
    · exact .inl (.inl member)
    · rcases List.mem_append.1 inList with earlier | now
      · exact .inl (.inr ⟨each, earlier, added⟩)
      · exact .inr (List.mem_singleton.1 now ▸ added)
  refine (Serves.each step).imp ?_ fun _ _ stands => stands
  intro store stands
  refine stands.mono ?_
  rintro path (member | ⟨each, impossible, _⟩)
  · exact member
  · cases impossible

end Loops

/-! ## Owned objects -/

section Owned

variable {state : DesiredState} {goal : Path → Option Members}
  {base settled : Path → Prop} (ordered : Ordered state)

include ordered

/-- A settled owned object exists. -/
theorem At.owned_there {store : ConfigStore}
    (stands : At state goal settled store) {owned : Path × Body}
    (member : owned ∈ ownedObjects state) (held : settled owned.1) :
    (store.get? owned.1).isSome := by
  rw [stands.settled _ held, ← stands.aims, aim_owned ordered member]
  rfl

variable (plain : Plain state.vpn)
  (vpnThere : (goal (vpnPlace state.vpn)).isSome)
  (within : ∀ path, base path → settled path)

include plain vpnThere within

/-! ### Queues -/

/-- What an apply writes of a queue. -/
def queuePlaces (vpn : String) (queue : QueueSpec) (path : Path) : Prop :=
  path = place vpn "queues" queue.name ∨
    ∃ key, path = (subscriptionTopics vpn queue).path ++ [key]

theorem serves_applyQueue {queue : QueueSpec} (member : queue ∈ state.queues)
    (provided : ∀ store, At state goal settled store →
      Provided state.vpn store (.send (queueRequest state.vpn queue))) :
    Serves semp (Allowed state goal base) (At state goal settled)
      (applyQueue state.vpn queue)
      fun _ => At state goal fun path =>
        settled path ∨ queuePlaces state.vpn queue path := by
  have puts := puts_queue plain member
  refine Serves.bind
    (serves_put ordered vpnThere within puts provided) fun _ => ?_
  have owned : subscriptionTopics state.vpn queue ∈ ownedTopics state :=
    List.mem_append_right _ (List.mem_map_of_mem member)
  have widened : ∀ path, base path →
      settled path ∨ path = place state.vpn "queues" queue.name :=
    fun path inBase => .inl (within path inBase)
  refine (serves_reconcile ordered owned
    (subscriptionTopics_addressed plain queue) widened ?_).imp
    (fun _ held => held) fun _ store stands => stands.mono ?_
  · intro store stands
    exact stands.owned_there ordered puts.owned (.inr rfl)
  · rintro path (inSettled | here | within)
    · exact .inl (.inl inSettled)
    · exact .inl (.inr here)
    · exact .inr within

/-- What a pass over the queues writes. -/
def partitionPlaces (state : DesiredState) (applyTemplateDmqs : Bool)
    (queue : QueueSpec) (path : Path) : Prop :=
  (templateDmqs state).contains queue.name = applyTemplateDmqs ∧
    queuePlaces state.vpn queue path

theorem serves_applyQueuePartition {applyTemplateDmqs : Bool}
    (provided : ∀ done queue rest, state.queues = done ++ queue :: rest →
      (templateDmqs state).contains queue.name = applyTemplateDmqs →
        ∀ earlier : Path → Prop, (∀ path, settled path → earlier path) →
          (∀ each ∈ done, ∀ path,
            partitionPlaces state applyTemplateDmqs each path →
              earlier path) →
            ∀ store, At state goal earlier store →
              Provided state.vpn store
                (.send (queueRequest state.vpn queue))) :
    Serves semp (Allowed state goal base) (At state goal settled)
      (applyQueuePartition state (templateDmqs state) applyTemplateDmqs)
      fun _ => At state goal fun path =>
        settled path ∨ ∃ queue ∈ state.queues,
          partitionPlaces state applyTemplateDmqs queue path := by
  refine serves_loop fun done queue rest split earlier widens added => ?_
  have member : queue ∈ state.queues := by
    rw [split]
    simp
  by_cases chosen :
      (templateDmqs state).contains queue.name = applyTemplateDmqs
  · simp only [chosen, if_true]
    refine (serves_applyQueue ordered plain vpnThere
      (fun path inBase => widens path (within path inBase)) member
      (provided done queue rest split chosen earlier widens added)).imp
      (fun _ held => held) fun _ store stands => stands.mono ?_
    rintro path (before | ⟨_, here⟩)
    · exact .inl before
    · exact .inr here
  · simp only [chosen, if_false]
    refine Serves.pure fun store stands => stands.mono ?_
    rintro path (before | ⟨impossible, _⟩)
    · exact before
    · exact absurd impossible chosen

omit ordered plain vpnThere within in
theorem place_queue_mem {queue : QueueSpec} (member : queue ∈ state.queues) :
    (place state.vpn "queues" queue.name, queueBody state.vpn queue) ∈
      ownedObjects state :=
  List.mem_append_right _ (List.mem_map_of_mem member)

omit plain vpnThere within in
/-- A queue that a template names is the template's. -/
theorem templateDmq_queue {queue : QueueSpec} (member : queue ∈ state.queues)
    (named : (templateDmqs state).contains queue.name = true) :
    ∃ template ∈ queueTemplates, queue = templateQueue template := by
  rw [List.contains_iff_mem, templateDmqs, ordered.templates, List.mem_map]
    at named
  rcases named with ⟨template, inTemplates, same⟩
  refine ⟨template, inTemplates, ?_⟩
  exact ordered.queues queue member _
    (ordered.templateQueues template inTemplates) same.symm

/-- The dead-message queues of the templates are written first. -/
theorem serves_templateDmqs :
    Serves semp (Allowed state goal base) (At state goal settled)
      (applyQueuePartition state (templateDmqs state) true)
      fun _ => At state goal fun path =>
        settled path ∨ ∃ queue ∈ state.queues,
          partitionPlaces state true queue path := by
  refine serves_applyQueuePartition ordered plain vpnThere within ?_
  intro done queue rest split chosen earlier _ _ store _
  have member : queue ∈ state.queues := by
    rw [split]
    simp
  rcases templateDmq_queue ordered member chosen with ⟨template, _, rfl⟩
  rcases queueBody_text state.vpn (templateQueue template) with
    ⟨_, _, owner, dead⟩
  constructor
  · intro name named
    change (members (queueBody state.vpn (templateQueue template))).text
      "owner" = some name at named
    rw [owner] at named
    cases named
    intro blank
    exact absurd rfl blank
  · intro name named
    change (members (queueBody state.vpn (templateQueue template))).text
      "deadMsgQueue" = some name at named
    rw [dead] at named
    cases named

/-- The other queues are written after their owners and dead-message
queues. -/
theorem serves_otherQueues
    (usernames : ∀ username ∈ state.usernames,
      settled (place state.vpn "clientUsernames" username.name))
    (queues : ∀ queue ∈ state.queues,
      (templateDmqs state).contains queue.name = true →
        settled (place state.vpn "queues" queue.name)) :
    Serves semp (Allowed state goal base) (At state goal settled)
      (applyQueuePartition state (templateDmqs state) false)
      fun _ => At state goal fun path =>
        settled path ∨ ∃ queue ∈ state.queues,
          partitionPlaces state false queue path := by
  refine serves_applyQueuePartition ordered plain vpnThere within ?_
  intro done queue rest split _ earlier widens added store stands
  have member : queue ∈ state.queues := by
    rw [split]
    simp
  rcases queueBody_text state.vpn queue with ⟨_, _, owner, dead⟩
  constructor
  · intro name named nonblank
    change (members (queueBody state.vpn queue)).text "owner" = some name
      at named
    rw [owner, Option.some.injEq] at named
    rcases ordered.owners queue member with blank | owned
    · exact absurd (named ▸ blank) nonblank
    · rcases List.mem_map.1 owned with ⟨username, inState, same⟩
      rw [← named, ← same]
      exact stands.owned_there ordered
        (puts_username ordered plain inState).owned
        (widens _ (usernames username inState))
  · intro name named
    change (members (queueBody state.vpn queue)).text "deadMsgQueue" =
      some name at named
    rw [dead] at named
    rcases ordered.preceded done queue rest split name named with
      ⟨held, before, rfl⟩
    have inState : held ∈ state.queues := by
      rw [split]
      exact List.mem_append_left _ before
    refine stands.owned_there ordered (place_queue_mem inState) ?_
    cases chosen : (templateDmqs state).contains held.name with
    | true => exact widens _ (queues held inState chosen)
    | false => exact added held before _ ⟨chosen, .inl rfl⟩

/-! ### Templates, profiles and usernames -/

theorem serves_templates
    (queues : ∀ queue ∈ state.queues,
      (templateDmqs state).contains queue.name = true →
        settled (place state.vpn "queues" queue.name)) :
    Serves semp (Allowed state goal base) (At state goal settled)
      (Client.each (fun template =>
          writeVerified (queueTemplateRequest state.vpn template))
        state.queueTemplates)
      fun _ => At state goal fun path =>
        settled path ∨ ∃ template ∈ state.queueTemplates,
          path = place state.vpn "queueTemplates" template.name := by
  refine serves_loop fun done template rest split earlier widens _ => ?_
  have member : template ∈ state.queueTemplates := by
    rw [split]
    simp
  refine serves_put ordered vpnThere
    (fun path inBase => widens path (within path inBase))
    (puts_template ordered plain member) fun store stands => ⟨?_, ?_⟩
  · intro name named
    cases named
  · intro name named
    change some template.deadMessageQueue = some name at named
    rw [Option.some.injEq] at named
    have inTemplates : template ∈ queueTemplates := ordered.templates ▸ member
    have inState := ordered.templateQueues template inTemplates
    rw [← named]
    refine stands.owned_there ordered (place_queue_mem inState)
      (widens _ (queues _ inState ?_))
    rw [List.contains_iff_mem]
    exact List.mem_map_of_mem member

/-- What an apply writes of an ACL profile. -/
def profilePlaces (vpn : String) (profile : ProfileState)
    (path : Path) : Prop :=
  path = place vpn "aclProfiles" profile.name ∨
    ∃ access key, path = (exceptionTopics vpn profile access).path ++ [key]

omit ordered plain vpnThere within in
theorem exceptionTopics_mem {profile : ProfileState}
    (member : profile ∈ state.profiles) (access : Access) :
    exceptionTopics state.vpn profile access ∈ ownedTopics state := by
  refine List.mem_append_left _ (List.mem_flatMap.2 ⟨profile, member, ?_⟩)
  cases access
  · exact List.mem_cons_self
  · exact List.mem_cons_of_mem _ List.mem_cons_self

theorem serves_applyAclProfile {profile : ProfileState}
    (member : profile ∈ state.profiles) :
    Serves semp (Allowed state goal base) (At state goal settled)
      (applyAclProfile state.vpn profile)
      fun _ => At state goal fun path =>
        settled path ∨ profilePlaces state.vpn profile path := by
  have puts := puts_profile ordered plain member
  refine Serves.bind
    (serves_put ordered vpnThere within puts fun _ _ =>
      provided_of_absent rfl rfl) fun _ => ?_
  have directions : Serves semp (Allowed state goal base)
      (At state goal fun path =>
        settled path ∨ path = place state.vpn "aclProfiles" profile.name)
      (Client.each
        (fun access =>
          reconcile (exceptionCollection state.vpn profile.name access)
            (wantedTopics profile access))
        [.publish, .subscribe])
      fun _ => At state goal fun path =>
        (settled path ∨ path = place state.vpn "aclProfiles" profile.name) ∨
          ∃ access ∈ [Access.publish, .subscribe], ∃ key,
            path = (exceptionTopics state.vpn profile access).path ++ [key] := by
    refine serves_loop fun done access rest _ earlier widens _ => ?_
    refine serves_reconcile ordered (exceptionTopics_mem member access)
      (exceptionTopics_addressed plain (profile_plain ordered member) access)
      (fun path inBase => widens path (.inl (within path inBase))) ?_
    intro store stands
    exact stands.owned_there ordered puts.owned (widens _ (.inr rfl))
  refine directions.imp (fun _ held => held) fun _ store stands =>
    stands.mono ?_
  rintro path (inSettled | here | ⟨access, key, spelled⟩)
  · exact .inl (.inl inSettled)
  · exact .inl (.inr here)
  · refine .inr ⟨access, ?_, key, spelled⟩
    cases access
    · exact List.mem_cons_self
    · exact List.mem_cons_of_mem _ List.mem_cons_self

theorem serves_applyAclProfiles :
    Serves semp (Allowed state goal base) (At state goal settled)
      (applyAclProfiles state)
      fun _ => At state goal fun path =>
        settled path ∨ ∃ profile ∈ state.profiles,
          profilePlaces state.vpn profile path := by
  refine serves_loop fun done profile rest split earlier widens _ => ?_
  have member : profile ∈ state.profiles := by
    rw [split]
    simp
  exact serves_applyAclProfile ordered plain vpnThere
    (fun path inBase => widens path (within path inBase)) member

theorem serves_clientProfiles :
    Serves semp (Allowed state goal base) (At state goal settled)
      (Client.each (fun profile =>
          writeVerified (clientProfileRequest state.vpn profile))
        state.clientProfiles)
      fun _ => At state goal fun path =>
        settled path ∨ ∃ profile ∈ state.clientProfiles,
          path = place state.vpn "clientProfiles" profile.role.value := by
  refine serves_loop fun done profile rest split earlier widens _ => ?_
  have member : profile ∈ state.clientProfiles := by
    rw [split]
    simp
  exact serves_put ordered vpnThere
    (fun path inBase => widens path (within path inBase))
    (puts_clientProfile plain member) fun _ _ => provided_of_absent rfl rfl

theorem serves_usernames :
    Serves semp (Allowed state goal base) (At state goal settled)
      (Client.each (fun username =>
          writeVerified (usernameRequest state.vpn username))
        state.usernames)
      fun _ => At state goal fun path =>
        settled path ∨ ∃ username ∈ state.usernames,
          path = place state.vpn "clientUsernames" username.name := by
  refine serves_loop fun done username rest split earlier widens _ => ?_
  have member : username ∈ state.usernames := by
    rw [split]
    simp
  exact serves_put ordered vpnThere
    (fun path inBase => widens path (within path inBase))
    (puts_username ordered plain member) fun _ _ => provided_of_absent rfl rfl

/-! ### Patches -/

omit vpnThere in
theorem serves_disableFactory
    (there : (goal (factoryPlace state.vpn)).isSome) :
    Serves semp (Allowed state goal base) (At state goal settled)
      (writeVerified (disableFactoryRequest state.vpn))
      fun _ => At state goal fun path =>
        settled path ∨ path = factoryPlace state.vpn := by
  have decoded : Semp.decode (disableFactoryRequest state.vpn).path =
      factoryPlace state.vpn :=
    decode_place plain (plain_ofList (by decide)) (plain_ofList (by decide))
  exact serves_patch ordered within rfl decoded List.mem_cons_self there

omit plain vpnThere in
theorem serves_brokerProtocol (there : (goal []).isSome) :
    Serves semp (Allowed state goal base) (At state goal settled)
      (writeVerified brokerProtocolRequest)
      fun _ => At state goal fun path => settled path ∨ path = [] :=
  serves_patch ordered within rfl rfl
    (List.mem_cons_of_mem _ List.mem_cons_self) there

theorem serves_vpnProtocol :
    Serves semp (Allowed state goal base) (At state goal settled)
      (writeVerified (vpnProtocolRequest state.vpn))
      fun _ => At state goal fun path =>
        settled path ∨ path = vpnPlace state.vpn :=
  serves_patch ordered within rfl (decode_vpn plain)
    (List.mem_cons_of_mem _ (List.mem_cons_of_mem _ List.mem_cons_self))
    vpnThere

/-! ### Identities -/

/-- An inventory of a collection of identities. -/
theorem serves_identities {collection member : String}
    (fixed : Plain collection)
    (identity : identityOf (octets collection) = .member member)
    (shown : member ∉ secretMembers) :
    Serves semp (Allowed state goal base) (At state goal settled)
      (inventory (joined ["msgVpns", state.vpn, collection]) member)
      fun names store => At state goal settled store ∧
        ∀ name, name ∈ names ↔
          (store.get? (place state.vpn collection name)).isSome := by
  refine serves_inventory within (decode_collection plain fixed) shown
    octets_injective fun store stands => ⟨stands, ?_, ?_⟩
  · rw [List.dropLast_concat]
    exact stands.vpn_there ordered vpnThere
  · intro key object found
    have keyed := key_of_fits (store.identified _ _ found) (by
      rw [identity]
      exact Identity.noConfusion)
    rw [identity, Identity.key, Option.map_eq_some_iff] at keyed
    rcases keyed with ⟨name, text, spelled⟩
    exact ⟨name, text, spelled.symm⟩

omit plain vpnThere within in
theorem At.goal_discovery {store : ConfigStore}
    (stands : At state goal settled store) :
    goal (discoveryPlace state.vpn) = none := by
  rw [← stands.aims, aim_discovery ordered]

omit ordered vpnThere within in
theorem decode_discovery :
    Semp.decode (discoveryPath state.vpn) = discoveryPlace state.vpn :=
  decode_place plain (plain_ofList (by decide)) (plain_ofList (by decide))

/-- The members with which the discovery username is disabled. -/
def disabledBody : Body :=
  [("enabled", .flag false)]

omit vpnThere in
theorem serves_disableDiscovery :
    Serves semp (Allowed state goal base)
      (fun store => At state goal settled store ∧
        (store.get? (discoveryPlace state.vpn)).isSome)
      (writeVerified
        { method := .patch
          path := discoveryPath state.vpn
          body := disabledBody })
      fun _ store => At state goal settled store ∧ ∃ object : Members,
        store.get? (discoveryPlace state.vpn) =
          some (object.merge disabledBody) := by
  refine serves_writeVerified within ?_ ?_
  · rintro store ⟨stands, there⟩
    rcases Option.isSome_iff_exists.1 there with ⟨object, held⟩
    have fitting : fits (discoveryPlace state.vpn)
        (object.merge disabledBody) = true :=
      fits_merge (store.identified _ object held) (by decide)
    have reached : (store.set _ _ fitting).get? (discoveryPlace state.vpn) =
        some (object.merge disabledBody) := by
      rw [ConfigStore.get?_set, if_pos rfl]
    have others (other : Path) (differs : other ≠ discoveryPlace state.vpn) :
        (store.set _ _ fitting).get? other = store.get? other := by
      rw [ConfigStore.get?_set, if_neg differs]
    refine ⟨stands.allowed within (provided_of_absent rfl rfl) rfl,
      [(object.merge disabledBody).readable], store.set _ _ fitting, ?_,
      stands.change others ?_ ?_ ?_, object, reached⟩
    · change store.patch (Semp.decode (discoveryPath state.vpn)) _ = _
      rw [decode_discovery plain]
      exact patch_eq held fitting
    · rw [aim_discovery ordered, stands.goal_discovery ordered]
    · exact fun topics member key object here _ =>
        absurd here (outside_place _ _ _ topics member key)
    · intro member
      have gone := stands.settled _ member
      rw [held, stands.goal_discovery ordered] at gone
      cases gone
  · rintro store ⟨stands, object, held⟩
    have distinct : (disabledBody.map Prod.fst).Nodup := by decide
    refine ⟨stands, object.merge disabledBody, ?_, agrees_merge distinct⟩
    exact (decode_discovery plain).symm ▸ held

omit vpnThere in
theorem serves_deleteDiscovery :
    Serves semp (Allowed state goal base)
      (fun store => At state goal settled store ∧
        (store.get? (discoveryPlace state.vpn)).isSome)
      (send { method := .delete, path := discoveryPath state.vpn, body := [] })
      fun _ => At state goal fun path =>
        settled path ∨ path = discoveryPlace state.vpn := by
  refine serves_send ?_
  rintro store ⟨stands, there⟩
  have below : discoveryPlace state.vpn ≠ [] := List.cons_ne_nil _ _
  refine ⟨⟨stands.mono within, provided_of_absent rfl rfl, ?_⟩, [],
    store.erase _ below, ?_, ?_⟩
  · refine fun _ => ⟨discoveryPlace state.vpn, fun same => ?_⟩
    rw [same, stands.goal_discovery ordered] at there
    cases there
  · change store.delete (Semp.decode (discoveryPath state.vpn)) = _
    rw [decode_discovery plain]
    exact delete_eq below there
  · refine stands.settle ?_ ?_ ?_
    · exact fun other differs => by
        rw [ConfigStore.get?_erase, if_neg differs]
    · rw [ConfigStore.get?_erase, if_pos rfl, stands.goal_discovery ordered]
    · exact fun topics member key object here _ =>
        absurd here (outside_place _ _ _ topics member key)

/-- The discovery username is disabled and removed. -/
theorem serves_removePresentDiscovery :
    Serves semp (Allowed state goal base)
      (fun store => At state goal settled store ∧
        (store.get? (discoveryPlace state.vpn)).isSome)
      (removePresentDiscovery state.vpn)
      fun _ => At state goal fun path =>
        settled path ∨ path = discoveryPlace state.vpn := by
  have disables := (serves_disableDiscovery ordered plain within).imp
    (fun _ held => held) fun _ store (held : At state goal settled store ∧
        ∃ object : Members, store.get? (discoveryPlace state.vpn) =
          some (object.merge disabledBody)) =>
      And.intro held.1 (Option.isSome_iff_exists.2
        (held.2.imp' _ fun _ same => same))
  have widened : ∀ path, base path →
      settled path ∨ path = discoveryPlace state.vpn :=
    fun path inBase => .inl (within path inBase)
  refine Serves.bind disables fun _ => ?_
  refine Serves.bind
    (serves_deleteDiscovery ordered plain within) fun _ => ?_
  refine Serves.bind
    (serves_identities ordered plain vpnThere widened
      (plain_ofList (by decide)) (identityOf_known (by simp [identities]))
      (by decide)) fun left => Serves.lift ?_
  rintro store ⟨stands, listed⟩
  refine ⟨(), ensure_eq_ok.2 ?_, stands⟩
  intro impossible
  have there := (listed _).1 impossible
  change (store.get? (discoveryPlace state.vpn)).isSome = true at there
  rw [stands.settled _ (.inr rfl), stands.goal_discovery ordered] at there
  cases there

theorem serves_removeDiscoveryUsername :
    Serves semp (Allowed state goal base) (At state goal settled)
      (removeDiscoveryUsername state.vpn)
      fun _ => At state goal fun path =>
        settled path ∨ path = discoveryPlace state.vpn := by
  refine Serves.bind
    (serves_identities ordered plain vpnThere within
      (plain_ofList (by decide)) (identityOf_known (by simp [identities]))
      (by decide)) fun names => ?_
  by_cases present : Principal.discovery.value ∈ names
  · rw [if_pos present]
    refine (serves_removePresentDiscovery ordered plain vpnThere within).imp
      ?_ fun _ _ stands => stands
    rintro store ⟨stands, listed⟩
    exact ⟨stands, (listed _).1 present⟩
  · rw [if_neg present]
    refine Serves.pure ?_
    rintro store ⟨stands, listed⟩
    refine ⟨stands.uniform, stands.aims, ?_⟩
    rintro path (member | rfl)
    · exact stands.settled path member
    · rw [stands.goal_discovery ordered, ← Option.not_isSome_iff_eq_none]
      exact fun there => present ((listed _).2 there)

/-- Nothing of the retired identity is there, so nothing is refused. -/
theorem serves_retiredPaths
    (retired : ∀ collection ∈ identityCollections,
      goal (place state.vpn collection retiredScenarioIdentity) = none)
    (objects : List RetiredObject)
    (within' : ∀ object ∈ objects, object ∈ retiredObjects) :
    Serves semp (Allowed state goal base) (At state goal settled)
      (retiredPaths state.vpn objects)
      fun paths store => paths = [] ∧ At state goal settled store := by
  induction objects with
  | nil => exact Serves.pure fun store stands => ⟨rfl, stands⟩
  | cons object rest inductionHypothesis =>
      have known : object.collection ∈ identityCollections ∧
          Plain object.collection ∧
            identityOf (octets object.collection) = .member object.member ∧
            object.member ∉ secretMembers := by
        have retired := within' object List.mem_cons_self
        simp only [retiredObjects, List.mem_cons, List.not_mem_nil, or_false]
          at retired
        rcases retired with rfl | rfl | rfl
        all_goals
          exact ⟨by simp [identityCollections], plain_ofList (by decide),
            identityOf_known (by simp [identities]), by decide⟩
      rcases known with ⟨inCollections, fixed, identity, shown⟩
      have first : Serves semp (Allowed state goal base)
          (At state goal settled) (retiredPath state.vpn object)
          fun paths store => paths = [] ∧ At state goal settled store := by
        refine Serves.bind
          (serves_identities ordered plain vpnThere within fixed identity
            shown) fun names => ?_
        rintro store ⟨stands, listed⟩
        have unnamed : retiredScenarioIdentity ∉ names := by
          intro impossible
          have there := (listed _).1 impossible
          have absent := retired _ inCollections
          rw [← stands.aims, aim_retired ordered inCollections] at absent
          rw [absent] at there
          cases there
        rw [if_neg unnamed]
        have ends : Serves semp (Allowed state goal base)
            (At state goal settled)
            (pure [] : Applying (List String))
            fun paths store => paths = [] ∧ At state goal settled store :=
          Serves.pure fun store stands => ⟨rfl, stands⟩
        exact ends store stands
      refine Serves.bind first fun found => ?_
      rintro store ⟨rfl, stands⟩
      have others : Serves semp (Allowed state goal base)
          (At state goal settled)
          (do
            let others ← retiredPaths state.vpn rest
            pure ([] ++ others))
          fun paths store => paths = [] ∧ At state goal settled store :=
        Serves.bind
          (inductionHypothesis fun each member =>
            within' each (List.mem_cons_of_mem _ member))
          fun _ => Serves.pure fun _ held => held
      exact others store stands

theorem serves_refuseRetiredScenarioIdentity
    (retired : ∀ collection ∈ identityCollections,
      goal (place state.vpn collection retiredScenarioIdentity) = none) :
    Serves semp (Allowed state goal base) (At state goal settled)
      (refuseRetiredScenarioIdentity state.vpn)
      fun _ => At state goal settled :=
  Serves.bind
    (serves_retiredPaths ordered plain vpnThere within retired retiredObjects
      fun _ member => member)
    fun _ => Serves.lift fun _ held =>
      ⟨(), ensure_eq_ok.2 held.1, held.2⟩

end Owned

/-! ## The whole apply -/

/-- A place that an apply writes. -/
inductive Touched (state : DesiredState) (path : Path) : Prop where
  | patched (patch : Path × Body) (member : patch ∈ patches state.vpn)
      (here : path = patch.1)
  | discovery (here : path = discoveryPlace state.vpn)
  | queue (queue : QueueSpec) (member : queue ∈ state.queues)
      (here : queuePlaces state.vpn queue path)
  | template (template : QueueTemplateSpec)
      (member : template ∈ state.queueTemplates)
      (here : path = place state.vpn "queueTemplates" template.name)
  | profile (profile : ProfileState) (member : profile ∈ state.profiles)
      (here : profilePlaces state.vpn profile path)
  | clientProfile (profile : ClientProfileState)
      (member : profile ∈ state.clientProfiles)
      (here : path = place state.vpn "clientProfiles" profile.role.value)
  | username (username : UsernameState) (member : username ∈ state.usernames)
      (here : path = place state.vpn "clientUsernames" username.name)

theorem ownedObjects_touched {state : DesiredState} {owned : Path × Body}
    (member : owned ∈ ownedObjects state) : Touched state owned.1 := by
  simp only [ownedObjects, List.mem_append, List.mem_map, or_assoc] at member
  rcases member with
    ⟨profile, inState, rfl⟩ | ⟨profile, inState, rfl⟩ |
      ⟨username, inState, rfl⟩ | ⟨template, inState, rfl⟩ |
      ⟨queue, inState, rfl⟩
  · exact .profile profile inState (.inl rfl)
  · exact .clientProfile profile inState rfl
  · exact .username username inState rfl
  · exact .template template inState rfl
  · exact .queue queue inState (.inl rfl)

theorem ownedTopics_touched {state : DesiredState} {topics : TopicSet}
    (member : topics ∈ ownedTopics state) (key : Bytes) :
    Touched state (topics.path ++ [key]) := by
  simp only [ownedTopics, List.mem_append, List.mem_flatMap, List.mem_map,
    List.mem_pair] at member
  rcases member with ⟨profile, inState, rfl | rfl⟩ | ⟨queue, inState, rfl⟩
  · exact .profile profile inState (.inr ⟨_, key, rfl⟩)
  · exact .profile profile inState (.inr ⟨_, key, rfl⟩)
  · exact .queue queue inState (.inr ⟨key, rfl⟩)

/-- An apply leaves everything else as it is. -/
theorem aim_untouched {state : DesiredState} {path : Path}
    (untouched : ¬Touched state path) (held : Option Members) :
    aim state path held = held := by
  have noObject : ((ownedObjects state).find? fun owned =>
      owned.1 = path) = none := by
    rw [List.find?_eq_none]
    intro owned member same
    rw [← of_decide_eq_true same] at untouched
    exact untouched (ownedObjects_touched member)
  have noTopics : ((ownedTopics state).find? fun topics =>
      path ≠ [] ∧ path.dropLast = topics.path) = none := by
    rw [List.find?_eq_none]
    intro topics member same
    rcases of_decide_eq_true same with ⟨below, inTopics⟩
    have split := List.dropLast_concat_getLast below
    rw [inTopics] at split
    rw [← split] at untouched
    exact untouched (ownedTopics_touched member _)
  have noPatch : ((patches state.vpn).find? fun patch =>
      patch.1 = path) = none := by
    rw [List.find?_eq_none]
    intro patch member same
    exact untouched (.patched patch member (of_decide_eq_true same).symm)
  have notDiscovery : path ≠ discoveryPlace state.vpn :=
    fun same => untouched (.discovery same)
  rw [aim, noObject, noTopics]
  simp only
  rw [foreignAim, if_neg notDiscovery, noPatch]

/-- A store whose touched places are settled is at its goal everywhere. -/
theorem At.everywhere {state : DesiredState} {goal : Path → Option Members}
    {settled : Path → Prop} {store : ConfigStore}
    (stands : At state goal settled store)
    (touched : ∀ path, Touched state path → settled path) :
    At state goal (fun _ => True) store := by
  refine ⟨stands.uniform, stands.aims, fun path _ => ?_⟩
  by_cases here : Touched state path
  · exact stands.settled path (touched path here)
  · rw [← stands.aims, aim_untouched here]

/-- What holds of a goal that an apply can bring a store to. -/
structure Reachable (state : DesiredState)
    (goal : Path → Option Members) : Prop where
  plain : Plain state.vpn
  root : (goal []).isSome
  vpn : (goal (vpnPlace state.vpn)).isSome
  factory : (goal (factoryPlace state.vpn)).isSome
  retired : ∀ collection ∈ identityCollections,
    goal (place state.vpn collection retiredScenarioIdentity) = none

section Apply

variable {state : DesiredState} {goal : Path → Option Members}
  {base settled : Path → Prop}

theorem serves_requireConfigFields
    (required : List (String × List String))
    (within : ∀ path, base path → settled path) :
    Serves semp (Allowed state goal base) (At state goal settled)
      (requireConfigFields required) fun _ => At state goal settled :=
  Serves.query fun _ stands =>
    ⟨stands.allowed within trivial rfl, (), rfl, stands⟩

theorem widen {more : Path → Prop}
    (within : ∀ path, base path → settled path) :
    ∀ path, base path → settled path ∨ more path :=
  fun path inBase => .inl (within path inBase)

/-- An apply brings every place to its goal. -/
theorem serves_apply (ordered : Ordered state)
    (reachable : Reachable state goal) :
    Serves semp (Allowed state goal base) (At state goal base) (apply state)
      fun _ => At state goal fun _ => True := by
  have plain := reachable.plain
  have vpn := reachable.vpn
  have start : ∀ path, base path → base path := fun _ inBase => inBase
  refine Serves.bind (serves_requireConfigFields _ start) fun _ => ?_
  refine Serves.bind
    (serves_disableFactory ordered plain start reachable.factory) fun _ => ?_
  refine Serves.bind
    (serves_brokerProtocol ordered (widen start) reachable.root) fun _ => ?_
  refine Serves.bind
    (serves_vpnProtocol ordered plain vpn (widen (widen start))) fun _ => ?_
  refine Serves.bind
    (serves_removeDiscoveryUsername ordered plain vpn
      (widen (widen (widen start)))) fun _ => ?_
  refine Serves.bind
    (serves_refuseRetiredScenarioIdentity ordered plain vpn
      (widen (widen (widen (widen start)))) reachable.retired) fun _ => ?_
  refine Serves.bind
    (serves_templateDmqs ordered plain vpn
      (widen (widen (widen (widen start))))) fun _ => ?_
  refine Serves.bind
    (serves_templates ordered plain vpn
      (widen (widen (widen (widen (widen start)))))
      fun queue member named => .inr ⟨queue, member, named, .inl rfl⟩)
    fun _ => ?_
  refine Serves.bind
    (serves_applyAclProfiles ordered plain vpn
      (widen (widen (widen (widen (widen (widen start))))))) fun _ => ?_
  refine Serves.bind
    (serves_clientProfiles ordered plain vpn
      (widen (widen (widen (widen (widen (widen (widen start))))))))
    fun _ => ?_
  refine Serves.bind
    (serves_usernames ordered plain vpn
      (widen (widen (widen (widen (widen (widen (widen (widen start)))))))))
    fun _ => ?_
  refine (serves_otherQueues ordered plain vpn
    (widen (widen (widen (widen (widen (widen (widen (widen (widen
      start)))))))))
    (fun username member => .inr ⟨username, member, rfl⟩)
    fun queue member named =>
      .inl (.inl (.inl (.inl (.inr ⟨queue, member, named, .inl rfl⟩))))).imp
    (fun _ held => held) fun _ store stands =>
      stands.everywhere fun path touched => ?_
  simp only [or_assoc]
  cases touched with
  | patched patch member here =>
      simp only [patches, List.mem_cons, List.not_mem_nil, or_false] at member
      rcases member with rfl | rfl | rfl
      · exact .inr (.inl here)
      · exact .inr (.inr (.inl here))
      · exact .inr (.inr (.inr (.inl here)))
  | discovery here => exact .inr (.inr (.inr (.inr (.inl here))))
  | queue queue member here =>
      cases named : (templateDmqs state).contains queue.name with
      | true =>
          exact .inr (.inr (.inr (.inr (.inr (.inl
            ⟨queue, member, named, here⟩)))))
      | false =>
          exact .inr (.inr (.inr (.inr (.inr (.inr (.inr (.inr (.inr (.inr
            ⟨queue, member, named, here⟩)))))))))
  | template template member here =>
      exact .inr (.inr (.inr (.inr (.inr (.inr (.inl
        ⟨template, member, here⟩))))))
  | profile profile member here =>
      exact .inr (.inr (.inr (.inr (.inr (.inr (.inr (.inl
        ⟨profile, member, here⟩)))))))
  | clientProfile profile member here =>
      exact .inr (.inr (.inr (.inr (.inr (.inr (.inr (.inr (.inl
        ⟨profile, member, here⟩))))))))
  | username username member here =>
      exact .inr (.inr (.inr (.inr (.inr (.inr (.inr (.inr (.inr (.inl
        ⟨username, member, here⟩)))))))))

end Apply

end AerialRescue.Broker.Provisioning
