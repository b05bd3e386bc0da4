import AerialRescue.Broker.StoreRequests

/-!
# Convergence of the apply

An apply brings every place of the store to its aim and leaves what it has
brought there.  Each request is followed through the store; what holds after
each of them is that the aim of no place has changed.
-/

namespace AerialRescue.Broker.Provisioning

open AerialRescue.Lib AerialRescue.Lib.Guard AerialRescue.Lib.Clients
open AerialRescue.Contracts AerialRescue.Contracts.Canonical
open AerialRescue.Broker.Queues AerialRescue.Broker.Desired
open AerialRescue.Broker.Retirement (quote)
open AerialRescue.Broker.Semp
open AerialRescue.Domain.Principals

/-! ## What an apply keeps -/

/-- The factory username exists in its message VPN. -/
def FactoryExists (vpn : String) (store : ConfigStore) : Prop :=
  (store.get? (vpnPlace vpn)).isSome ∧ (store.get? (factoryPlace vpn)).isSome

/-- The collections of the retired identity's objects. -/
def identityCollections : List String :=
  ["clientUsernames", "aclProfiles", "clientProfiles"]

/-- No object of the retired identity exists. -/
def RetiredAbsent (vpn : String) (store : ConfigStore) : Prop :=
  ∀ collection ∈ identityCollections,
    store.get? (place vpn collection retiredScenarioIdentity) = none

/-- The owner and the dead-message queue that a request names exist. -/
def Provided (vpn : String) (store : ConfigStore) : Query → Prop
  | .send request =>
      (∀ owner, (members request.body).text "owner" = some owner →
        owner ≠ "" →
          (store.get? (place vpn "clientUsernames" owner)).isSome) ∧
        ∀ queue, (members request.body).text "deadMsgQueue" = some queue →
          (store.get? (place vpn "queues" queue)).isSome
  | _ => True

/-- The query is a `POST` or a `DELETE`. -/
def isReconciling : Query → Bool
  | .send request => request.method = .post || request.method = .delete
  | _ => false

/--
The aim of no place has changed, the rows of owned collections are uniform, and
what is settled is at its aim.
-/
structure At (state : DesiredState) (goal : Path → Option Members)
    (settled : Path → Prop) (store : ConfigStore) : Prop where
  uniform :
    ∀ topics ∈ ownedTopics state, ∀ key object,
      store.get? (topics.path ++ [key]) = some object → topics.Holds object
  aims : ∀ path, aim state path (store.get? path) = goal path
  settled : ∀ path, settled path → store.get? path = goal path

/-- What an apply asks, and when. -/
structure Allowed (state : DesiredState) (goal : Path → Option Members)
    (base : Path → Prop) (store : ConfigStore) (query : Query) : Prop where
  held : At state goal base store
  provided : Provided state.vpn store query
  needed : isReconciling query = true → ∃ path, store.get? path ≠ goal path

section Steps

variable {state : DesiredState} {goal : Path → Option Members}
  {base settled : Path → Prop} {store next : ConfigStore} {path : Path}

theorem At.mono {fewer : Path → Prop} (stands : At state goal settled store)
    (within : ∀ path, fewer path → settled path) :
    At state goal fewer store where
  uniform := stands.uniform
  aims := stands.aims
  settled path member := stands.settled path (within path member)

theorem At.goal_aim (stands : At state goal settled store) (path : Path) :
    aim state path (goal path) = goal path := by
  rw [← stands.aims path, aim_aim]

/-- A change of one place that keeps its aim. -/
theorem At.change (stands : At state goal settled store)
    (others : ∀ other, other ≠ path → next.get? other = store.get? other)
    (aimed : aim state path (next.get? path) = goal path)
    (uniform : ∀ topics ∈ ownedTopics state, ∀ key object,
      path = topics.path ++ [key] → next.get? path = some object →
        topics.Holds object)
    (unsettled : settled path → next.get? path = goal path) :
    At state goal settled next := by
  constructor
  · intro topics member key object found
    by_cases here : topics.path ++ [key] = path
    · exact uniform topics member key object here.symm (here ▸ found)
    · rw [others _ here] at found
      exact stands.uniform topics member key object found
  · intro other
    by_cases here : other = path
    · rw [here]
      exact aimed
    · rw [others other here]
      exact stands.aims other
  · intro other member
    by_cases here : other = path
    · rw [here]
      exact unsettled (here ▸ member)
    · rw [others other here]
      exact stands.settled other member

/-- A change that brings one place to its aim keeps what is settled. -/
theorem At.reach (path : Path) (stands : At state goal settled store)
    (others : ∀ other, other ≠ path → next.get? other = store.get? other)
    (reached : next.get? path = goal path)
    (uniform : ∀ topics ∈ ownedTopics state, ∀ key object,
      path = topics.path ++ [key] → goal path = some object →
        topics.Holds object) :
    At state goal settled next := by
  refine stands.change others ?_ ?_ fun _ => reached
  · rw [reached]
    exact stands.goal_aim path
  · intro topics member key object here found
    exact uniform topics member key object here (reached ▸ found)

/-- A change that brings one place to its aim settles it. -/
theorem At.settle (stands : At state goal settled store)
    (others : ∀ other, other ≠ path → next.get? other = store.get? other)
    (reached : next.get? path = goal path)
    (uniform : ∀ topics ∈ ownedTopics state, ∀ key object,
      path = topics.path ++ [key] → goal path = some object →
        topics.Holds object) :
    At state goal (fun other => settled other ∨ other = path) next := by
  have kept : At state goal settled next :=
    stands.reach path others reached uniform
  refine ⟨kept.uniform, kept.aims, ?_⟩
  rintro other (member | rfl)
  · exact kept.settled other member
  · exact reached

/-- A place of another length is in no owned collection. -/
theorem outside_of_length (length : path.length ≠ 6) :
    ∀ topics ∈ ownedTopics state, ∀ key,
      path ≠ topics.path ++ [key] := by
  rintro topics member key rfl
  rw [List.length_append, ownedTopics_length member, List.length_singleton]
    at length
  exact length rfl

theorem provided_of_absent {request : Request}
    (owner : members request.body "owner" = none)
    (queue : members request.body "deadMsgQueue" = none) :
    Provided state.vpn store (.send request) := by
  constructor
  · intro name named
    rw [text_eq_some, owner] at named
    cases named
  · intro name named
    rw [text_eq_some, queue] at named
    cases named

theorem At.allowed (stands : At state goal settled store)
    (within : ∀ path, base path → settled path) {query : Query}
    (provided : Provided state.vpn store query)
    (writes : isReconciling query = false) :
    Allowed state goal base store query where
  held := stands.mono within
  provided := provided
  needed impossible := by
    rw [writes] at impossible
    cases impossible

/-- A patched object is there as long as it was to be. -/
theorem At.patched (ordered : Ordered state)
    (stands : At state goal settled store) {patch : Path × Body}
    (member : patch ∈ patches state.vpn) (some : (goal patch.1).isSome) :
    (store.get? patch.1).isSome := by
  rw [← stands.aims patch.1, aim_patch ordered member, Option.isSome_map] at some
  exact some

/-- The message VPN is there as long as it was to be. -/
theorem At.vpn_there (ordered : Ordered state)
    (stands : At state goal settled store)
    (there : (goal (vpnPlace state.vpn)).isSome) :
    (store.get? (vpnPlace state.vpn)).isSome := by
  have patched : (vpnPlace state.vpn, vpnProtocolState) ∈
      patches state.vpn := by
    simp [patches]
  exact stands.patched ordered patched there

end Steps

/-! ## Single requests -/

section Requests

variable {state : DesiredState} {goal : Path → Option Members}
  {base settled : Path → Prop} {before : ConfigStore → Prop}
  {request : Request}

theorem serves_send {after : List Members → ConfigStore → Prop}
    (holds : ∀ store, before store →
      Allowed state goal base store (.send request) ∧
        ∃ rows next, store.send request = (.ok rows, next) ∧
          after rows next) :
    Serves semp (Allowed state goal base) before (send request) after := by
  refine Serves.query fun store initial => ?_
  rcases holds store initial with ⟨allowed, rows, next, sent, later⟩
  refine ⟨allowed, rows, ?_, ?_⟩
  · change recast ApplyFailure.semp (store.send request).1 = .ok rows
    rw [sent]
    rfl
  · change after rows (store.send request).2
    rw [sent]
    exact later

/-- An object that agrees with a request reads back as it asks. -/
theorem serves_verifyReadback
    (within : ∀ path, base path → settled path)
    (holds : ∀ store, before store →
      At state goal settled store ∧ ∃ object,
        store.get? (Semp.decode request.path) = some object ∧
          agrees request.body object.readable = true) :
    Serves semp (Allowed state goal base) before (verifyReadback request)
      fun _ => before := by
  have reads : Serves semp (Allowed state goal base) before
      (send { method := .get, path := request.path, body := [] })
      fun rows store => before store ∧ ∃ object : Members,
        rows = [object] ∧ agrees request.body object = true := by
    refine serves_send fun store initial => ?_
    rcases holds store initial with ⟨stands, object, found, agreeing⟩
    refine ⟨stands.allowed within (provided_of_absent rfl rfl) rfl,
      [object.readable], store, ?_, initial, object.readable, rfl, agreeing⟩
    change (store.read _, store) = _
    rw [ConfigStore.read, found]
  refine Serves.bind reads fun rows => ?_
  rintro store ⟨initial, object, rfl, agreeing⟩
  have ends : Serves semp (Allowed state goal base) before
      (require (agrees request.body object = true)
        (.readbackMismatch request.path))
      fun _ => before :=
    Serves.lift fun later held =>
      ⟨(), ensure_eq_ok.2 agreeing, held⟩
  exact ends store initial

theorem serves_writeVerified {after : ConfigStore → Prop}
    (within : ∀ path, base path → settled path)
    (writes : ∀ store, before store →
      Allowed state goal base store (.send request) ∧
        ∃ rows next, store.send request = (.ok rows, next) ∧ after next)
    (reads : ∀ store, after store →
      At state goal settled store ∧ ∃ object,
        store.get? (Semp.decode request.path) = some object ∧
          agrees request.body object.readable = true) :
    Serves semp (Allowed state goal base) before (writeVerified request)
      fun _ => after :=
  Serves.bind (serves_send writes) fun _ => serves_verifyReadback within reads

/-- A request that writes an owned object. -/
structure Puts (state : DesiredState) (request : Request)
    (collection name : String) : Prop where
  method : request.method = .put
  decoded : Semp.decode request.path = place state.vpn collection name
  owned :
    (place state.vpn collection name, request.body) ∈ ownedObjects state
  distinct : (request.body.map Prod.fst).Nodup
  vpn : (members request.body).text "msgVpnName" = some state.vpn
  identity :
    (identityOf (octets collection)).key (members request.body) =
      some (octets name)

theorem outside_place (vpn collection name : String) :
    ∀ topics ∈ ownedTopics state, ∀ key,
      place vpn collection name ≠ topics.path ++ [key] :=
  outside_of_length (by simp [place])

variable (ordered : Ordered state)
  (vpnThere : (goal (vpnPlace state.vpn)).isSome)
  (within : ∀ path, base path → settled path)

include ordered vpnThere within

/-- An owned object is written and settled. -/
theorem serves_put {collection name : String}
    (puts : Puts state request collection name)
    (provided : ∀ store, At state goal settled store →
      Provided state.vpn store (.send request)) :
    Serves semp (Allowed state goal base) (At state goal settled)
      (writeVerified request)
      fun _ => At state goal fun path =>
        settled path ∨ path = place state.vpn collection name := by
  have inside : inVpn (place state.vpn collection name)
      (members request.body) = true := by
    unfold inVpn place
    rw [puts.vpn]
    exact decide_eq_true rfl
  have keyed : (identityOf ([octets "msgVpns", octets state.vpn,
      octets collection].getLastD [])).key (members request.body) =
        some (octets name) :=
    puts.identity
  have fitting : fits (place state.vpn collection name)
      (members request.body) = true :=
    fits_of_key (List.cons_ne_nil _ _) keyed
  have reached (store : ConfigStore) (stands : At state goal settled store) :
      goal (place state.vpn collection name) =
        some (members request.body) := by
    rw [← stands.aims, aim_owned ordered puts.owned]
  have widened : ∀ path, base path →
      settled path ∨ path = place state.vpn collection name :=
    fun path member => .inl (within path member)
  refine serves_writeVerified widened ?_ ?_
  · intro store stands
    have parent : store.hasParent (place state.vpn collection name) = true :=
      stands.vpn_there ordered vpnThere
    refine ⟨stands.allowed within (provided store stands) ?_,
      [(members request.body).readable],
      store.set _ (members request.body) fitting, ?_, ?_⟩
    · rw [isReconciling, puts.method]
      rfl
    · rw [ConfigStore.send, puts.method, puts.decoded]
      exact put_eq parent inside fitting
    · refine stands.settle ?_ ?_ ?_
      · exact fun other differs => by
          rw [ConfigStore.get?_set, if_neg differs]
      · rw [ConfigStore.get?_set, if_pos rfl, reached store stands]
      · exact fun topics member key object here _ =>
          absurd here (outside_place _ _ _ topics member key)
  · intro store stands
    refine ⟨stands, members request.body, ?_, agrees_members puts.distinct⟩
    rw [puts.decoded, stands.settled _ (.inr rfl), ← stands.aims,
      aim_owned ordered puts.owned]

omit ordered vpnThere within in
/-- What an apply patches is in no collection of topics, and its identity, owner
and dead-message queue are left alone. -/
theorem patches_spec {patch : Path × Body} (member : patch ∈ patches state.vpn) :
    patch.1.length ≠ 6 ∧ (patch.2.map Prod.fst).Nodup ∧
      leavesIdentity patch.2 = true ∧ members patch.2 "owner" = none ∧
      members patch.2 "deadMsgQueue" = none := by
  simp only [patches, List.mem_cons, List.not_mem_nil, or_false] at member
  rcases member with rfl | rfl | rfl
  · refine ⟨by simp [factoryPlace, place], ?_⟩
    dsimp only
    decide
  · decide
  · refine ⟨by simp [vpnPlace], ?_⟩
    dsimp only
    decide

omit vpnThere in
/-- A patched object is merged and settled. -/
theorem serves_patch {path : Path} (method : request.method = .patch)
    (decoded : Semp.decode request.path = path)
    (patched : (path, request.body) ∈ patches state.vpn)
    (there : (goal path).isSome) :
    Serves semp (Allowed state goal base) (At state goal settled)
      (writeVerified request)
      fun _ => At state goal fun other => settled other ∨ other = path := by
  rcases patches_spec patched with ⟨length, distinct, leaves, owner, queue⟩
  have widened : ∀ other, base other → settled other ∨ other = path :=
    fun other member => .inl (within other member)
  refine serves_writeVerified widened ?_ ?_
  · intro store stands
    rcases Option.isSome_iff_exists.1
      (stands.patched ordered patched there) with ⟨object, held⟩
    have fitting : fits path (object.merge request.body) = true :=
      fits_merge (store.identified path object held) leaves
    refine ⟨stands.allowed within (provided_of_absent owner queue) ?_,
      [(object.merge request.body).readable],
      store.set path (object.merge request.body) fitting, ?_, ?_⟩
    · rw [isReconciling, method]
      rfl
    · rw [ConfigStore.send, method, decoded]
      exact patch_eq held fitting
    · refine stands.settle ?_ ?_ ?_
      · exact fun other differs => by
          rw [ConfigStore.get?_set, if_neg differs]
      · rw [ConfigStore.get?_set, if_pos rfl, ← stands.aims,
          aim_patch ordered patched, held]
        rfl
      · exact fun topics member key object here _ =>
          absurd here (outside_of_length length topics member key)
  · intro store stands
    rcases Option.isSome_iff_exists.1
      (stands.patched ordered patched there) with ⟨object, held⟩
    refine ⟨stands, object, decoded ▸ held, ?_⟩
    have settledHere := stands.settled path (.inr rfl)
    rw [← stands.aims, aim_patch ordered patched, held] at settledHere
    rw [Option.some.inj settledHere]
    exact agrees_merge distinct

end Requests

/-! ## Inventories -/

section Inventories

variable {state : DesiredState} {goal : Path → Option Members}
  {base settled : Path → Prop} {before : ConfigStore → Prop}
  (within : ∀ path, base path → settled path)

include within

theorem serves_inventory {path member : String} {collection : Path}
    {spell : String → Bytes} (decoded : Semp.decode path = collection)
    (shown : member ∉ secretMembers) (injective : Function.Injective spell)
    (holds : ∀ store, before store →
      At state goal settled store ∧
        (store.get? collection.dropLast).isSome ∧
        ∀ key object, store.get? (collection ++ [key]) = some object →
          ∃ name, object.text member = some name ∧ key = spell name) :
    Serves semp (Allowed state goal base) before (inventory path member)
      fun names store => before store ∧
        ∀ name, name ∈ names ↔
          (store.get? (collection ++ [spell name])).isSome := by
  have reads : Serves semp (Allowed state goal base) before (readAll path)
      fun rows store => before store ∧
        rows = (store.rowsOf collection).map fun row => row.2.readable := by
    refine Serves.query fun store initial => ?_
    rcases holds store initial with ⟨stands, parent, _⟩
    refine ⟨stands.allowed within trivial rfl, _, ?_, initial, rfl⟩
    change recast ApplyFailure.semp
      (store.readCollection (Semp.decode path)) = _
    rw [decoded, ConfigStore.readCollection, if_pos parent]
    rfl
  refine Serves.bind reads fun rows => ?_
  rintro store ⟨initial, rfl⟩
  rcases exists_names shown injective (holds store initial).2.2 with
    ⟨names, mapped, distinct, mem⟩
  have ends : Serves semp (Allowed state goal base)
      (fun held => before held ∧ held = store)
      (do
        let names ← Client.lift
          (((store.rowsOf collection).map fun row => row.2.readable).mapM
            fun row => present (row.text member)
              (ApplyFailure.provisioning (.malformedReadback path)))
        require names.Nodup (.malformedReadback path)
        pure names)
      fun names held => before held ∧
        ∀ name, name ∈ names ↔
          (held.get? (collection ++ [spell name])).isSome := by
    have lifted : Serves semp (Allowed state goal base)
        (fun held => before held ∧ held = store)
        (Client.lift
          (((store.rowsOf collection).map fun row => row.2.readable).mapM
            fun row => present (row.text member)
              (ApplyFailure.provisioning (.malformedReadback path))))
        fun found held => (before held ∧ held = store) ∧ found = names :=
      Serves.lift fun held initialHere => ⟨names, mapped, initialHere, rfl⟩
    refine Serves.bind lifted fun found => ?_
    have unique : Serves semp (Allowed state goal base)
        (fun held => (before held ∧ held = store) ∧ found = names)
        (require found.Nodup (.malformedReadback path))
        fun _ held => (before held ∧ held = store) ∧ found = names :=
      Serves.lift fun held facts =>
        ⟨(), ensure_eq_ok.2 (facts.2 ▸ distinct), facts⟩
    refine Serves.bind unique fun _ => Serves.pure ?_
    rintro held ⟨⟨initialHere, rfl⟩, rfl⟩
    exact ⟨initialHere, mem⟩
  exact ends store ⟨initial, rfl⟩

end Inventories

/-! ## Reconciliation -/

theorem mem_difference {left right : List String} {topic : String} :
    topic ∈ difference left right ↔ topic ∈ left ∧ topic ∉ right := by
  rw [difference, List.mem_insertionSort, List.mem_filter, List.mem_dedup,
    Bool.not_eq_true', ← Bool.not_eq_true, List.contains_iff_mem]

theorem difference_nodup (left right : List String) :
    (difference left right).Nodup :=
  (List.perm_insertionSort _ _).nodup_iff.2 ((List.nodup_dedup left).filter _)

/-- The topics of a collection that are there. -/
def Rows (topics : TopicSet) (there : String → Prop)
    (store : ConfigStore) : Prop :=
  ∀ topic, (store.get? (topics.row topic)).isSome ↔ there topic

theorem TopicSet.row_inj {topics : TopicSet} {left right : String} :
    topics.row left = topics.row right ↔ left = right := by
  rw [TopicSet.row, TopicSet.row, List.append_cancel_left_eq,
    List.cons.injEq, topics.key_injective.eq_iff, and_iff_left rfl]

section Reconciliation

variable {state : DesiredState} {goal : Path → Option Members}
  {base settled : Path → Prop} {topics : TopicSet}
  (ordered : Ordered state) (owned : topics ∈ ownedTopics state)
  (addressed : topics.Addressed)
  (within : ∀ path, base path → settled path)
  (ownerThere : ∀ store, At state goal settled store →
    (store.get? topics.path.dropLast).isSome)

include ordered owned

theorem At.goal_row {store : ConfigStore} (stands : At state goal settled store)
    (key : Bytes) :
    goal (topics.path ++ [key]) =
      topics.aim key (store.get? (topics.path ++ [key])) := by
  rw [← stands.aims, aim_topics ordered owned]

include addressed within ownerThere

/-- A wanted topic that is not there is added. -/
theorem serves_addTopic {topic : String} (wanted : topic ∈ topics.wanted)
    {there : String → Prop} (absent : ¬there topic) :
    Serves semp (Allowed state goal base)
      (fun store => At state goal settled store ∧ Rows topics there store)
      (addTopic topics.collection topic)
      fun _ store => At state goal settled store ∧
        Rows topics (fun other => there other ∨ other = topic) store := by
  have sends : Serves semp (Allowed state goal base)
      (fun store => At state goal settled store ∧ Rows topics there store)
      (send
        { method := .post
          path := topics.collection.path
          body := topics.collection.body topic })
      fun _ store => At state goal settled store ∧
        Rows topics (fun other => there other ∨ other = topic) store := by
    refine serves_send ?_
    rintro store ⟨stands, rows⟩
    have free : store.get? (topics.row topic) = none := by
      rw [← Option.not_isSome_iff_eq_none, rows topic]
      exact absent
    have aimed : goal (topics.row topic) =
        some (members (topics.collection.body topic)) := by
      rw [TopicSet.row, stands.goal_row ordered owned, ← TopicSet.row, free,
        TopicSet.aim_wanted wanted]
      rfl
    have below : topics.path ≠ [] := by
      rintro empty
      have length := addressed.length
      rw [empty] at length
      cases length
    have parent : store.hasParent (topics.row topic) = true := by
      simp only [ConfigStore.hasParent, TopicSet.row, List.length_append,
        addressed.length, List.length_singleton, List.dropLast_concat,
        ownerThere store stands]
      rfl
    have inside : inVpn (topics.row topic)
        (members (topics.collection.body topic)) = true :=
      inVpn_of_absent (addressed.unscoped topic "msgVpnName" (by decide))
    have fitting : fits (topics.row topic)
        (members (topics.collection.body topic)) = true :=
      fits_of_key below (addressed.posted topic)
    refine ⟨⟨stands.mono within, ?_, ?_⟩,
      [(members (topics.collection.body topic)).readable],
      store.set (topics.row topic) _ fitting, ?_, ?_, ?_⟩
    · exact provided_of_absent
        (addressed.unscoped topic "owner" (by decide))
        (addressed.unscoped topic "deadMsgQueue" (by decide))
    · intro _
      refine ⟨topics.row topic, ?_⟩
      rw [free, aimed]
      exact (Option.some_ne_none _).symm
    · change store.post (Semp.decode topics.collection.path) _ = _
      rw [addressed.path]
      exact post_eq (addressed.posted topic) parent inside free fitting
    · refine stands.reach (topics.row topic) ?_ ?_ ?_
      · exact fun other differs => by
          rw [ConfigStore.get?_set, if_neg differs]
      · rw [ConfigStore.get?_set, if_pos rfl, aimed]
      · intro others member key object here found
        have same : topics = others :=
          ownedTopics_of_path ordered owned member
            (List.append_inj' here rfl).1
        rw [aimed, Option.some.injEq] at found
        rw [← same, ← found]
        exact addressed.uniform topic
    · intro other
      rw [ConfigStore.get?_set]
      by_cases same : other = topic
      · rw [if_pos (by rw [same])]
        simp [same]
      · rw [if_neg (fun equal => same (topics.row_inj.1 equal)), rows other]
        simp [same]
  exact Serves.bind sends fun _ => Serves.pure fun _ held => held

omit ownerThere in
/-- A topic that is there and not wanted is removed. -/
theorem serves_removeTopic {topic : String}
    (unwanted : topic ∉ topics.wanted) {there : String → Prop}
    (held : there topic) :
    Serves semp (Allowed state goal base)
      (fun store => At state goal settled store ∧ Rows topics there store)
      (removeTopic topics.collection topic)
      fun _ store => At state goal settled store ∧
        Rows topics (fun other => there other ∧ other ≠ topic) store := by
  have sends : Serves semp (Allowed state goal base)
      (fun store => At state goal settled store ∧ Rows topics there store)
      (send
        { method := .delete
          path :=
            topics.collection.path ++ "/" ++
              (topics.collection.keyPrefix ++ quote topic)
          body := [] })
      fun _ store => At state goal settled store ∧
        Rows topics (fun other => there other ∧ other ≠ topic) store := by
    refine serves_send ?_
    rintro store ⟨stands, rows⟩
    have present : (store.get? (topics.row topic)).isSome :=
      (rows topic).2 held
    have aimed : goal (topics.row topic) = none := by
      rw [TopicSet.row, stands.goal_row ordered owned]
      refine TopicSet.aim_unwanted ?_ _
      intro other wanted same
      exact unwanted (topics.key_injective same ▸ wanted)
    have below : topics.row topic ≠ [] := by
      simp [TopicSet.row]
    refine ⟨⟨stands.mono within, ?_, ?_⟩, [],
      store.erase (topics.row topic) below, ?_, ?_, ?_⟩
    · exact provided_of_absent rfl rfl
    · intro _
      refine ⟨topics.row topic, fun same => ?_⟩
      rw [same, aimed] at present
      cases present
    · change store.delete (Semp.decode _) = _
      rw [addressed.row]
      exact delete_eq below present
    · refine stands.reach (topics.row topic) ?_ ?_ ?_
      · exact fun other differs => by
          rw [ConfigStore.get?_erase, if_neg differs]
      · rw [ConfigStore.get?_erase, if_pos rfl, aimed]
      · intro others member key object here found
        rw [aimed] at found
        cases found
    · intro other
      rw [ConfigStore.get?_erase]
      by_cases same : other = topic
      · rw [if_pos (by rw [same])]
        simp [same]
      · rw [if_neg (fun equal => same (topics.row_inj.1 equal)), rows other]
        simp [same]
  exact Serves.bind sends fun _ => Serves.pure fun _ held => held

/-- Every wanted topic that is not there is added. -/
theorem serves_addTopics {present : List String} :
    Serves semp (Allowed state goal base)
      (fun store => At state goal settled store ∧
        Rows topics (· ∈ present) store)
      (Client.each (addTopic topics.collection)
        (difference topics.wanted present))
      fun _ store => At state goal settled store ∧
        Rows topics (fun topic => topic ∈ present ∨ topic ∈ topics.wanted)
          store := by
  have turn : ∀ done current rest,
      difference topics.wanted present = done ++ current :: rest →
      Serves semp (Allowed state goal base)
        (fun store => At state goal settled store ∧
          Rows topics (fun topic => topic ∈ present ∨ topic ∈ done) store)
        (addTopic topics.collection current)
        fun _ store => At state goal settled store ∧
          Rows topics
            (fun topic => topic ∈ present ∨ topic ∈ done ++ [current])
            store := by
    intro done current rest split
    have distinct := difference_nodup topics.wanted present
    have member : current ∈ difference topics.wanted present := by
      rw [split]
      simp
    rw [split, List.nodup_append] at distinct
    rcases mem_difference.1 member with ⟨wanted, absent⟩
    have fresh : ¬(current ∈ present ∨ current ∈ done) := by
      rintro (there | earlier)
      · exact absent there
      · exact distinct.2.2 current earlier current List.mem_cons_self rfl
    refine (serves_addTopic ordered owned addressed within ownerThere wanted
      fresh).imp (fun _ initial => initial) ?_
    rintro _ store ⟨stands, rows⟩
    refine ⟨stands, fun topic => (rows topic).trans ?_⟩
    simp only [List.mem_append, List.mem_singleton, or_assoc]
  refine (Serves.each turn).imp ?_ ?_
  · rintro store ⟨stands, rows⟩
    exact ⟨stands, fun topic => (rows topic).trans (by simp)⟩
  · rintro _ store ⟨stands, rows⟩
    refine ⟨stands, fun topic => (rows topic).trans ?_⟩
    simp only [mem_difference]
    by_cases there : topic ∈ present
    · simp [there]
    · simp [there]

omit ownerThere in
/-- Every topic that is there and not wanted is removed. -/
theorem serves_removeTopics {present : List String} :
    Serves semp (Allowed state goal base)
      (fun store => At state goal settled store ∧
        Rows topics (fun topic => topic ∈ present ∨ topic ∈ topics.wanted)
          store)
      (Client.each (removeTopic topics.collection)
        (difference present topics.wanted))
      fun _ store => At state goal settled store ∧
        Rows topics (· ∈ topics.wanted) store := by
  have turn : ∀ done current rest,
      difference present topics.wanted = done ++ current :: rest →
      Serves semp (Allowed state goal base)
        (fun store => At state goal settled store ∧
          Rows topics
            (fun topic =>
              (topic ∈ present ∨ topic ∈ topics.wanted) ∧ topic ∉ done)
            store)
        (removeTopic topics.collection current)
        fun _ store => At state goal settled store ∧
          Rows topics
            (fun topic =>
              (topic ∈ present ∨ topic ∈ topics.wanted) ∧
                topic ∉ done ++ [current])
            store := by
    intro done current rest split
    have distinct := difference_nodup present topics.wanted
    have member : current ∈ difference present topics.wanted := by
      rw [split]
      simp
    rw [split, List.nodup_append] at distinct
    rcases mem_difference.1 member with ⟨there, unwanted⟩
    have held : (current ∈ present ∨ current ∈ topics.wanted) ∧
        current ∉ done :=
      ⟨.inl there, fun earlier =>
        distinct.2.2 current earlier current List.mem_cons_self rfl⟩
    refine (serves_removeTopic ordered owned addressed within
      unwanted held).imp (fun _ initial => initial) ?_
    rintro _ store ⟨stands, rows⟩
    refine ⟨stands, fun topic => (rows topic).trans ?_⟩
    simp only [List.mem_append, List.mem_singleton, not_or, and_assoc, ne_eq]
  refine (Serves.each turn).imp ?_ ?_
  · rintro store ⟨stands, rows⟩
    exact ⟨stands, fun topic => (rows topic).trans (by simp)⟩
  · rintro _ store ⟨stands, rows⟩
    refine ⟨stands, fun topic => (rows topic).trans ?_⟩
    simp only [mem_difference]
    by_cases wanted : topic ∈ topics.wanted
    · simp [wanted]
    · simp [wanted]

/-- A reconciled collection is settled. -/
theorem serves_reconcile :
    Serves semp (Allowed state goal base) (At state goal settled)
      (reconcile topics.collection topics.wanted)
      fun _ => At state goal fun path =>
        settled path ∨ ∃ key, path = topics.path ++ [key] := by
  have rowNamed (store : ConfigStore) (stands : At state goal settled store) :
      ∀ key object, store.get? (topics.path ++ [key]) = some object →
        ∃ name, object.text topics.collection.member = some name ∧
          key = topics.key name := by
    intro key object found
    exact addressed.named key object (store.identified _ _ found)
      (stands.uniform topics owned key object found)
  have first := serves_inventory within
    addressed.path addressed.shown topics.key_injective
    fun (store : ConfigStore) (stands : At state goal settled store) =>
      ⟨stands, ownerThere store stands, rowNamed store stands⟩
  have listed : Serves semp (Allowed state goal base)
      (At state goal settled)
      (inventory topics.collection.path topics.collection.member)
      fun present store => At state goal settled store ∧
        Rows topics (· ∈ present) store := by
    refine first.imp (fun _ initial => initial) ?_
    rintro present store ⟨stands, rows⟩
    exact ⟨stands, fun topic => (rows topic).symm⟩
  refine Serves.bind listed fun present => ?_
  refine Serves.bind
    (serves_addTopics ordered owned addressed within ownerThere) fun _ => ?_
  refine Serves.bind
    (serves_removeTopics ordered owned addressed within)
    fun _ => ?_
  have last := serves_inventory within
    addressed.path addressed.shown topics.key_injective
    fun (store : ConfigStore) (held : At state goal settled store ∧
        Rows topics (· ∈ topics.wanted) store) =>
      ⟨held.1, ownerThere store held.1, rowNamed store held.1⟩
  refine Serves.bind last fun left => Serves.lift ?_
  rintro store ⟨⟨stands, rows⟩, listed⟩
  have same (topic : String) : topic ∈ left ↔ topic ∈ topics.wanted :=
    (listed topic).trans (rows topic)
  refine ⟨(), ensure_eq_ok.2 ⟨fun topic => (same topic).1,
    fun topic => (same topic).2⟩, stands.uniform, stands.aims, ?_⟩
  rintro path (member | ⟨key, rfl⟩)
  · exact stands.settled path member
  · rw [stands.goal_row ordered owned]
    cases found : store.get? (topics.path ++ [key]) with
    | some object =>
        rcases rowNamed store stands key object found with ⟨topic, _, rfl⟩
        have there : (store.get? (topics.row topic)).isSome := by
          rw [TopicSet.row, found]
          rfl
        rw [TopicSet.aim_wanted ((rows topic).1 there)]
        rfl
    | none =>
        refine (TopicSet.aim_unwanted ?_ _).symm
        rintro topic wanted rfl
        have there := (rows topic).2 wanted
        rw [TopicSet.row, found] at there
        cases there

end Reconciliation

/-! ## Owned objects -/

section Objects

variable {state : DesiredState} (ordered : Ordered state)
  (plain : Plain state.vpn)

include ordered

theorem profile_plain {profile : ProfileState}
    (member : profile ∈ state.profiles) : Plain profile.name := by
  have named := List.mem_map_of_mem (f := ProfileState.name) member
  rw [ordered.profiles, List.mem_map] at named
  rcases named with ⟨role, _, spelled⟩
  exact spelled ▸ plain_value role

theorem username_plain {username : UsernameState}
    (member : username ∈ state.usernames) : Plain username.name := by
  have named := List.mem_map_of_mem (f := UsernameState.name) member
  rw [ordered.usernames, List.mem_map] at named
  rcases named with ⟨role, _, spelled⟩
  exact spelled ▸ plain_value role

theorem template_plain {template : QueueTemplateSpec}
    (member : template ∈ state.queueTemplates) : Plain template.name := by
  rw [ordered.templates] at member
  simp only [queueTemplates, List.mem_cons, List.not_mem_nil, or_false]
    at member
  rcases member with rfl | rfl | rfl
  all_goals exact plain_ofList (by decide)

include plain

theorem puts_profile {profile : ProfileState}
    (member : profile ∈ state.profiles) :
    Puts state (profileRequest state.vpn profile) "aclProfiles"
      profile.name := by
  have names : (profileBody state.vpn profile).map Prod.fst =
      (profileBody "" ⟨"", [], []⟩).map Prod.fst :=
    rfl
  have identity : identityOf (octets "aclProfiles") =
      .member "aclProfileName" :=
    identityOf_known (by simp [identities])
  constructor
  · rfl
  · exact decode_place plain (plain_ofList (by decide))
      (profile_plain ordered member)
  · exact List.mem_append_left _ (List.mem_append_left _
      (List.mem_append_left _ (List.mem_append_left _
        (List.mem_map_of_mem member))))
  · change ((profileBody state.vpn profile).map Prod.fst).Nodup
    rw [names]
    decide
  · rfl
  · rw [identity]
    rfl

omit ordered in
theorem puts_clientProfile {profile : ClientProfileState}
    (member : profile ∈ state.clientProfiles) :
    Puts state (clientProfileRequest state.vpn profile) "clientProfiles"
      profile.role.value := by
  have names : (clientProfileBody state.vpn profile).map Prod.fst =
      (clientProfileBody "" (clientProfile .recorder)).map Prod.fst :=
    rfl
  have identity : identityOf (octets "clientProfiles") =
      .member "clientProfileName" :=
    identityOf_known (by simp [identities])
  constructor
  · rfl
  · exact decode_place plain (plain_ofList (by decide)) (plain_value profile.role)
  · exact List.mem_append_left _ (List.mem_append_left _
      (List.mem_append_left _ (List.mem_append_right _
        (List.mem_map_of_mem member))))
  · change ((clientProfileBody state.vpn profile).map Prod.fst).Nodup
    rw [names]
    decide
  · rfl
  · rw [identity]
    rfl

theorem puts_username {username : UsernameState}
    (member : username ∈ state.usernames) :
    Puts state (usernameRequest state.vpn username) "clientUsernames"
      username.name := by
  have names : (usernameBody state.vpn username).map Prod.fst =
      (usernameBody "" ⟨"", "", "", true⟩).map Prod.fst :=
    rfl
  have identity : identityOf (octets "clientUsernames") =
      .member "clientUsername" :=
    identityOf_known (by simp [identities])
  constructor
  · rfl
  · exact decode_place plain (plain_ofList (by decide))
      (username_plain ordered member)
  · exact List.mem_append_left _ (List.mem_append_left _
      (List.mem_append_right _ (List.mem_map_of_mem member)))
  · change ((usernameBody state.vpn username).map Prod.fst).Nodup
    rw [names]
    decide
  · rfl
  · rw [identity]
    rfl

theorem puts_template {template : QueueTemplateSpec}
    (member : template ∈ state.queueTemplates) :
    Puts state (queueTemplateRequest state.vpn template) "queueTemplates"
      template.name := by
  have names : (queueTemplateBody state.vpn template).map Prod.fst =
      (queueTemplateBody "" (upstreamTemplate .recorder "")).map Prod.fst :=
    rfl
  have identity : identityOf (octets "queueTemplates") =
      .member "queueTemplateName" :=
    identityOf_known (by simp [identities])
  constructor
  · rfl
  · exact decode_place plain (plain_ofList (by decide))
      (template_plain ordered member)
  · exact List.mem_append_left _ (List.mem_append_right _
      (List.mem_map_of_mem member))
  · change ((queueTemplateBody state.vpn template).map Prod.fst).Nodup
    rw [names]
    decide
  · rfl
  · rw [identity]
    rfl

omit ordered plain in
theorem queueBody_names (vpn : String) (queue : QueueSpec) :
    ((queueBody vpn queue).map Prod.fst).Nodup := by
  refine List.Nodup.sublist (List.filter_sublist.map Prod.fst) ?_
  have names : (wholeQueueBody vpn queue).map Prod.fst =
      (wholeQueueBody "" (deadMessageQueue "" 0 0)).map Prod.fst :=
    rfl
  rw [names]
  decide

omit ordered plain in
/-- What a queue's body says of its identity, its owner and its dead-message
queue. -/
theorem queueBody_text (vpn : String) (queue : QueueSpec) :
    (members (queueBody vpn queue)).text "msgVpnName" = some vpn ∧
      (members (queueBody vpn queue)).text "queueName" = some queue.name ∧
      (members (queueBody vpn queue)).text "owner" = some queue.owner ∧
      (members (queueBody vpn queue)).text "deadMsgQueue" =
        queue.deadMessageQueue := by
  rcases queue with ⟨name, owner, subscriptions, _ | dead, bytes, unacked⟩
  · exact ⟨rfl, rfl, rfl, rfl⟩
  · exact ⟨rfl, rfl, rfl, rfl⟩

omit ordered in
theorem puts_queue {queue : QueueSpec} (member : queue ∈ state.queues) :
    Puts state (queueRequest state.vpn queue) "queues" queue.name := by
  have identity : identityOf (octets "queues") = .member "queueName" :=
    identityOf_known (by simp [identities])
  have named : segments (quote queue.name) = [octets queue.name] := by
    have opening : '/' ∉ "".toList ∧ '%' ∉ "".toList := by decide
    have quoted := segments_quote opening queue.name
    rwa [String.empty_append, String.empty_append] at quoted
  constructor
  · rfl
  · exact decode_place plain (plain_ofList (by decide)) named
  · exact List.mem_append_right _ (List.mem_map_of_mem member)
  · exact queueBody_names state.vpn queue
  · exact (queueBody_text state.vpn queue).1
  · rw [identity, Identity.key]
    change ((members (queueBody state.vpn queue)).text "queueName").map
      octets = _
    rw [(queueBody_text state.vpn queue).2.1]
    rfl

end Objects

end AerialRescue.Broker.Provisioning
