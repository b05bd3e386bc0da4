import AerialRescue.Broker.DesiredOrder
import AerialRescue.Broker.Provisioning

/-!
# What an apply aims at

The objects that a desired state owns, the topics that it wants in their
collections, and the store that an apply leaves: what it owns as desired, what
it patches with the patched members, and everything else as it was.
-/

namespace AerialRescue.Broker.Provisioning

open AerialRescue.Lib
open AerialRescue.Contracts AerialRescue.Contracts.Canonical
open AerialRescue.Broker.Queues AerialRescue.Broker.Desired
open AerialRescue.Broker.Retirement (quote)
open AerialRescue.Broker.Semp
open AerialRescue.Domain.Principals

/-! ## Places -/

/-- Where a message VPN is. -/
def vpnPlace (vpn : String) : Path :=
  [octets "msgVpns", octets vpn]

/-- Where an object of a message VPN is. -/
def place (vpn collection name : String) : Path :=
  [octets "msgVpns", octets vpn, octets collection, octets name]

/-- The text stands for itself in a path. -/
def Plain (text : String) : Prop :=
  segments text = [octets text]

instance Plain.decidable (text : String) : Decidable (Plain text) :=
  inferInstanceAs (Decidable (segments text = [octets text]))

/-- A collection of topics, where it is, and the topics wanted in it. -/
structure TopicSet where
  path : Path
  collection : Collection
  wanted : List String

/-- The key of a topic in its collection. -/
def TopicSet.key (topics : TopicSet) (topic : String) : Bytes :=
  octets (topics.collection.keyPrefix ++ topic)

/-- Where a topic of the collection is. -/
def TopicSet.row (topics : TopicSet) (topic : String) : Path :=
  topics.path ++ [topics.key topic]

/-- The topic exceptions of a profile in one direction. -/
def exceptionTopics (vpn : String) (profile : ProfileState)
    (access : Access) : TopicSet where
  path :=
    place vpn "aclProfiles" profile.name ++
      [octets (exceptionCollectionName access)]
  collection := exceptionCollection vpn profile.name access
  wanted := wantedTopics profile access

/-- The subscriptions of a queue. -/
def subscriptionTopics (vpn : String) (queue : QueueSpec) : TopicSet where
  path := place vpn "queues" queue.name ++ [octets "subscriptions"]
  collection := subscriptionCollection vpn queue.name
  wanted := queue.subscriptions

/-- The objects that a desired state owns, with their places. -/
def ownedObjects (state : DesiredState) : List (Path × Body) :=
  (state.profiles.map fun profile =>
      (place state.vpn "aclProfiles" profile.name,
        profileBody state.vpn profile)) ++
    (state.clientProfiles.map fun profile =>
      (place state.vpn "clientProfiles" profile.role.value,
        clientProfileBody state.vpn profile)) ++
    (state.usernames.map fun username =>
      (place state.vpn "clientUsernames" username.name,
        usernameBody state.vpn username)) ++
    (state.queueTemplates.map fun template =>
      (place state.vpn "queueTemplates" template.name,
        queueTemplateBody state.vpn template)) ++
    state.queues.map fun queue =>
      (place state.vpn "queues" queue.name, queueBody state.vpn queue)

/-- The topics that a desired state owns. -/
def ownedTopics (state : DesiredState) : List TopicSet :=
  (state.profiles.flatMap fun profile =>
      [ exceptionTopics state.vpn profile .publish,
        exceptionTopics state.vpn profile .subscribe ]) ++
    state.queues.map (subscriptionTopics state.vpn)

/-- The place of the factory username. -/
def factoryPlace (vpn : String) : Path :=
  place vpn "clientUsernames" factoryClientUsername

/-- The place of the discovery username. -/
def discoveryPlace (vpn : String) : Path :=
  place vpn "clientUsernames" Principal.discovery.value

/-- The objects that are patched, with their places. -/
def patches (vpn : String) : List (Path × Body) :=
  [ (factoryPlace vpn, [("enabled", .flag false)]),
    ([], brokerProtocolState),
    (vpnPlace vpn, vpnProtocolState) ]

/-- What an apply leaves of a row of a collection that it reconciles. -/
def TopicSet.aim (topics : TopicSet) (key : Bytes)
    (held : Option Members) : Option Members :=
  match topics.wanted.find? fun topic => topics.key topic = key with
  | some topic => some (held.getD (members (topics.collection.body topic)))
  | none => none

/-- What an apply leaves at a place that is no owned object and in no owned
collection. -/
def foreignAim (vpn : String) (path : Path) (held : Option Members) :
    Option Members :=
  if path = discoveryPlace vpn then none
  else
    match (patches vpn).find? fun patch => patch.1 = path with
    | some patch => held.map fun object => object.merge patch.2
    | none => held

/-- What an apply leaves at a place, from what is there. -/
def aim (state : DesiredState) (path : Path) (held : Option Members) :
    Option Members :=
  match (ownedObjects state).find? fun owned => owned.1 = path with
  | some owned => some (members owned.2)
  | none =>
      match (ownedTopics state).find? fun topics =>
        path ≠ [] ∧ path.dropLast = topics.path with
      | some topics => topics.aim (path.getLastD []) held
      | none => foreignAim state.vpn path held

/-- What an apply leaves of a store. -/
def target (state : DesiredState) (store : ConfigStore) :
    Path → Option Members :=
  fun path => aim state path (store.get? path)

/-- Every row of the owned exception collections is of the SMF syntax. -/
def SmfOnly (state : DesiredState) (store : ConfigStore) : Prop :=
  ∀ profile ∈ state.profiles, ∀ access key object,
    store.get? ((exceptionTopics state.vpn profile access).path ++ [key]) =
        some object →
      object.text (syntaxMember access) = some "smf"

/-! ## Paths of requests -/

theorem joined_cons (first second : String) (rest : List String) :
    joined (first :: second :: rest) =
      first ++ "/" ++ joined (second :: rest) :=
  String.intercalate_cons_of_ne_nil (List.cons_ne_nil _ _)

@[simp]
theorem segments_joined (first : String) (rest : List String) :
    segments (joined (first :: rest)) = (first :: rest).flatMap segments := by
  induction rest generalizing first with
  | nil =>
      rw [List.flatMap_cons, List.flatMap_nil, List.append_nil]
      rfl
  | cons second rest inductionHypothesis =>
      rw [joined_cons, segments_append, inductionHypothesis]
      rfl

theorem unquote_octets {text : String} (plain : '%' ∉ text.toList) :
    Percent.unquote text.toList = octets text := by
  rw [Percent.unquote_plain plain]
  exact utf8_toList text

theorem segments_single {text : String} (whole : '/' ∉ text.toList) :
    segments text = [Percent.unquote text.toList] := by
  rw [segments, List.splitOn_eq_singleton whole]
  rfl

/-- A quoted text is one segment, which stands for the text. -/
theorem segments_quote {opening : String}
    (plain : '/' ∉ opening.toList ∧ '%' ∉ opening.toList) (text : String) :
    segments (opening ++ quote text) = [octets (opening ++ text)] := by
  have characters : (opening ++ quote text).toList =
      opening.toList ++ Percent.quote (octets text) := by
    rw [String.toList_append, quote, String.toList_ofList]
  rw [segments_single, characters, Percent.unquote_append plain.2,
    Percent.unquote_quote, octets_append]
  · exact congrArg (fun start => [start ++ octets text]) (utf8_toList opening)
  · rw [characters, List.mem_append, not_or]
    exact ⟨plain.1, Percent.slash_notMem_quote _⟩

/-- A text spelled without separators and escapes stands for itself. -/
theorem plain_ofList {characters : List Char}
    (spelled : '/' ∉ characters ∧ '%' ∉ characters) :
    Plain (String.ofList characters) := by
  have whole : '/' ∉ (String.ofList characters).toList := by
    rw [String.toList_ofList]
    exact spelled.1
  have unescaped : '%' ∉ (String.ofList characters).toList := by
    rw [String.toList_ofList]
    exact spelled.2
  rw [Plain, segments_single whole, unquote_octets unescaped]

theorem decode_joined (vpn : String) (rest : List String) :
    decode (joined ("msgVpns" :: vpn :: rest)) =
      octets "msgVpns" :: (vpn :: rest).flatMap segments := by
  have opening : segments "msgVpns" = [octets "msgVpns"] :=
    plain_ofList (by decide)
  have nonempty : joined ("msgVpns" :: vpn :: rest) ≠ "" := by
    rw [joined_cons]
    intro empty
    have characters := congrArg String.length empty
    simp at characters
  rw [Semp.decode, if_neg nonempty, segments_joined, List.flatMap_cons, opening]
  rfl

theorem plain_value (role : Principal) : Plain role.value := by
  cases role <;> exact plain_ofList (by decide)

section Decoding

variable {vpn : String} (plain : Plain vpn)

include plain

theorem decode_vpn : decode (joined ["msgVpns", vpn]) = vpnPlace vpn := by
  rw [decode_joined, List.flatMap_cons, plain]
  rfl

theorem decode_collection {collection : String} (fixed : Plain collection) :
    decode (joined ["msgVpns", vpn, collection]) =
      vpnPlace vpn ++ [octets collection] := by
  rw [decode_joined, List.flatMap_cons, List.flatMap_cons, plain, fixed]
  rfl

theorem decode_place {collection name segment : String}
    (fixed : Plain collection) (named : segments segment = [octets name]) :
    decode (joined ["msgVpns", vpn, collection, segment]) =
      place vpn collection name := by
  rw [decode_joined, List.flatMap_cons, List.flatMap_cons, List.flatMap_cons,
    plain, fixed, named]
  rfl

theorem decode_within {collection name segment inner : String}
    (fixed : Plain collection) (named : segments segment = [octets name])
    (inside : Plain inner) :
    decode (joined ["msgVpns", vpn, collection, segment, inner]) =
      place vpn collection name ++ [octets inner] := by
  rw [decode_joined, List.flatMap_cons, List.flatMap_cons, List.flatMap_cons,
    List.flatMap_cons, plain, fixed, named, inside]
  rfl

theorem decode_row {collection name segment inner key : String}
    (fixed : Plain collection) (named : segments segment = [octets name])
    (inside : Plain inner) {keyed : Bytes} (spelled : segments key = [keyed]) :
    decode
        (joined ["msgVpns", vpn, collection, segment, inner] ++ "/" ++ key) =
      place vpn collection name ++ [octets inner] ++ [keyed] := by
  have longer :
      joined ["msgVpns", vpn, collection, segment, inner] ++ "/" ++ key =
        joined ["msgVpns", vpn, collection, segment, inner, key] := by
    simp only [joined_cons, String.append_assoc]
    rfl
  rw [longer, decode_joined]
  simp only [List.flatMap_cons, List.flatMap_nil]
  rw [plain, fixed, named, inside, spelled]
  rfl

end Decoding

/-! ## Rows of collections -/

/-- The object has the members that every row of the collection has. -/
def TopicSet.Holds (topics : TopicSet) (object : Members) : Prop :=
  ∀ entry ∈ topics.collection.extra, object entry.1 = some entry.2

/-- The requests of a collection are about its rows. -/
structure TopicSet.Addressed (topics : TopicSet) : Prop where
  length : topics.path.length = 5
  path : Semp.decode topics.collection.path = topics.path
  row :
    ∀ topic,
      Semp.decode
          (topics.collection.path ++ "/" ++
            (topics.collection.keyPrefix ++ quote topic)) =
        topics.row topic
  posted :
    ∀ topic,
      (identityOf (topics.path.getLastD [])).key
          (members (topics.collection.body topic)) =
        some (topics.key topic)
  uniform :
    ∀ topic, topics.Holds (members (topics.collection.body topic))
  unscoped :
    ∀ topic name, name ∈ ["msgVpnName", "owner", "deadMsgQueue"] →
      members (topics.collection.body topic) name = none
  named :
    ∀ key object, fits (topics.path ++ [key]) object = true →
      topics.Holds object →
        ∃ topic, object.text topics.collection.member = some topic ∧
          key = topics.key topic
  shown : topics.collection.member ∉ secretMembers

theorem text_eq_some {object : Members} {name value : String} :
    object.text name = some value ↔ object name = some (.text value) := by
  unfold Members.text
  split
  · rename_i found
    simp [found]
  · rename_i other
    constructor
    · intro impossible
      cases impossible
    · intro found
      exact absurd found (other value)

theorem text_readable {object : Members} {name : String}
    (shown : name ∉ secretMembers) :
    object.readable.text name = object.text name := by
  unfold Members.text Members.readable
  rw [if_neg shown]

/-- What fits a place in a collection has the key of the place. -/
theorem key_of_fits {path : Path} {collection key : Bytes} {object : Members}
    (fitting : fits (path ++ [collection] ++ [key]) object = true)
    (identified : identityOf collection ≠ .free) :
    (identityOf collection).key object = some key := by
  unfold fits at fitting
  simp only [List.reverse_append, List.reverse_cons, List.reverse_nil,
    List.nil_append, List.cons_append, Bool.or_eq_true,
    decide_eq_true_eq] at fitting
  exact fitting.resolve_left identified

/-- A topic exception is identified by its syntax and its topic. -/
theorem identityOf_exceptions (access : Access) :
    identityOf (octets (exceptionCollectionName access)) =
      .exception (syntaxMember access) (exceptionMember access) := by
  refine identityOf_known ?_
  cases access <;> simp [identities, exceptionCollectionName, syntaxMember,
    exceptionMember]

section Addresses

variable {vpn : String} (plain : Plain vpn)

include plain

theorem exceptionTopics_addressed {profile : ProfileState}
    (named : Plain profile.name) (access : Access) :
    (exceptionTopics vpn profile access).Addressed := by
  have opening : '/' ∉ "smf,".toList ∧ '%' ∉ "smf,".toList := by
    decide
  have aclProfiles : Plain "aclProfiles" := plain_ofList (by decide)
  have inner : Plain (exceptionCollectionName access) := by
    cases access <;> exact plain_ofList (by decide)
  have identity := identityOf_exceptions access
  have comma : "smf" ++ "," = "smf," := by decide
  constructor
  · rfl
  · exact decode_within plain aclProfiles named inner
  · exact fun topic => decode_row plain aclProfiles named inner
      (segments_quote opening topic)
  · intro topic
    change (identityOf (octets (exceptionCollectionName access))).key _ = _
    have texts :
        (members ((exceptionTopics vpn profile access).collection.body
            topic)).text (syntaxMember access) = some "smf" ∧
          (members ((exceptionTopics vpn profile access).collection.body
            topic)).text (exceptionMember access) = some topic := by
      cases access
      · exact ⟨rfl, rfl⟩
      · exact ⟨rfl, rfl⟩
    rw [identity, Identity.key, texts.1, texts.2]
    simp only [syntaxes, List.mem_cons, true_or, if_true]
    rw [comma]
    rfl
  · intro topic entry member
    rw [List.mem_singleton.1 member]
    cases access
    · rfl
    · rfl
  · intro topic name member
    simp only [List.mem_cons, List.not_mem_nil, or_false] at member
    rcases member with rfl | rfl | rfl
    · cases access
      · rfl
      · rfl
    · cases access
      · rfl
      · rfl
    · cases access
      · rfl
      · rfl
  · intro key object fitting holds
    have smf : object.text (syntaxMember access) = some "smf" :=
      text_eq_some.2 (holds _ List.mem_cons_self)
    have keyed := key_of_fits fitting (by
      rw [identity]
      exact Identity.noConfusion)
    rw [identity, Identity.key, smf] at keyed
    cases found : object.text (exceptionMember access) with
    | none =>
        rw [found] at keyed
        cases keyed
    | some topic =>
        rw [found] at keyed
        simp only [syntaxes, List.mem_cons, true_or, if_true, comma,
          Option.some.injEq] at keyed
        exact ⟨topic, found, keyed.symm⟩
  · change exceptionMember access ∉ secretMembers
    cases access <;> decide

theorem subscriptionTopics_addressed (queue : QueueSpec) :
    (subscriptionTopics vpn queue).Addressed := by
  have opening : '/' ∉ "".toList ∧ '%' ∉ "".toList := by decide
  have queues : Plain "queues" := plain_ofList (by decide)
  have inner : Plain "subscriptions" := plain_ofList (by decide)
  have identity : identityOf (octets "subscriptions") =
      .member "subscriptionTopic" :=
    identityOf_known (by simp [identities])
  have named : segments (quote queue.name) = [octets queue.name] := by
    have quoted := segments_quote opening queue.name
    rwa [String.empty_append, String.empty_append] at quoted
  constructor
  · rfl
  · exact decode_within plain queues named inner
  · exact fun topic => decode_row plain queues named inner
      (segments_quote opening topic)
  · intro topic
    change (identityOf (octets "subscriptions")).key _ = _
    rw [identity, TopicSet.key]
    change some (octets topic) = some (octets ("" ++ topic))
    rw [String.empty_append]
  · intro topic entry member
    cases member
  · intro topic name member
    simp only [List.mem_cons, List.not_mem_nil, or_false] at member
    rcases member with rfl | rfl | rfl
    · rfl
    · rfl
    · rfl
  · intro key object fitting _
    have keyed := key_of_fits fitting (by
      rw [identity]
      exact Identity.noConfusion)
    rw [identity, Identity.key, Option.map_eq_some_iff] at keyed
    rcases keyed with ⟨topic, found, rfl⟩
    refine ⟨topic, found, ?_⟩
    change octets topic = octets ("" ++ topic)
    rw [String.empty_append]
  · change "subscriptionTopic" ∉ secretMembers
    decide

end Addresses

/-! ## The aim at each place -/

theorem octets_injective : Function.Injective octets := by
  intro left right same
  rw [← utf8_toList, ← utf8_toList] at same
  have bytes : left.toByteArray = right.toByteArray := by
    apply ByteArray.ext
    apply Array.toList_inj.1
    rw [utf8_toList, utf8_toList] at same
    exact same
  exact String.toByteArray_inj.1 bytes

theorem TopicSet.key_injective (topics : TopicSet) :
    Function.Injective topics.key :=
  fun _ _ same => (String.append_right_inj _).1 (octets_injective same)

theorem place_inj {vpn collection name other named : String} :
    place vpn collection name = place vpn other named ↔
      collection = other ∧ name = named := by
  simp only [place, List.cons.injEq, true_and, and_true,
    octets_injective.eq_iff]

theorem ownedObjects_length {state : DesiredState} {owned : Path × Body}
    (member : owned ∈ ownedObjects state) : owned.1.length = 4 := by
  simp only [ownedObjects, List.mem_append, List.mem_map] at member
  rcases member with
    (((⟨_, _, rfl⟩ | ⟨_, _, rfl⟩) | ⟨_, _, rfl⟩) | ⟨_, _, rfl⟩) | ⟨_, _, rfl⟩
  · rfl
  · rfl
  · rfl
  · rfl
  · rfl

theorem ownedTopics_length {state : DesiredState} {topics : TopicSet}
    (member : topics ∈ ownedTopics state) : topics.path.length = 5 := by
  simp only [ownedTopics, List.mem_append, List.mem_flatMap, List.mem_map,
    List.mem_pair] at member
  rcases member with ⟨_, _, rfl | rfl⟩ | ⟨_, _, rfl⟩
  · rfl
  · rfl
  · rfl

section Ordered

variable {state : DesiredState} (ordered : Ordered state)

include ordered

omit ordered in
/-- The value of a role determines it. -/
theorem value_inj {left right : Principal} (same : left.value = right.value) :
    left = right := by
  have distinct : (Principal.all.map Principal.value).Nodup := by
    simp [Principal.all, Principal.value]
  exact List.inj_on_of_nodup_map distinct left.mem_all right.mem_all same

theorem profile_of_name {left right : ProfileState}
    (leftMember : left ∈ state.profiles)
    (rightMember : right ∈ state.profiles)
    (same : left.name = right.name) : left = right := by
  have distinct : (state.profiles.map ProfileState.name).Nodup := by
    rw [ordered.profiles]
    exact List.Nodup.map (fun _ _ => value_inj) (by decide)
  exact List.inj_on_of_nodup_map distinct leftMember rightMember same

theorem clientProfile_of_name {left right : ClientProfileState}
    (leftMember : left ∈ state.clientProfiles)
    (rightMember : right ∈ state.clientProfiles)
    (same : left.role.value = right.role.value) : left = right := by
  have distinct : (state.clientProfiles.map ClientProfileState.role).Nodup := by
    rw [ordered.clientProfiles]
    decide
  exact List.inj_on_of_nodup_map distinct leftMember rightMember
    (value_inj same)

theorem username_of_name {left right : UsernameState}
    (leftMember : left ∈ state.usernames)
    (rightMember : right ∈ state.usernames)
    (same : left.name = right.name) : left = right := by
  have distinct : (state.usernames.map UsernameState.name).Nodup := by
    rw [ordered.usernames]
    exact List.Nodup.map (fun _ _ => value_inj) (by decide)
  exact List.inj_on_of_nodup_map distinct leftMember rightMember same

theorem template_of_name {left right : QueueTemplateSpec}
    (leftMember : left ∈ state.queueTemplates)
    (rightMember : right ∈ state.queueTemplates)
    (same : left.name = right.name) : left = right := by
  have distinct : (state.queueTemplates.map QueueTemplateSpec.name).Nodup := by
    rw [ordered.templates]
    simp [queueTemplates, upstreamTemplate]
  exact List.inj_on_of_nodup_map distinct leftMember rightMember same

/-- The place of an owned object determines it. -/
theorem ownedObjects_of_place {left right : Path × Body}
    (leftMember : left ∈ ownedObjects state)
    (rightMember : right ∈ ownedObjects state) (same : left.1 = right.1) :
    left = right := by
  simp only [ownedObjects, List.mem_append, List.mem_map, or_assoc]
    at leftMember rightMember
  rcases leftMember with
    ⟨one, member, rfl⟩ | ⟨one, member, rfl⟩ | ⟨one, member, rfl⟩ |
      ⟨one, member, rfl⟩ | ⟨one, member, rfl⟩ <;>
  rcases rightMember with
    ⟨other, otherMember, rfl⟩ | ⟨other, otherMember, rfl⟩ |
      ⟨other, otherMember, rfl⟩ | ⟨other, otherMember, rfl⟩ |
      ⟨other, otherMember, rfl⟩ <;>
  rw [place_inj] at same <;>
  try exact absurd same.1 (by decide)
  · rw [profile_of_name ordered member otherMember same.2]
  · rw [clientProfile_of_name ordered member otherMember same.2]
  · rw [username_of_name ordered member otherMember same.2]
  · rw [template_of_name ordered member otherMember same.2]
  · rw [ordered.queues one member other otherMember same.2]

/-- The path of an owned collection determines it. -/
theorem ownedTopics_of_path {left right : TopicSet}
    (leftMember : left ∈ ownedTopics state)
    (rightMember : right ∈ ownedTopics state)
    (same : left.path = right.path) : left = right := by
  have apart (profile : ProfileState) (queue : QueueSpec) (access : Access) :
      (exceptionTopics state.vpn profile access).path ≠
        (subscriptionTopics state.vpn queue).path := by
    intro equal
    exact absurd (place_inj.1 (List.append_inj equal rfl).1).1 (by decide)
  have directions (access other : Access)
      (equal : [octets (exceptionCollectionName access)] =
        [octets (exceptionCollectionName other)]) : access = other := by
    rw [List.cons.injEq, octets_injective.eq_iff] at equal
    revert equal
    cases access <;> cases other <;> decide
  have members (topics : TopicSet) (member : topics ∈ ownedTopics state) :
      (∃ profile ∈ state.profiles, ∃ access,
          topics = exceptionTopics state.vpn profile access) ∨
        ∃ queue ∈ state.queues, topics = subscriptionTopics state.vpn queue := by
    simp only [ownedTopics, List.mem_append, List.mem_flatMap, List.mem_map,
      List.mem_pair] at member
    rcases member with ⟨profile, held, rfl | rfl⟩ | ⟨queue, held, rfl⟩
    · exact .inl ⟨profile, held, _, rfl⟩
    · exact .inl ⟨profile, held, _, rfl⟩
    · exact .inr ⟨queue, held, rfl⟩
  rcases members left leftMember with
    ⟨one, member, access, rfl⟩ | ⟨one, member, rfl⟩
  · rcases members right rightMember with
      ⟨other, otherMember, otherAccess, rfl⟩ | ⟨other, _, rfl⟩
    · rcases List.append_inj same rfl with ⟨places, inner⟩
      rw [profile_of_name ordered member otherMember (place_inj.1 places).2,
        directions access otherAccess inner]
    · exact absurd same (apart one other access)
  · rcases members right rightMember with
      ⟨other, _, otherAccess, rfl⟩ | ⟨other, otherMember, rfl⟩
    · exact absurd same.symm (apart other one otherAccess)
    · rcases List.append_inj same rfl with ⟨places, _⟩
      rw [ordered.queues one member other otherMember (place_inj.1 places).2]

/-! ### Values -/

theorem aim_owned {owned : Path × Body} (member : owned ∈ ownedObjects state)
    (held : Option Members) :
    aim state owned.1 held = some (members owned.2) := by
  unfold aim
  cases found : (ownedObjects state).find? fun other =>
      other.1 = owned.1 with
  | none =>
      have none := List.find?_eq_none.1 found owned member
      simp at none
  | some other =>
      have same : other.1 = owned.1 := by simpa using List.find?_some found
      rw [ownedObjects_of_place ordered (List.mem_of_find?_eq_some found)
        member same]

omit ordered in
theorem find?_ownedObjects {path : Path} (length : path.length ≠ 4) :
    ((ownedObjects state).find? fun owned => owned.1 = path) = none := by
  rw [List.find?_eq_none]
  intro owned member same
  rw [decide_eq_true_eq] at same
  exact length (same ▸ ownedObjects_length member)

theorem aim_topics {topics : TopicSet} (member : topics ∈ ownedTopics state)
    (key : Bytes) (held : Option Members) :
    aim state (topics.path ++ [key]) held = topics.aim key held := by
  have length : (topics.path ++ [key]).length ≠ 4 := by
    rw [List.length_append, ownedTopics_length member, List.length_singleton]
    decide
  have chosen : decide (topics.path ++ [key] ≠ [] ∧
      (topics.path ++ [key]).dropLast = topics.path) = true := by
    simp
  unfold aim
  rw [find?_ownedObjects length]
  cases found : (ownedTopics state).find? fun other =>
      topics.path ++ [key] ≠ [] ∧
        (topics.path ++ [key]).dropLast = other.path with
  | none => exact absurd chosen (List.find?_eq_none.1 found topics member)
  | some other =>
      have same : topics.path = other.path := by
        simpa using List.find?_some found
      simp only
      rw [← ownedTopics_of_path ordered member
        (List.mem_of_find?_eq_some found) same]
      simp

omit ordered in
theorem TopicSet.aim_wanted {topics : TopicSet} {topic : String}
    (wanted : topic ∈ topics.wanted) (held : Option Members) :
    topics.aim (topics.key topic) held =
      some (held.getD (members (topics.collection.body topic))) := by
  unfold TopicSet.aim
  cases found : topics.wanted.find? fun other =>
      topics.key other = topics.key topic with
  | none =>
      have none := List.find?_eq_none.1 found topic wanted
      simp at none
  | some other =>
      have same : topics.key other = topics.key topic := by
        simpa using List.find?_some found
      rw [topics.key_injective same]

omit ordered in
theorem TopicSet.aim_unwanted {topics : TopicSet} {key : Bytes}
    (unwanted : ∀ topic ∈ topics.wanted, topics.key topic ≠ key)
    (held : Option Members) : topics.aim key held = none := by
  have nothing : (topics.wanted.find? fun topic => topics.key topic = key) =
      none := by
    rw [List.find?_eq_none]
    intro topic member same
    exact unwanted topic member (of_decide_eq_true same)
  rw [TopicSet.aim, nothing]

omit ordered in
theorem find?_ownedTopics {path : Path} (length : path.length ≠ 6) :
    ((ownedTopics state).find? fun topics =>
      path ≠ [] ∧ path.dropLast = topics.path) = none := by
  rw [List.find?_eq_none]
  intro topics member same
  rw [decide_eq_true_eq] at same
  have lengths := congrArg List.length same.2
  have positive := List.length_pos_iff.2 same.1
  rw [List.length_dropLast, ownedTopics_length member] at lengths
  omega

omit ordered in
/-- What is neither owned nor in an owned collection is foreign. -/
theorem aim_foreign {path : Path} (length : path.length ≠ 6)
    (foreign : ∀ owned ∈ ownedObjects state, owned.1 ≠ path)
    (held : Option Members) :
    aim state path held = foreignAim state.vpn path held := by
  have nothing : ((ownedObjects state).find? fun owned => owned.1 = path) =
      none := by
    rw [List.find?_eq_none]
    intro owned member same
    exact foreign owned member (of_decide_eq_true same)
  rw [aim, nothing, find?_ownedTopics length]

/-- An owned identity has the name of a role, and a username not that of
discovery. -/
theorem ownedObjects_name {collection name : String}
    (identity :
      collection ∈ ["clientUsernames", "aclProfiles", "clientProfiles"])
    (other : name ∉ Principal.all.map Principal.value ∨
      collection = "clientUsernames" ∧ name = Principal.discovery.value) :
    ∀ owned ∈ ownedObjects state,
      owned.1 ≠ place state.vpn collection name := by
  have roles : name ∈ Principal.all.map Principal.value →
      collection = "clientUsernames" ∧ name = Principal.discovery.value := by
    intro role
    exact other.resolve_left fun foreign => foreign role
  intro owned member same
  simp only [ownedObjects, List.mem_append, List.mem_map, or_assoc] at member
  rcases member with
    ⟨one, inState, rfl⟩ | ⟨one, inState, rfl⟩ | ⟨one, inState, rfl⟩ |
      ⟨one, inState, rfl⟩ | ⟨one, inState, rfl⟩
  · rcases place_inj.1 same with ⟨collections, rfl⟩
    have named := List.mem_map_of_mem (f := ProfileState.name) inState
    rw [ordered.profiles] at named
    rw [(roles named).1] at collections
    exact absurd collections (by decide)
  · rcases place_inj.1 same with ⟨collections, rfl⟩
    rw [(roles (List.mem_map_of_mem one.role.mem_all)).1] at collections
    exact absurd collections (by decide)
  · rcases place_inj.1 same with ⟨_, rfl⟩
    have named := List.mem_map_of_mem (f := UsernameState.name) inState
    rw [ordered.usernames, List.mem_map] at named
    rcases named with ⟨role, messaging, spelled⟩
    have discovery := (roles (spelled ▸
      List.mem_map_of_mem role.mem_all)).2
    rw [← spelled] at discovery
    have apart := of_decide_eq_true (List.mem_filter.1 messaging).2
    exact apart (value_inj discovery)
  · rcases place_inj.1 same with ⟨rfl, _⟩
    exact absurd identity (by decide)
  · rcases place_inj.1 same with ⟨rfl, _⟩
    exact absurd identity (by decide)

theorem aim_identity {collection name : String}
    (identity :
      collection ∈ ["clientUsernames", "aclProfiles", "clientProfiles"])
    (other : name ∉ Principal.all.map Principal.value ∨
      collection = "clientUsernames" ∧ name = Principal.discovery.value)
    (held : Option Members) :
    aim state (place state.vpn collection name) held =
      foreignAim state.vpn (place state.vpn collection name) held :=
  aim_foreign (by simp [place]) (ownedObjects_name ordered identity other) held

theorem aim_discovery (held : Option Members) :
    aim state (discoveryPlace state.vpn) held = none := by
  rw [discoveryPlace,
    aim_identity ordered (by decide) (.inr ⟨rfl, rfl⟩) held]
  exact if_pos rfl

theorem aim_retired {collection : String}
    (identity :
      collection ∈ ["clientUsernames", "aclProfiles", "clientProfiles"])
    (held : Option Members) :
    aim state (place state.vpn collection retiredScenarioIdentity) held =
      held := by
  have unnamed (name : String) (other : retiredScenarioIdentity ≠ name) :
      place state.vpn collection retiredScenarioIdentity ≠
        place state.vpn "clientUsernames" name :=
    fun same => other (place_inj.1 same).2
  have nothing : ((patches state.vpn).find? fun patch =>
      patch.1 = place state.vpn collection retiredScenarioIdentity) =
        none := by
    rw [List.find?_eq_none]
    intro patch member same
    rw [decide_eq_true_eq] at same
    simp only [patches, List.mem_cons, List.not_mem_nil, or_false] at member
    rcases member with rfl | rfl | rfl
    · exact unnamed factoryClientUsername (by decide) same.symm
    · simp [place] at same
    · simp [place, vpnPlace] at same
  have notDiscovery :
      place state.vpn collection retiredScenarioIdentity ≠
        discoveryPlace state.vpn :=
    unnamed _ (by decide)
  have unknown :
      retiredScenarioIdentity ∉ Principal.all.map Principal.value := by
    simp [retiredScenarioIdentity, Principal.all, Principal.value]
  rw [aim_identity ordered identity (.inl unknown) held,
    foreignAim, if_neg notDiscovery, nothing]

theorem aim_patch {patch : Path × Body} (member : patch ∈ patches state.vpn)
    (held : Option Members) :
    aim state patch.1 held =
      held.map fun object => object.merge patch.2 := by
  have factoryOther : factoryPlace state.vpn ≠ discoveryPlace state.vpn :=
    fun same => absurd (place_inj.1 same).2 (by decide)
  have unknown :
      factoryClientUsername ∉ Principal.all.map Principal.value := by
    simp [factoryClientUsername, Principal.all, Principal.value]
  have short {path : Path} (length : path.length < 4) :
      ∀ owned ∈ ownedObjects state, owned.1 ≠ path := by
    rintro owned member rfl
    rw [ownedObjects_length member] at length
    cases Nat.lt_irrefl 4 length
  simp only [patches, List.mem_cons, List.not_mem_nil, or_false] at member
  rcases member with rfl | rfl | rfl
  · simp only
    rw [factoryPlace,
      aim_identity ordered (by decide) (.inl unknown) held,
      foreignAim, ← factoryPlace, if_neg factoryOther]
    simp [patches]
  · rw [aim_foreign (by simp) (short (by simp)) held]
    simp [foreignAim, patches, factoryPlace, discoveryPlace, place]
  · rw [aim_foreign (by simp [vpnPlace]) (short (by simp [vpnPlace])) held]
    simp [foreignAim, patches, factoryPlace, discoveryPlace, place, vpnPlace]

end Ordered

/-! ### The aim is reached once -/

@[simp]
theorem merge_merge (object : Members) (body : Body) :
    (object.merge body).merge body = object.merge body := by
  funext name
  simp only [Members.merge]
  cases body.lookup name with
  | none => rfl
  | some value => rfl

/-- What has been brought to the aim stays as it is. -/
theorem aim_aim (state : DesiredState) (path : Path)
    (held : Option Members) :
    aim state path (aim state path held) = aim state path held := by
  cases owned : (ownedObjects state).find? fun owned => owned.1 = path with
  | some object => simp only [aim, owned]
  | none =>
      cases chosen : (ownedTopics state).find? fun topics =>
          path ≠ [] ∧ path.dropLast = topics.path with
      | some topics =>
          simp only [aim, owned, chosen]
          unfold TopicSet.aim
          split
          · rfl
          · rfl
      | none =>
          simp only [aim, owned, chosen]
          unfold foreignAim
          split
          · rfl
          · split
            · cases held with
              | none => rfl
              | some object => simp
            · rfl

end AerialRescue.Broker.Provisioning
