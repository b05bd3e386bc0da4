import AerialRescue.Broker.Retirement
import AerialRescue.Lib.Mapping
import AerialRescue.Lib.Services

/-!
# The configuration store of the broker

SEMP as a faithful store: objects by the octets of their decoded paths, of
which a `PUT` replaces one, a `PATCH` merges members into one, a `POST` adds
one to a collection, a `DELETE` removes one, and a collection is read as a
whole.  A request that names no such object, or another identity than that of
its path, is refused and changes nothing.
-/

namespace AerialRescue.Broker.Semp

open AerialRescue.Lib AerialRescue.Lib.Clients
open AerialRescue.Contracts AerialRescue.Contracts.Canonical

/-! ## Requests -/

/-- A member of a configuration object. -/
inductive Value where
  | flag (value : Bool)
  | number (value : Int)
  | text (value : String)
  | thresholds (clearPercent setPercent : Nat)
  /-- Any other value, by its rendering. -/
  | other (rendering : String)
deriving DecidableEq

/-- `Method` -/
inductive Method where
  | get
  | post
  | put
  | patch
  | delete
deriving DecidableEq

/-- The members of a request, in their order. -/
abbrev Body :=
  List (String × Value)

/-- `Request` -/
structure Request where
  method : Method
  path : String
  body : Body
deriving DecidableEq

/-- What is asked of the configuration transport. -/
inductive Query where
  | requireConfigFields (required : List (String × List String))
  | send (request : Request)
  | readAll (path : String)
deriving DecidableEq

/-- The members of an object, by their names. -/
abbrev Members :=
  String → Option Value

/-- `SempFailure` -/
inductive SempFailure where
  | transport
  | status
  | malformed
  | paging
  | spec
deriving DecidableEq

/-- What the transport returns or raises. -/
def Answer : Query → Type
  | .requireConfigFields _ => Except SempFailure Unit
  | .send _ => Except SempFailure (List Members)
  | .readAll _ => Except SempFailure (List Members)

/-- `SECRET_MEMBERS` -/
def secretMembers : List String :=
  ["password"]

/-- The members of a body. -/
def members (body : Body) : Members :=
  fun name => body.lookup name

/-- A member that is text. -/
def Members.text (object : Members) (name : String) : Option String :=
  match object name with
  | some (.text value) => some value
  | _ => none

/-- What a read returns of an object. -/
def Members.readable (object : Members) : Members :=
  fun name => if name ∈ secretMembers then none else object name

/-- The object with the members of a body in place of its own. -/
def Members.merge (object : Members) (body : Body) : Members :=
  fun name => (body.lookup name).or (object name)

/-! ## Paths -/

/-- The decoded segments of a path. -/
abbrev Path :=
  List Bytes

/-- The broker takes a path apart at its separators, and decodes each part. -/
def segments (path : String) : Path :=
  (path.toList.splitOn '/').map Percent.unquote

/-- The object that a path of a request is about. -/
def decode (path : String) : Path :=
  if path = "" then [] else segments path

theorem segments_append (first rest : String) :
    segments (first ++ "/" ++ rest) = segments first ++ segments rest := by
  have text : (first ++ "/" ++ rest).toList =
      first.toList ++ '/' :: rest.toList := by
    simp
  rw [segments, text, List.splitOn_append_cons_of_beq _ _ (by decide),
    List.map_append]
  rfl

/-! ## Identities -/

/-- What identifies the objects of a collection. -/
inductive Identity where
  | member (name : String)
  | exception (syntaxMember topicMember : String)
  | free
deriving DecidableEq

/-- The identifying members of the collections. -/
def identities : List (String × Identity) :=
  [ ("msgVpns", .member "msgVpnName"),
    ("aclProfiles", .member "aclProfileName"),
    ("clientProfiles", .member "clientProfileName"),
    ("clientUsernames", .member "clientUsername"),
    ("queueTemplates", .member "queueTemplateName"),
    ("queues", .member "queueName"),
    ("subscriptions", .member "subscriptionTopic"),
    ("publishTopicExceptions",
      .exception "publishTopicExceptionSyntax" "publishTopicException"),
    ("subscribeTopicExceptions",
      .exception "subscribeTopicExceptionSyntax" "subscribeTopicException") ]

/-- The identity of the objects of a collection. -/
def identityOf (collection : Bytes) : Identity :=
  match identities.find? fun known => octets known.1 = collection with
  | some known => known.2
  | none => .free

/-- A known collection has the identity of its entry. -/
theorem identityOf_known {collection : String} {identity : Identity}
    (known : (collection, identity) ∈ identities) :
    identityOf (octets collection) = identity := by
  have every : (identities.all fun known =>
      decide (identityOf (octets known.1) = known.2)) = true := by
    decide +kernel
  exact of_decide_eq_true (List.all_eq_true.1 every _ known)

/-- The syntaxes of a topic exception. -/
def syntaxes : List String :=
  ["smf", "mqtt"]

/-- The key that an object's members give it, if its collection has one. -/
def Identity.key (object : Members) : Identity → Option Bytes
  | .member name => (object.text name).map octets
  | .exception syntaxMember topicMember =>
      match object.text syntaxMember, object.text topicMember with
      | some topicSyntax, some topic =>
          if topicSyntax ∈ syntaxes then
            some (octets (topicSyntax ++ "," ++ topic))
          else none
      | _, _ => none
  | .free => none

/-- The object's members give it the key that its path has. -/
def fits (path : Path) (object : Members) : Bool :=
  match path.reverse with
  | key :: collection :: _ =>
      identityOf collection = .free ||
        (identityOf collection).key object = some key
  | _ => true

/-- The object does not name another message VPN than its path does. -/
def inVpn (path : Path) (object : Members) : Bool :=
  match path, object.text "msgVpnName" with
  | _ :: vpn :: _, some name => octets name = vpn
  | _, _ => true

/-! ## The store -/

/-- The objects of a broker by their paths; the broker itself is the object
with the empty path. -/
structure ConfigStore where
  objects : Mapping Path Members
  root : (objects.get? []).isSome
  identified :
    ∀ path object, objects.get? path = some object → fits path object = true

namespace ConfigStore

/-- The object at a path. -/
def get? (store : ConfigStore) (path : Path) : Option Members :=
  store.objects.get? path

/-- The store with another object at a path. -/
def set (store : ConfigStore) (path : Path) (object : Members)
    (fitting : fits path object = true) : ConfigStore where
  objects := store.objects.put path object
  root := by
    rw [Mapping.get?_put]
    split
    · rfl
    · exact store.root
  identified other held found := by
    rw [Mapping.get?_put] at found
    split at found
    · rename_i same
      rw [Option.some.injEq] at found
      rw [same, ← found]
      exact fitting
    · exact store.identified other held found

/-- The store without the object at a path. -/
def erase (store : ConfigStore) (path : Path) (below : path ≠ []) :
    ConfigStore where
  objects := store.objects.remove path
  root := by
    rw [Mapping.get?_remove, if_neg (Ne.symm below)]
    exact store.root
  identified other held found := by
    rw [Mapping.get?_remove] at found
    split at found
    · cases found
    · exact store.identified other held found

@[simp]
theorem get?_set {store : ConfigStore} {path : Path} {object : Members}
    {fitting : fits path object = true} (other : Path) :
    (store.set path object fitting).get? other =
      if other = path then some object else store.get? other :=
  Mapping.get?_put ..

@[simp]
theorem get?_erase {store : ConfigStore} {path : Path} {below : path ≠ []}
    (other : Path) :
    (store.erase path below).get? other =
      if other = path then none else store.get? other :=
  Mapping.get?_remove ..

/-- The object that the one at a path belongs to. -/
def hasParent (store : ConfigStore) (path : Path) : Bool :=
  2 ≤ path.length && (store.get? path.dropLast.dropLast).isSome

/-! ## Requests to the store -/

/-- Write the object at a path, or refuse it. -/
def write (store : ConfigStore) (path : Path) (object : Members) :
    Except SempFailure (List Members) × ConfigStore :=
  if fitting : fits path object = true then
    (.ok [object.readable], store.set path object fitting)
  else (.error .status, store)

/-- `PUT` creates or replaces an object. -/
def put (store : ConfigStore) (path : Path) (body : Body) :
    Except SempFailure (List Members) × ConfigStore :=
  if store.hasParent path && inVpn path (members body) then
    store.write path (members body)
  else (.error .status, store)

/-- `PATCH` merges members into an object. -/
def patch (store : ConfigStore) (path : Path) (body : Body) :
    Except SempFailure (List Members) × ConfigStore :=
  match store.get? path with
  | some object => store.write path (object.merge body)
  | none => (.error .status, store)

/-- `POST` adds an object to a collection. -/
def post (store : ConfigStore) (collection : Path) (body : Body) :
    Except SempFailure (List Members) × ConfigStore :=
  match (identityOf (collection.getLastD [])).key (members body) with
  | some key =>
      let path := collection ++ [key]
      if store.hasParent path && (store.get? path).isNone &&
          inVpn path (members body) then
        store.write path (members body)
      else (.error .status, store)
  | none => (.error .status, store)

/-- `DELETE` removes an object. -/
def delete (store : ConfigStore) (path : Path) :
    Except SempFailure (List Members) × ConfigStore :=
  if below : path ≠ [] then
    if (store.get? path).isSome then (.ok [], store.erase path below)
    else (.error .status, store)
  else (.error .status, store)

/-- `GET` of one object. -/
def read (store : ConfigStore) (path : Path) :
    Except SempFailure (List Members) :=
  match store.get? path with
  | some object => .ok [object.readable]
  | none => .error .status

/-- The objects of a collection, with their paths. -/
def rowsOf (store : ConfigStore) (collection : Path) :
    List (Path × Members) :=
  store.objects.rows.filter fun row =>
    row.1 ≠ [] && row.1.dropLast = collection

/-- A whole collection. -/
def readCollection (store : ConfigStore) (collection : Path) :
    Except SempFailure (List Members) :=
  if (store.get? collection.dropLast).isSome then
    .ok ((store.rowsOf collection).map fun row => row.2.readable)
  else .error .status

/-- A request that is not a `GET`, and a `GET` of one object. -/
def send (store : ConfigStore) (request : Request) :
    Except SempFailure (List Members) × ConfigStore :=
  let path := decode request.path
  match request.method with
  | .get => (store.read path, store)
  | .put => store.put path request.body
  | .patch => store.patch path request.body
  | .post => store.post path request.body
  | .delete => store.delete path

end ConfigStore

/-- The broker's SEMP interface; its specification declares every field. -/
def semp : Service ConfigStore Query Answer where
  answer store query :=
    match query with
    | .requireConfigFields _ => .ok ()
    | .send request => (store.send request).1
    | .readAll path => store.readCollection (decode path)
  next store query :=
    match query with
    | .send request => (store.send request).2
    | _ => store

end AerialRescue.Broker.Semp
