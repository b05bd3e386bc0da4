import AerialRescue.Broker.ProvisioningTarget

/-!
# Requests against the store

What the requests of an apply do to a store that they fit, and the names that
an inventory of a collection returns.
-/

namespace AerialRescue.Broker.Provisioning

open AerialRescue.Lib AerialRescue.Lib.Guard AerialRescue.Lib.Clients
open AerialRescue.Contracts AerialRescue.Contracts.Canonical
open AerialRescue.Broker.Semp

/-! ## Members -/

/-- The members that an identity is made of. -/
def identityNames : Identity → List String
  | .member name => [name]
  | .exception syntaxMember topicMember => [syntaxMember, topicMember]
  | .free => []

/-- No member of the body identifies an object. -/
def leavesIdentity (body : Body) : Bool :=
  identities.all fun known =>
    (identityNames known.2).all fun name => (body.lookup name).isNone

theorem identityOf_names (collection : Bytes) {body : Body}
    (leaves : leavesIdentity body = true) :
    ∀ name ∈ identityNames (identityOf collection),
      body.lookup name = none := by
  intro name member
  unfold identityOf at member
  split at member
  · rename_i known found
    have every := List.all_eq_true.1 leaves known
      (List.mem_of_find?_eq_some found)
    exact Option.isNone_iff_eq_none.1 (List.all_eq_true.1 every name member)
  · cases member

theorem key_merge {object : Members} {body : Body} {identity : Identity}
    (untouched : ∀ name ∈ identityNames identity, body.lookup name = none) :
    identity.key (object.merge body) = identity.key object := by
  have same (name : String) (member : name ∈ identityNames identity) :
      (object.merge body).text name = object.text name := by
    unfold Members.text Members.merge
    rw [untouched name member]
    rfl
  cases identity with
  | member name => rw [Identity.key, Identity.key, same name (by simp [identityNames])]
  | exception syntaxMember topicMember =>
      rw [Identity.key, Identity.key,
        same syntaxMember (by simp [identityNames]),
        same topicMember (by simp [identityNames])]
  | free => rfl

/-- An object that fits its place fits it with members that do not identify
it. -/
theorem fits_merge {path : Path} {object : Members} {body : Body}
    (fitting : fits path object = true)
    (leaves : leavesIdentity body = true) :
    fits path (object.merge body) = true := by
  unfold fits at fitting ⊢
  split
  · rename_i key collection rest reversed
    rw [reversed] at fitting
    simp only at fitting
    rwa [key_merge (identityOf_names collection leaves)]
  · rfl

theorem lookup_of_mem {body : Body} (distinct : (body.map Prod.fst).Nodup)
    {entry : String × Semp.Value} (member : entry ∈ body) :
    body.lookup entry.1 = some entry.2 := by
  induction body with
  | nil => cases member
  | cons first rest inductionHypothesis =>
      rw [List.map_cons, List.nodup_cons] at distinct
      rw [List.lookup_cons]
      rcases List.mem_cons.1 member with rfl | later
      · simp
      · have other : entry.1 ≠ first.1 := fun same =>
          distinct.1 (same ▸ List.mem_map_of_mem later)
        rw [beq_eq_false_iff_ne.2 other]
        exact inductionHypothesis distinct.2 later

/-- A written object reads back as it was written. -/
theorem agrees_merge {object : Members} {body : Body}
    (distinct : (body.map Prod.fst).Nodup) :
    agrees body (object.merge body).readable = true := by
  unfold agrees
  rw [List.all_eq_true]
  intro entry member
  rw [List.mem_filter, Bool.not_eq_true', ← Bool.not_eq_true,
    List.contains_iff_mem] at member
  rw [decide_eq_true_eq, Members.readable, if_neg member.2, Members.merge,
    lookup_of_mem distinct member.1, Option.some_or]

theorem members_eq_merge (body : Body) :
    members body = Members.merge (fun _ => none) body := by
  funext name
  unfold members Members.merge
  cases body.lookup name with
  | none => rfl
  | some value => rfl

theorem agrees_members {body : Body}
    (distinct : (body.map Prod.fst).Nodup) :
    agrees body (members body).readable = true := by
  rw [members_eq_merge]
  exact agrees_merge distinct

/-- An object that names no message VPN names no other. -/
theorem inVpn_of_absent {path : Path} {object : Members}
    (absent : object "msgVpnName" = none) : inVpn path object = true := by
  have unnamed : object.text "msgVpnName" = none := by
    unfold Members.text
    rw [absent]
  unfold inVpn
  rw [unnamed]
  split
  · rename_i impossible
    cases impossible
  · rfl

/-! ## Writes -/

section Writes

variable {store : ConfigStore} {path : Path} {body : Body}

/-- A `PUT` that fits its place writes the object there. -/
theorem put_eq (parent : store.hasParent path = true)
    (vpn : inVpn path (members body) = true)
    (fitting : fits path (members body) = true) :
    store.put path body =
      (.ok [(members body).readable],
        store.set path (members body) fitting) := by
  rw [ConfigStore.put, parent, vpn]
  exact dif_pos fitting

theorem patch_eq {object : Members} (held : store.get? path = some object)
    (fitting : fits path (object.merge body) = true) :
    store.patch path body =
      (.ok [(object.merge body).readable],
        store.set path (object.merge body) fitting) := by
  rw [ConfigStore.patch, held]
  exact dif_pos fitting

theorem delete_eq (below : path ≠ []) (held : (store.get? path).isSome) :
    store.delete path = (.ok [], store.erase path below) := by
  rw [ConfigStore.delete, dif_pos below, if_pos held]

/-- A `POST` adds the row that its body identifies. -/
theorem post_eq {collection : Path} {key : Bytes}
    (identified :
      (identityOf (collection.getLastD [])).key (members body) = some key)
    (parent : store.hasParent (collection ++ [key]) = true)
    (vpn : inVpn (collection ++ [key]) (members body) = true)
    (absent : store.get? (collection ++ [key]) = none)
    (fitting : fits (collection ++ [key]) (members body) = true) :
    store.post collection body =
      (.ok [(members body).readable],
        store.set (collection ++ [key]) (members body) fitting) := by
  rw [ConfigStore.post, identified]
  simp only [parent, absent, vpn, Option.isNone_none, Bool.and_self, if_true]
  exact dif_pos fitting

/-- What a collection's last segment identifies fits its row. -/
theorem fits_of_key {collection : Path} {key : Bytes} {object : Members}
    (below : collection ≠ [])
    (identified :
      (identityOf (collection.getLastD [])).key object = some key) :
    fits (collection ++ [key]) object = true := by
  unfold fits
  rcases List.eq_nil_or_concat collection with rfl | ⟨start, last, rfl⟩
  · exact absurd rfl below
  · rw [List.concat_eq_append] at identified ⊢
    rw [List.getLastD_concat] at identified
    simp [identified]

end Writes

/-! ## Inventories -/

theorem mem_rowsOf {store : ConfigStore} {collection : Path}
    {row : Path × Members} :
    row ∈ store.rowsOf collection ↔
      ∃ key, row.1 = collection ++ [key] ∧ store.get? row.1 = some row.2 := by
  rw [ConfigStore.rowsOf, List.mem_filter, ConfigStore.get?,
    Mapping.get?_eq_some]
  simp only [Bool.and_eq_true, decide_eq_true_eq]
  constructor
  · rintro ⟨member, below, same⟩
    refine ⟨row.1.getLast below, ?_, member⟩
    rw [← same]
    exact (List.dropLast_concat_getLast below).symm
  · rintro ⟨key, same, member⟩
    rw [same]
    exact ⟨member, by simp, by simp⟩

/-- The names of a collection's rows, when each row's key is spelled from the
name that it has. -/
theorem exists_names {store : ConfigStore} {collection : Path}
    {member : String} {spell : String → Bytes} {failure : ApplyFailure}
    (shown : member ∉ secretMembers) (injective : Function.Injective spell)
    (named : ∀ key object, store.get? (collection ++ [key]) = some object →
      ∃ name, object.text member = some name ∧ key = spell name) :
    ∃ names : List String,
      ((store.rowsOf collection).map fun row => row.2.readable).mapM
          (fun row => present (row.text member) failure) = .ok names ∧
        names.Nodup ∧
        ∀ name, name ∈ names ↔
          (store.get? (collection ++ [spell name])).isSome := by
  have rowNamed : ∀ row ∈ store.rowsOf collection, ∃ name,
      row.2.text member = some name ∧ row.1 = collection ++ [spell name] := by
    intro row inRows
    rcases mem_rowsOf.1 inRows with ⟨key, same, held⟩
    rw [same] at held
    rcases named key row.2 held with ⟨name, text, rfl⟩
    exact ⟨name, text, same⟩
  let nameOf := fun object : Members => (object.text member).getD ""
  refine ⟨(store.rowsOf collection).map fun row => nameOf row.2, ?_, ?_, ?_⟩
  · have each : ∀ object ∈
        (store.rowsOf collection).map fun row => row.2.readable,
        present (object.text member) failure = .ok (nameOf object) := by
      intro object inObjects
      rcases List.mem_map.1 inObjects with ⟨row, inRows, rfl⟩
      rcases rowNamed row inRows with ⟨name, text, _⟩
      simp only [nameOf, text_readable shown, text]
      rfl
    rw [mapM_eq_ok_map each, List.map_map]
    congr 1
    apply List.map_congr_left
    intro row _
    simp only [Function.comp_apply, nameOf, text_readable shown]
  · have rows : (store.rowsOf collection).Nodup :=
      (List.Nodup.of_map Prod.fst store.objects.distinct).filter _
    refine rows.map_on ?_
    intro left leftMember right rightMember same
    rcases rowNamed left leftMember with ⟨name, text, leftPath⟩
    rcases rowNamed right rightMember with ⟨other, otherText, rightPath⟩
    simp only [nameOf, text, otherText, Option.getD_some] at same
    refine Table.eq_of_key (List.mem_filter.1 leftMember).1
      (List.mem_filter.1 rightMember).1 ?_
    rw [leftPath, rightPath, same]
  · intro name
    rw [List.mem_map, Option.isSome_iff_exists]
    constructor
    · rintro ⟨row, inRows, rfl⟩
      rcases rowNamed row inRows with ⟨name, text, same⟩
      simp only [nameOf, text, Option.getD_some]
      rw [← same]
      rcases mem_rowsOf.1 inRows with ⟨_, _, held⟩
      exact ⟨row.2, held⟩
    · rintro ⟨object, held⟩
      rcases named _ object held with ⟨other, text, spelled⟩
      refine ⟨(collection ++ [spell name], object),
        mem_rowsOf.2 ⟨spell name, rfl, held⟩, ?_⟩
      simp only [nameOf, text, Option.getD_some]
      exact (injective spelled).symm

end AerialRescue.Broker.Provisioning
