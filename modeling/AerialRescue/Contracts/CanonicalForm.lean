import AerialRescue.Contracts.JsonText
import AerialRescue.Contracts.PlainText

/-!
# Canonical forms

The values of the canonical profile, their equality up to the normalization of
texts and the order of members, and the normal form that stands for all the
equal ones.  The canonical text of a value is the JSON text of its normal
form, so that two values have the same bytes exactly when they are equal in
this sense, and what is decoded from the bytes is the normal form.
-/

namespace AerialRescue.Contracts.CanonicalForm

open AerialRescue.Lib.Guard
open AerialRescue.Contracts.Canonical
open AerialRescue.Contracts.JsonText

/-! ## The profile -/

/-- A key in the lower camel case of the contracts, within the bound. -/
def CanonicalKey (key : String) : Prop :=
  key.length ≤ maxKeyLength ∧
    ∃ first rest, key.toList = first :: rest ∧
      isLower first = true ∧ rest.all isAlphanumeric = true

mutual

/-- No mapping inside the value holds a key twice. -/
def Keyed : Value → Prop
  | .array items => ItemsKeyed items
  | .object members => (Value.keys members).Nodup ∧ MembersKeyed members
  | _ => True

def ItemsKeyed : List Value → Prop
  | [] => True
  | item :: rest => Keyed item ∧ ItemsKeyed rest

def MembersKeyed : Value.Members → Prop
  | [] => True
  | (_, value) :: rest => Keyed value ∧ MembersKeyed rest

end

mutual

/-- The canonical profile: null, Booleans, safe integers, texts within the
byte limit, sequences, and mappings with canonical keys. -/
def InProfile (host : Host) : Value → Prop
  | .int value => -maxSafeInteger ≤ value ∧ value ≤ maxSafeInteger
  | .float _ => False
  | .text value => (host.nfc value).utf8ByteSize ≤ maxStringBytes
  | .array items => ItemsInProfile host items
  | .object members =>
      (Value.keys members).Nodup ∧ MembersInProfile host members
  | _ => True

def ItemsInProfile (host : Host) : List Value → Prop
  | [] => True
  | item :: rest => InProfile host item ∧ ItemsInProfile host rest

def MembersInProfile (host : Host) : Value.Members → Prop
  | [] => True
  | (key, value) :: rest =>
      CanonicalKey key ∧ InProfile host value ∧ MembersInProfile host rest

end

mutual

/-- Equality up to the normalization of texts and the order of members. -/
def Equivalent (host : Host) : Value → Value → Prop
  | .null, .null => True
  | .bool left, .bool right => left = right
  | .int left, .int right => left = right
  | .text left, .text right => host.nfc left = host.nfc right
  | .array left, .array right => ItemsEquivalent host left right
  | .object left, .object right =>
      left.length = right.length ∧ MembersEquivalent host left right
  | _, _ => False

def ItemsEquivalent (host : Host) : List Value → List Value → Prop
  | [], [] => True
  | left :: lefts, right :: rights =>
      Equivalent host left right ∧ ItemsEquivalent host lefts rights
  | _, _ => False

/-- Every member on the left has an equivalent one on the right. -/
def MembersEquivalent (host : Host) : Value.Members → Value.Members → Prop
  | [], _ => True
  | (key, value) :: rest, right =>
      (∃ other, (key, other) ∈ right ∧ Equivalent host value other) ∧
        MembersEquivalent host rest right

end

/-! ## Normal forms -/

/-- Members in ascending order of their keys. -/
def sortMembers (members : Value.Members) : Value.Members :=
  members.insertionSort fun left right => left.1 ≤ right.1

mutual

/-- The value with normalized texts and sorted members. -/
def normalize (host : Host) : Value → Value
  | .text value => .text (host.nfc value)
  | .array items => .array (normalizeItems host items)
  | .object members => .object (sortMembers (normalizeMembers host members))
  | value => value

def normalizeItems (host : Host) : List Value → List Value
  | [] => []
  | item :: rest => normalize host item :: normalizeItems host rest

def normalizeMembers (host : Host) : Value.Members → Value.Members
  | [] => []
  | (key, value) :: rest =>
      (key, normalize host value) :: normalizeMembers host rest

end

variable {host : Host}

theorem normalizeMembers_eq_map (members : Value.Members) :
    normalizeMembers host members =
      members.map fun member => (member.1, normalize host member.2) := by
  induction members with
  | nil => rfl
  | cons first rest inductionHypothesis =>
      rw [normalizeMembers, inductionHypothesis]
      rfl

theorem writtenMembers_eq_map (members : Value.Members) :
    writtenMembers members =
      members.map fun member =>
        quoted member.1 ++ [':'] ++ written member.2 := by
  induction members with
  | nil => rfl
  | cons first rest inductionHypothesis =>
      rw [writtenMembers, inductionHypothesis]
      rfl

theorem keys_normalizeMembers (members : Value.Members) :
    Value.keys (normalizeMembers host members) = Value.keys members := by
  rw [normalizeMembers_eq_map, Value.keys, List.map_map]
  rfl

/-- Sorting and normalizing the members can be done in either order. -/
theorem sort_normalizeMembers (members : Value.Members) :
    sortMembers (normalizeMembers host members) =
      normalizeMembers host (sortMembers members) := by
  rw [normalizeMembers_eq_map, normalizeMembers_eq_map]
  exact insertionSort_keyed (normalize host) members

theorem sortMembers_perm (members : Value.Members) :
    (sortMembers members).Perm members :=
  List.perm_insertionSort _ members

theorem mem_sortMembers {members : Value.Members}
    {member : String × Value} :
    member ∈ sortMembers members ↔ member ∈ members :=
  (sortMembers_perm members).mem_iff

theorem keys_sortMembers (members : Value.Members) :
    (Value.keys (sortMembers members)).Perm (Value.keys members) :=
  (sortMembers_perm members).map Prod.fst

theorem sortMembers_sorted (members : Value.Members) :
    (sortMembers members).Pairwise fun left right => left.1 ≤ right.1 :=
  List.pairwise_insertionSort
    (fun left right : String × Value => left.1 ≤ right.1) members

theorem sortMembers_idempotent (members : Value.Members) :
    sortMembers (sortMembers members) = sortMembers members :=
  List.Pairwise.insertionSort_eq (sortMembers_sorted members)

theorem MembersInProfile.of_mem {members : Value.Members} {key : String}
    {value : Value} (admitted : MembersInProfile host members)
    (member : (key, value) ∈ members) : InProfile host value := by
  induction members with
  | nil => cases member
  | cons first rest inductionHypothesis =>
      rw [MembersInProfile] at admitted
      rcases List.mem_cons.1 member with rfl | later
      · exact admitted.2.1
      · exact inductionHypothesis admitted.2.2 later

/-- Two members of one mapping with the same key are the same member. -/
theorem member_eq_of_key {members : Value.Members}
    (distinct : (Value.keys members).Nodup) {left right : String × Value}
    (first : left ∈ members) (second : right ∈ members)
    (same : left.1 = right.1) : left = right :=
  List.inj_on_of_nodup_map distinct first second same

/-- Mappings sort to one list when each has the members of the other. -/
theorem sortMembers_eq_iff {left right : Value.Members}
    (first : (Value.keys left).Nodup) :
    sortMembers left = sortMembers right ↔
      left.length = right.length ∧ ∀ member ∈ left, member ∈ right := by
  constructor
  · intro same
    have perm : left.Perm right :=
      (sortMembers_perm left).symm.trans
        (same ▸ sortMembers_perm right)
    exact ⟨perm.length_eq, fun member among => perm.mem_iff.1 among⟩
  · rintro ⟨lengths, among⟩
    have perm : left.Perm right :=
      (List.subperm_of_subset first.of_map among).perm_of_length_le
        lengths.ge
    refine List.Perm.eq_of_pairwise ?_ (sortMembers_sorted left)
      (sortMembers_sorted right)
      ((sortMembers_perm left).trans
        (perm.trans (sortMembers_perm right).symm))
    intro one other held listed below above
    exact member_eq_of_key first (mem_sortMembers.1 held)
      (perm.mem_iff.2 (mem_sortMembers.1 listed))
      (String.le_antisymm below above)

/-! ## Equal normal forms -/

mutual

/-- Values are equivalent when they have one normal form. -/
theorem normalize_eq_iff :
    ∀ left right, InProfile host left → InProfile host right →
      (normalize host left = normalize host right ↔
        Equivalent host left right)
  | .array lefts, right, first, second => by
      cases right with
      | array rights =>
          rw [InProfile] at first second
          simp only [normalize, Value.array.injEq, Equivalent,
            normalizeItems_eq_iff lefts rights first second]
      | _ => simp [normalize, Equivalent]
  | .object lefts, right, first, second => by
      cases right with
      | object rights =>
          rw [InProfile] at first second
          have distinct :
              (Value.keys (normalizeMembers host lefts)).Nodup := by
            rw [keys_normalizeMembers]
            exact first.1
          simp only [normalize, Value.object.injEq, Equivalent,
            sortMembers_eq_iff distinct,
            normalizeMembers_subset_iff lefts rights first.2 second.2]
          rw [normalizeMembers_eq_map, normalizeMembers_eq_map,
            List.length_map, List.length_map]
      | _ => simp [normalize, Equivalent]
  | .null, right, _, _ => by
      cases right <;> simp [normalize, Equivalent]
  | .bool _, right, _, _ => by
      cases right <;> simp [normalize, Equivalent]
  | .int _, right, _, _ => by
      cases right <;> simp [normalize, Equivalent]
  | .float _, _, first, _ => absurd first (by simp [InProfile])
  | .text _, right, _, _ => by
      cases right <;> simp [normalize, Equivalent]

theorem normalizeItems_eq_iff :
    ∀ lefts rights, ItemsInProfile host lefts → ItemsInProfile host rights →
      (normalizeItems host lefts = normalizeItems host rights ↔
        ItemsEquivalent host lefts rights)
  | [], [], _, _ => by simp [ItemsEquivalent]
  | [], _ :: _, _, _ => by simp [normalizeItems, ItemsEquivalent]
  | _ :: _, [], _, _ => by simp [normalizeItems, ItemsEquivalent]
  | left :: lefts, right :: rights, first, second => by
      rw [ItemsInProfile] at first second
      simp only [normalizeItems, List.cons.injEq, ItemsEquivalent,
        normalize_eq_iff left right first.1 second.1,
        normalizeItems_eq_iff lefts rights first.2 second.2]

/-- Normalized members are among others when equivalent ones are there. -/
theorem normalizeMembers_subset_iff :
    ∀ lefts rights, MembersInProfile host lefts →
      MembersInProfile host rights →
        ((∀ member ∈ normalizeMembers host lefts,
            member ∈ normalizeMembers host rights) ↔
          MembersEquivalent host lefts rights)
  | [], _, _, _ => by simp [normalizeMembers, MembersEquivalent]
  | (key, value) :: lefts, rights, first, second => by
      rw [MembersInProfile] at first
      have each : ((key, normalize host value) ∈
            normalizeMembers host rights ↔
          ∃ other, (key, other) ∈ rights ∧ Equivalent host value other) := by
        rw [normalizeMembers_eq_map, List.mem_map]
        constructor
        · rintro ⟨⟨name, other⟩, member, same⟩
          simp only [Prod.mk.injEq] at same
          rcases same with ⟨rfl, same⟩
          exact ⟨other, member,
            (normalize_eq_iff value other first.2.1
              (second.of_mem member)).1 same.symm⟩
        · rintro ⟨other, member, equivalent⟩
          refine ⟨(key, other), member, ?_⟩
          rw [(normalize_eq_iff value other first.2.1
            (second.of_mem member)).2 equivalent]
      rw [MembersEquivalent, ← each,
        ← normalizeMembers_subset_iff lefts rights first.2.2 second]
      simp only [normalizeMembers, List.forall_mem_cons]

end

/-! ## The profile is what the encoder accepts -/

theorem canonicalKey_isOk {key : String} :
    (canonicalKey key).isOk = true ↔ CanonicalKey key := by
  unfold canonicalKey CanonicalKey
  split
  · rename_i long
    have bounded : ¬key.length ≤ maxKeyLength := by omega
    simp [Except.isOk, Except.toBool, bounded]
  · rename_i short
    have bounded : key.length ≤ maxKeyLength := by omega
    split
    · rename_i empty
      simp [Except.isOk, Except.toBool, empty]
    · rename_i first rest characters
      simp only [bounded, true_and, characters, List.cons.injEq]
      constructor
      · intro accepted
        split at accepted
        · rename_i formed
          rw [Bool.and_eq_true] at formed
          exact ⟨first, rest, ⟨rfl, rfl⟩, formed.1, formed.2⟩
        · cases accepted
      · rintro ⟨_, _, ⟨rfl, rfl⟩, lower, others⟩
        rw [lower, others]
        rfl

theorem isAlphanumeric_ascii {character : Char}
    (held : isAlphanumeric character = true) : character.toNat < 128 := by
  simp only [isAlphanumeric, isLower, isUpper, isDigit, Bool.or_eq_true,
    Bool.and_eq_true, decide_eq_true_eq, Char.le_def,
    UInt32.le_iff_toNat_le] at held
  change character.val.toNat < 128
  have z : ('z' : Char).val.toNat = 122 := rfl
  have capitalZ : ('Z' : Char).val.toNat = 90 := rfl
  have nine : ('9' : Char).val.toNat = 57 := rfl
  omega

/-- A canonical key is ASCII text. -/
theorem CanonicalKey.ascii {key : String} (canonical : CanonicalKey key) :
    ∀ character ∈ key.toList, character.toNat < 128 := by
  rcases canonical.2 with ⟨first, rest, characters, lower, others⟩
  rw [characters]
  intro character member
  rcases List.mem_cons.1 member with rfl | later
  · exact isAlphanumeric_ascii (by simp [isAlphanumeric, lower])
  · exact isAlphanumeric_ascii (List.all_eq_true.1 others _ later)

/-- A character takes at most four octets. -/
theorem utf8_length_le (characters : List Char) :
    (utf8 characters).length ≤ 4 * characters.length := by
  induction characters with
  | nil => exact Nat.le_refl 0
  | cons first rest inductionHypothesis =>
      have size := Char.utf8Size_le_four first
      simp only [utf8, List.flatMap_cons, List.length_append,
        String.length_utf8EncodeChar, List.length_cons] at *
      omega

/-- A canonical key is encoded as it stands between quotes. -/
theorem encodeString_key {key : String} (ascii : host.KeepsAscii)
    (canonical : CanonicalKey key) :
    encodeString host key = .ok (quoted key) := by
  have short : key.utf8ByteSize ≤ maxStringBytes := by
    have size : (octets key).length = key.utf8ByteSize := rfl
    have bounded := utf8_length_le key.toList
    have limit : key.toList.length ≤ 64 := canonical.1
    rw [utf8_toList, size] at bounded
    unfold maxStringBytes
    omega
  rw [encodeString, ascii key canonical.ascii, if_neg (by omega)]
  rfl

theorem MembersInProfile.canonicalKey {members : Value.Members}
    (admitted : MembersInProfile host members)
    {member : String × Value} (among : member ∈ members) :
    CanonicalKey member.1 := by
  induction members with
  | nil => cases among
  | cons first rest inductionHypothesis =>
      rw [MembersInProfile] at admitted
      rcases List.mem_cons.1 among with rfl | later
      · exact admitted.1
      · exact inductionHypothesis admitted.2.2 later

/-- An object whose members are encoded is encoded in its normal form. -/
theorem encodeSorted_normalize {members : Value.Members}
    (ascii : host.KeepsAscii)
    (keyed : ∀ member ∈ members, CanonicalKey member.1)
    (each : ∀ member ∈ members,
      encode host member.2 = .ok (written (normalize host member.2))) :
    encodeSorted host (encodeMembers host members) =
      .ok (written (normalize host (.object members))) := by
  have admitted :
      (members.all fun member => (canonicalKey member.1).isOk) = true := by
    rw [List.all_eq_true]
    exact fun member among => canonicalKey_isOk.2 (keyed member among)
  rcases mapM_canonicalKey admitted with ⟨keys, formed⟩
  have parts :
      ((sortMembers members).mapM fun member => (do
        let name ← encodeString host member.1
        let item ← encode host member.2
        pure (name ++ [':'] ++ item) : Except Refusal (List Char))) =
      .ok ((sortMembers members).map fun member =>
        quoted member.1 ++ [':'] ++ written (normalize host member.2)) := by
    refine mapM_eq_ok_map fun member among => ?_
    rw [mem_sortMembers] at among
    rw [encodeString_key ascii (keyed member among), each member among]
    rfl
  rw [normalize, sort_normalizeMembers, written, writtenMembers_eq_map,
    normalizeMembers_eq_map, List.map_map]
  simp only [encodeSorted, bind_eq_ok, pure_eq_ok]
  rw [encodeMembers_eq_map]
  refine ⟨keys, ?_, _, ?_, rfl⟩
  · rw [List.mapM_map]
    exact formed
  · rw [insertionSort_keyed, List.mapM_map]
    exact parts

mutual

/-- The canonical text of a value is the text of its normal form. -/
theorem encode_normalize (ascii : host.KeepsAscii) :
    ∀ value, InProfile host value →
      encode host value = .ok (written (normalize host value))
  | .null, _ => rfl
  | .bool true, _ => rfl
  | .bool false, _ => rfl
  | .int value, admitted => by
      rw [InProfile] at admitted
      rw [encode, encodeInteger, if_neg (by omega)]
      rfl
  | .float _, admitted => absurd admitted (by simp [InProfile])
  | .text value, admitted => by
      rw [InProfile] at admitted
      rw [encode, encodeString, if_neg (by omega)]
      rfl
  | .array items, admitted => by
      rw [InProfile] at admitted
      rw [encode, encodeItems_normalize ascii items admitted]
      rfl
  | .object members, admitted => by
      rw [InProfile] at admitted
      rw [encode]
      exact encodeSorted_normalize ascii
        (fun member among => admitted.2.canonicalKey among)
        (encodeMembers_normalize ascii members admitted.2)

theorem encodeItems_normalize (ascii : host.KeepsAscii) :
    ∀ items, ItemsInProfile host items →
      encodeItems host items =
        .ok (writtenItems (normalizeItems host items))
  | [], _ => rfl
  | item :: rest, admitted => by
      rw [ItemsInProfile] at admitted
      rw [encodeItems, encode_normalize ascii item admitted.1,
        encodeItems_normalize ascii rest admitted.2]
      rfl

theorem encodeMembers_normalize (ascii : host.KeepsAscii) :
    ∀ members, MembersInProfile host members → ∀ member ∈ members,
      encode host member.2 = .ok (written (normalize host member.2))
  | [], _, _, absent => absurd absent List.not_mem_nil
  | (_, value) :: rest, admitted, member, among => by
      rw [MembersInProfile] at admitted
      rcases List.mem_cons.1 among with rfl | later
      · exact encode_normalize ascii value admitted.2.1
      · exact encodeMembers_normalize ascii rest admitted.2.2 member later

end

theorem membersInProfile_iff {members : Value.Members} :
    MembersInProfile host members ↔
      ∀ member ∈ members,
        CanonicalKey member.1 ∧ InProfile host member.2 := by
  induction members with
  | nil => simp [MembersInProfile]
  | cons first rest inductionHypothesis =>
      simp only [MembersInProfile, inductionHypothesis, List.forall_mem_cons,
        and_assoc]

/-- The parts that went into the text of an object. -/
theorem encodeSorted_ok {members : Value.Members} {text : List Char}
    (encoded : encodeSorted host (encodeMembers host members) = .ok text) :
    ∀ member ∈ members,
      CanonicalKey member.1 ∧ ∃ part, encode host member.2 = .ok part := by
  intro member among
  simp only [encodeSorted, bind_eq_ok] at encoded
  rcases encoded with ⟨keys, formed, parts, joined, _⟩
  have listed : (member.1, encode host member.2) ∈
      encodeMembers host members := mem_encodeMembers among
  have sorted :=
    (List.mem_insertionSort fun left right => left.1 ≤ right.1).2 listed
  rcases mapM_ok_of_mem formed listed with ⟨key, canonical⟩
  rcases mapM_ok_of_mem joined sorted with ⟨part, encodes⟩
  simp only [bind_eq_ok] at encodes
  rcases encodes with ⟨_, _, item, held, _⟩
  exact ⟨canonicalKey_isOk.1 (isOk_eq_true.2 ⟨key, canonical⟩), item, held⟩

mutual

/-- What the encoder accepts is inside the profile. -/
theorem inProfile_of_encode :
    ∀ value text, Keyed value → encode host value = .ok text →
      InProfile host value
  | .null, _, _, _ => by simp [InProfile]
  | .bool _, _, _, _ => by simp [InProfile]
  | .int value, _, _, encoded => by
      rw [encode, encodeInteger] at encoded
      rw [InProfile]
      split at encoded
      · cases encoded
      · omega
  | .float _, _, _, encoded => by cases encoded
  | .text value, _, _, encoded => by
      rw [encode, encodeString] at encoded
      rw [InProfile]
      split at encoded
      · cases encoded
      · omega
  | .array items, _, keyed, encoded => by
      rw [Keyed] at keyed
      simp only [encode, bind_eq_ok] at encoded
      rcases encoded with ⟨parts, encodes, _⟩
      rw [InProfile]
      exact itemsInProfile_of_encode items parts keyed encodes
  | .object members, text, keyed, encoded => by
      rw [Keyed] at keyed
      rw [encode] at encoded
      rw [InProfile]
      exact ⟨keyed.1, membersInProfile_of_encode members keyed.2
        (encodeSorted_ok encoded)⟩

theorem itemsInProfile_of_encode :
    ∀ items parts, ItemsKeyed items → encodeItems host items = .ok parts →
      ItemsInProfile host items
  | [], _, _, _ => by simp [ItemsInProfile]
  | item :: rest, parts, keyed, encoded => by
      rw [ItemsKeyed] at keyed
      simp only [encodeItems, bind_eq_ok] at encoded
      rcases encoded with ⟨first, encodes, others, follows, _⟩
      rw [ItemsInProfile]
      exact ⟨inProfile_of_encode item first keyed.1 encodes,
        itemsInProfile_of_encode rest others keyed.2 follows⟩

theorem membersInProfile_of_encode :
    ∀ members, MembersKeyed members →
      (∀ member ∈ members,
        CanonicalKey member.1 ∧ ∃ part, encode host member.2 = .ok part) →
      MembersInProfile host members
  | [], _, _ => by simp [MembersInProfile]
  | (key, value) :: rest, keyed, encoded => by
      rw [MembersKeyed] at keyed
      rcases encoded (key, value) List.mem_cons_self with
        ⟨canonical, part, encodes⟩
      rw [MembersInProfile]
      exact ⟨canonical, inProfile_of_encode value part keyed.1 encodes,
        membersInProfile_of_encode rest keyed.2
          fun member among => encoded member (List.mem_cons_of_mem _ among)⟩

end

/-! ## The normal form is in the profile -/

/-- `unicodedata.normalize` changes no text that it returned. -/
def Normalizes (host : Host) : Prop :=
  ∀ text, host.nfc (host.nfc text) = host.nfc text

mutual

theorem inProfile_normalize (idempotent : Normalizes host) :
    ∀ value, InProfile host value → InProfile host (normalize host value)
  | .null, _ => by simp [normalize, InProfile]
  | .bool _, _ => by simp [normalize, InProfile]
  | .int _, admitted => admitted
  | .float _, admitted => admitted
  | .text value, admitted => by
      rw [InProfile] at admitted
      rw [normalize, InProfile, idempotent]
      exact admitted
  | .array items, admitted => by
      rw [InProfile] at admitted
      rw [normalize, InProfile]
      exact itemsInProfile_normalize idempotent items admitted
  | .object members, admitted => by
      rw [InProfile] at admitted
      rw [normalize, InProfile, membersInProfile_iff]
      constructor
      · rw [(keys_sortMembers _).nodup_iff, keys_normalizeMembers]
        exact admitted.1
      · intro member among
        exact membersInProfile_iff.1
          (membersInProfile_normalize idempotent members admitted.2) member
          (mem_sortMembers.1 among)

theorem itemsInProfile_normalize (idempotent : Normalizes host) :
    ∀ items, ItemsInProfile host items →
      ItemsInProfile host (normalizeItems host items)
  | [], _ => by simp [normalizeItems, ItemsInProfile]
  | item :: rest, admitted => by
      rw [ItemsInProfile] at admitted
      rw [normalizeItems, ItemsInProfile]
      exact ⟨inProfile_normalize idempotent item admitted.1,
        itemsInProfile_normalize idempotent rest admitted.2⟩

theorem membersInProfile_normalize (idempotent : Normalizes host) :
    ∀ members, MembersInProfile host members →
      MembersInProfile host (normalizeMembers host members)
  | [], _ => by simp [normalizeMembers, MembersInProfile]
  | (key, value) :: rest, admitted => by
      rw [MembersInProfile] at admitted
      rw [normalizeMembers, MembersInProfile]
      exact ⟨admitted.1, inProfile_normalize idempotent value admitted.2.1,
        membersInProfile_normalize idempotent rest admitted.2.2⟩

end

mutual

/-- A normal form is its own normal form. -/
theorem normalize_idempotent (idempotent : Normalizes host) :
    ∀ value, normalize host (normalize host value) = normalize host value
  | .null => rfl
  | .bool _ => rfl
  | .int _ => rfl
  | .float _ => rfl
  | .text value => by rw [normalize, normalize, idempotent]
  | .array items => by
      rw [normalize, normalize, normalizeItems_idempotent idempotent items]
  | .object members => by
      rw [normalize, normalize, ← sort_normalizeMembers,
        normalizeMembers_idempotent idempotent members,
        sortMembers_idempotent]

theorem normalizeItems_idempotent (idempotent : Normalizes host) :
    ∀ items,
      normalizeItems host (normalizeItems host items) =
        normalizeItems host items
  | [] => rfl
  | item :: rest => by
      rw [normalizeItems, normalizeItems,
        normalize_idempotent idempotent item,
        normalizeItems_idempotent idempotent rest]

theorem normalizeMembers_idempotent (idempotent : Normalizes host) :
    ∀ members,
      normalizeMembers host (normalizeMembers host members) =
        normalizeMembers host members
  | [] => rfl
  | (key, value) :: rest => by
      rw [normalizeMembers, normalizeMembers,
        normalize_idempotent idempotent value,
        normalizeMembers_idempotent idempotent rest]

end

/-- A safe integer has few digits. -/
theorem safeInteger_digits {value : Int}
    (safe : -maxSafeInteger ≤ value ∧ value ≤ maxSafeInteger) :
    (Nat.toDigits 10 value.natAbs).length ≤ maxIntegerDigits := by
  have digits : (Nat.toDigits 10 value.natAbs).length ≤ 16 := by
    rw [Nat.length_toDigits_le_iff (by decide) (by decide)]
    unfold maxSafeInteger at safe
    omega
  unfold maxIntegerDigits
  omega

theorem writableMembers_iff {members : Value.Members} :
    WritableMembers members ↔ ∀ member ∈ members, Writable member.2 := by
  induction members with
  | nil => simp [WritableMembers]
  | cons first rest inductionHypothesis =>
      simp only [WritableMembers, inductionHypothesis, List.forall_mem_cons]

mutual

theorem writable_normalize :
    ∀ value, InProfile host value → Writable (normalize host value)
  | .null, _ => by simp [normalize, Writable]
  | .bool _, _ => by simp [normalize, Writable]
  | .int value, admitted => by
      rw [InProfile] at admitted
      rw [normalize, Writable]
      · exact safeInteger_digits admitted
      all_goals simp
  | .float _, admitted => absurd admitted (by simp [InProfile])
  | .text _, _ => by simp [normalize, Writable]
  | .array items, admitted => by
      rw [InProfile] at admitted
      rw [normalize, Writable]
      exact writableItems_normalize items admitted
  | .object members, admitted => by
      rw [InProfile] at admitted
      rw [normalize, Writable, writableMembers_iff]
      constructor
      · rw [(keys_sortMembers _).nodup_iff, keys_normalizeMembers]
        exact admitted.1
      · intro member among
        exact writableMembers_iff.1
          (writableMembers_normalize members admitted.2) member
          (mem_sortMembers.1 among)

theorem writableItems_normalize :
    ∀ items, ItemsInProfile host items →
      WritableItems (normalizeItems host items)
  | [], _ => by simp [normalizeItems, WritableItems]
  | item :: rest, admitted => by
      rw [ItemsInProfile] at admitted
      rw [normalizeItems, WritableItems]
      exact ⟨writable_normalize item admitted.1,
        writableItems_normalize rest admitted.2⟩

theorem writableMembers_normalize :
    ∀ members, MembersInProfile host members →
      WritableMembers (normalizeMembers host members)
  | [], _ => by simp [normalizeMembers, WritableMembers]
  | (key, value) :: rest, admitted => by
      rw [MembersInProfile] at admitted
      rw [normalizeMembers, WritableMembers]
      exact ⟨writable_normalize value admitted.2.1,
        writableMembers_normalize rest admitted.2.2⟩

end

/-! ## Canonical bytes -/

/-- `json.loads` returns the value that a text says, floats apart. -/
def ReadsJson (host : Host) : Prop :=
  ∀ text value, Writable value → JsonText.loads text = .ok value →
    host.loads (utf8 text) = .ok value

/-- No two texts have the same octets. -/
theorem utf8_injective : Function.Injective utf8 := by
  intro left right same
  have stored : octets (String.ofList left) = octets (String.ofList right) := by
    rw [← utf8_toList, ← utf8_toList, String.toList_ofList,
      String.toList_ofList, same]
  have equal : String.ofList left = String.ofList right := by
    rw [← String.toByteArray_inj]
    exact ByteArray.ext (Array.toList_inj.1 stored)
  rw [← String.toList_ofList (l := left), equal, String.toList_ofList]

theorem canonicalBytes_normalize {value : Value} (ascii : host.KeepsAscii)
    (admitted : InProfile host value) :
    canonicalBytes host value = .ok (utf8 (written (normalize host value))) := by
  rw [canonicalBytes, encode_normalize ascii value admitted]
  rfl

theorem equivalent_normalize {value : Value}
    (idempotent : Normalizes host) (admitted : InProfile host value) :
    Equivalent host (normalize host value) value :=
  (normalize_eq_iff _ _ (inProfile_normalize idempotent value admitted)
    admitted).1 (normalize_idempotent idempotent value)

/-- Two values have the same bytes when they have one normal form. -/
theorem canonicalBytes_eq_iff {left right : Value} (ascii : host.KeepsAscii)
    (first : InProfile host left) (second : InProfile host right) :
    canonicalBytes host left = canonicalBytes host right ↔
      Equivalent host left right := by
  rw [canonicalBytes_normalize ascii first,
    canonicalBytes_normalize ascii second,
    ← normalize_eq_iff left right first second]
  constructor
  · intro same
    rw [Except.ok.injEq] at same
    exact written_injective (writable_normalize left first)
      (writable_normalize right second) (utf8_injective same)
  · intro same
    rw [same]

/-- What is decoded from the bytes of a value is its normal form. -/
theorem decode_normalize {value : Value} (ascii : host.KeepsAscii)
    (idempotent : Normalizes host) (reads : ReadsJson host)
    (admitted : InProfile host value) :
    decode host (utf8 (written (normalize host value))) =
      .ok (normalize host value) := by
  have writable := writable_normalize value admitted
  have loaded := reads (written (normalize host value)) _ writable
    (loads_written writable)
  rw [decode, loaded]
  simp only [canonicalBytes_normalize ascii
    (inProfile_normalize idempotent value admitted)]

/-- The characters that octets encode. -/
def decodeUtf8 (bytes : Bytes) : Option (List Char) :=
  (ByteArray.mk bytes.toArray).utf8Decode?.map Array.toList

theorem decodeUtf8_utf8 (text : List Char) :
    decodeUtf8 (utf8 text) = some text := by
  have stored : ByteArray.mk (utf8 text).toArray = text.utf8Encode := by
    refine ByteArray.ext (Array.toList_inj.1 ?_)
    exact List.toList_data_toByteArray.symm
  rw [decodeUtf8, stored, List.utf8Decode?_utf8Encode]
  rfl

/-- A runtime whose reader is the one above and whose texts are all in normal
form. -/
def readingHost : Host where
  loads bytes :=
    match decodeUtf8 bytes with
    | some text => JsonText.loads text
    | none => .error .malformed
  nfc := id
  sha256 _ := ""

theorem readingHost_reads : ReadsJson readingHost := by
  intro text value _ loaded
  simp only [readingHost, decodeUtf8_utf8, loaded]

end AerialRescue.Contracts.CanonicalForm
