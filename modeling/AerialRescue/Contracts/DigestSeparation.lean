import AerialRescue.Contracts.CanonicalForm
import AerialRescue.Contracts.Digest
import AerialRescue.Lib.Framing

/-!
# Digests separate contexts and documents

The material of a digest is the header of its context and the canonical bytes
of the covered members.  No header begins another, so material that is equal
comes from one context and from equivalent members; under an injective hash
the same holds of the digests.
-/

namespace AerialRescue.Contracts.DigestSeparation

open AerialRescue.Lib.Framing
open AerialRescue.Lib.Guard
open AerialRescue.Contracts.Canonical
open AerialRescue.Contracts.CanonicalForm
open AerialRescue.Contracts.Digest

/-! ## Headers -/

/-- The octets of a context's name. -/
def contextOctets (context : Context) : Bytes :=
  utf8 context.text.toList

theorem contextOctets_injective : Function.Injective contextOctets := by
  intro left right same
  have names : left.text.toList = right.text.toList := utf8_injective same
  cases left <;> cases right <;> first | rfl | exact absurd names (by decide)

/-- A context's name is one line. -/
theorem contextOctets_line (context : Context) :
    (10 : UInt8) ∉ contextOctets context := by
  cases context <;> decide

theorem header_eq (context : Context) :
    header context =
      utf8 "aerial-rescue/canonical/v1\n".toList ++ contextOctets context ++
        [10] := by
  unfold header contextOctets
  rw [String.toList_append, String.toList_append, utf8_append, utf8_append]
  rfl

theorem header_prefixFree : PrefixFree header := by
  have framed := prefixFree_marked 10
    (utf8 "aerial-rescue/canonical/v1\n".toList) contextOctets_injective
    contextOctets_line
  intro left right first second same
  rw [header_eq, header_eq] at same
  exact framed left right first second same

/-! ## Material -/

/-- What is hashed for covered members in a context. -/
def material (host : Host) (context : Context) (covered : Value.Members) :
    Except Refusal Bytes := do
  let bytes ← canonicalBytes host (.object covered)
  pure (header context ++ bytes)

variable {host : Host}

/-- A digest is the hash of its material. -/
theorem digestCovered_eq_ok {context : Context} {covered : Value.Members}
    {computed : String} :
    digestCovered host context covered = .ok computed ↔
      ∃ bytes, material host context covered = .ok bytes ∧
        host.sha256 bytes = computed := by
  simp only [digestCovered, material, bind_eq_ok, recast_eq_ok, pure_eq_ok]
  constructor
  · rintro ⟨bytes, encoded, rfl⟩
    exact ⟨_, ⟨bytes, encoded, rfl⟩, rfl⟩
  · rintro ⟨_, ⟨bytes, encoded, rfl⟩, hashed⟩
    exact ⟨bytes, encoded, hashed⟩

theorem inProfile_of_canonicalBytes {value : Value} {bytes : Bytes}
    (keyed : Keyed value) (encoded : canonicalBytes host value = .ok bytes) :
    InProfile host value := by
  simp only [canonicalBytes, bind_eq_ok] at encoded
  rcases encoded with ⟨text, encodes, _⟩
  exact inProfile_of_encode value text keyed encodes

/-- Equal material comes from one context and equivalent members. -/
theorem material_separates {context other : Context}
    {left right : Value.Members} {bytes : Bytes} (ascii : host.KeepsAscii)
    (first : Keyed (.object left)) (second : Keyed (.object right))
    (hashed : material host context left = .ok bytes)
    (also : material host other right = .ok bytes) :
    context = other ∧ Equivalent host (.object left) (.object right) := by
  simp only [material, bind_eq_ok, pure_eq_ok] at hashed also
  rcases hashed with ⟨body, encoded, rfl⟩
  rcases also with ⟨later, encodes, same⟩
  rcases header_prefixFree _ _ _ _ same with ⟨rfl, rfl⟩
  refine ⟨rfl, (canonicalBytes_eq_iff ascii
    (inProfile_of_canonicalBytes first encoded)
    (inProfile_of_canonicalBytes second encodes)).1 ?_⟩
  rw [encoded, encodes]

/-! ## Equivalent documents -/

theorem membersEquivalent_iff {left right : Value.Members} :
    MembersEquivalent host left right ↔
      ∀ member ∈ left, ∃ other, (member.1, other) ∈ right ∧
        Equivalent host member.2 other := by
  induction left with
  | nil => simp [MembersEquivalent]
  | cons first rest inductionHypothesis =>
      simp only [MembersEquivalent, inductionHypothesis, List.forall_mem_cons]

theorem membersKeyed_iff {members : Value.Members} :
    MembersKeyed members ↔ ∀ member ∈ members, Keyed member.2 := by
  induction members with
  | nil => simp [MembersKeyed]
  | cons first rest inductionHypothesis =>
      simp only [MembersKeyed, inductionHypothesis, List.forall_mem_cons]

/-- Mappings of one size with each key of the first in the second have the
same keys. -/
theorem key_mem_of_equivalent {left right : Value.Members}
    (distinct : (Value.keys left).Nodup)
    (lengths : left.length = right.length)
    (each : ∀ member ∈ left, ∃ other, (member.1, other) ∈ right ∧
      Equivalent host member.2 other) {member : String × Value}
    (among : member ∈ right) : ∃ value, (member.1, value) ∈ left := by
  have included : Value.keys left ⊆ Value.keys right := by
    intro key listed
    rcases List.mem_map.1 listed with ⟨held, member, rfl⟩
    rcases each held member with ⟨other, found, _⟩
    exact List.mem_map.2 ⟨_, found, rfl⟩
  have perm : (Value.keys left).Perm (Value.keys right) :=
    (List.subperm_of_subset distinct included).perm_of_length_le (by
      simp only [Value.keys, List.length_map]
      omega)
  have listed : member.1 ∈ Value.keys left :=
    perm.mem_iff.2 (List.mem_map.2 ⟨member, among, rfl⟩)
  rcases List.mem_map.1 listed with ⟨held, found, same⟩
  exact ⟨held.2, same ▸ found⟩

mutual

/-- What is equivalent to a value of the profile is in the profile. -/
theorem inProfile_of_equivalent :
    ∀ left right, InProfile host left → Keyed right →
      Equivalent host left right → InProfile host right
  | .null, right, _, _, equivalent => by
      cases right <;> simp_all [Equivalent, InProfile]
  | .bool _, right, _, _, equivalent => by
      cases right <;> simp_all [Equivalent, InProfile]
  | .int _, right, admitted, _, equivalent => by
      cases right <;> simp_all [Equivalent, InProfile]
  | .float _, _, admitted, _, _ => absurd admitted (by simp [InProfile])
  | .text _, right, admitted, _, equivalent => by
      cases right <;> simp_all [Equivalent, InProfile]
  | .array lefts, right, admitted, keyed, equivalent => by
      cases right with
      | array rights =>
          rw [InProfile] at admitted ⊢
          rw [Keyed] at keyed
          rw [Equivalent] at equivalent
          exact itemsInProfile_of_equivalent lefts rights admitted keyed
            equivalent
      | _ => simp [Equivalent] at equivalent
  | .object lefts, right, admitted, keyed, equivalent => by
      cases right with
      | object rights =>
          rw [InProfile] at admitted ⊢
          rw [Keyed] at keyed
          rw [Equivalent] at equivalent
          have each := membersEquivalent_iff.1 equivalent.2
          refine ⟨keyed.1, membersInProfile_iff.2 ?_⟩
          rintro ⟨key, value⟩ among
          rcases key_mem_of_equivalent admitted.1 equivalent.1 each among with
            ⟨held, found⟩
          have canonical := admitted.2.canonicalKey found
          refine ⟨canonical, ?_⟩
          rcases membersInProfile_of_equivalent lefts rights admitted.2
            keyed.2 each _ found with ⟨other, member, inside⟩
          have same := member_eq_of_key keyed.1 among member rfl
          cases same
          exact inside
      | _ => simp [Equivalent] at equivalent

theorem itemsInProfile_of_equivalent :
    ∀ lefts rights, ItemsInProfile host lefts → ItemsKeyed rights →
      ItemsEquivalent host lefts rights → ItemsInProfile host rights
  | [], [], _, _, _ => by simp [ItemsInProfile]
  | [], _ :: _, _, _, equivalent => by simp [ItemsEquivalent] at equivalent
  | _ :: _, [], _, _, equivalent => by simp [ItemsEquivalent] at equivalent
  | left :: lefts, right :: rights, admitted, keyed, equivalent => by
      rw [ItemsInProfile] at admitted ⊢
      rw [ItemsKeyed] at keyed
      rw [ItemsEquivalent] at equivalent
      exact ⟨inProfile_of_equivalent left right admitted.1 keyed.1
          equivalent.1,
        itemsInProfile_of_equivalent lefts rights admitted.2 keyed.2
          equivalent.2⟩

theorem membersInProfile_of_equivalent :
    ∀ lefts rights, MembersInProfile host lefts → MembersKeyed rights →
      (∀ member ∈ lefts, ∃ other, (member.1, other) ∈ rights ∧
        Equivalent host member.2 other) →
      ∀ member ∈ lefts, ∃ other, (member.1, other) ∈ rights ∧
        InProfile host other
  | [], _, _, _, _, _, absent => absurd absent List.not_mem_nil
  | (key, value) :: lefts, rights, admitted, keyed, each, member, among => by
      rw [MembersInProfile] at admitted
      rcases List.mem_cons.1 among with rfl | later
      · rcases each (key, value) List.mem_cons_self with
          ⟨other, found, equivalent⟩
        exact ⟨other, found, inProfile_of_equivalent value other
          admitted.2.1 (membersKeyed_iff.1 keyed _ found) equivalent⟩
      · exact membersInProfile_of_equivalent lefts rights admitted.2.2 keyed
          (fun member held => each member (List.mem_cons_of_mem _ held))
          member later

end

/-! ## Self-integrity digests -/

/-- The members of a payload without one. -/
def without (name : String) (payload : Value.Members) : Value.Members :=
  payload.filter fun member => decide (member.1 ≠ name)

theorem coveredMembers_eq_ok {payload covered : Value.Members}
    {omitted : String} :
    coveredMembers payload omitted = .ok covered ↔
      Value.get "canonicalizationVersion" payload = .int 1 ∧
        without omitted payload = covered := by
  unfold coveredMembers without
  split
  · rename_i version
    simp [version]
  · rename_i other
    simp only [reduceCtorEq, false_iff, not_and]
    intro version
    exact absurd version other

theorem keyed_without {name : String} {payload : Value.Members}
    (keyed : Keyed (.object payload)) :
    Keyed (.object (without name payload)) := by
  rw [Keyed, membersKeyed_iff] at keyed ⊢
  exact ⟨keyed.1.sublist (List.filter_sublist.map Prod.fst),
    fun member among => keyed.2 member (List.mem_filter.1 among).1⟩

theorem mem_without {name : String} {payload : Value.Members}
    {member : String × Value} :
    member ∈ without name payload ↔ member ∈ payload ∧ member.1 ≠ name := by
  simp [without]

/-- A payload declares the version when an equivalent one does. -/
theorem version_of_equivalent {name : String} {left right : Value.Members}
    (second : Keyed (.object right)) (other : name ≠ "canonicalizationVersion")
    (version : Value.get "canonicalizationVersion" left = .int 1)
    (equivalent : Equivalent host (.object (without name left))
      (.object (without name right))) :
    Value.get "canonicalizationVersion" right = .int 1 := by
  rw [Keyed] at second
  rw [Equivalent, membersEquivalent_iff] at equivalent
  unfold Value.get at version ⊢
  cases found : Value.member? "canonicalizationVersion" left with
  | none =>
      rw [found] at version
      cases version
  | some value =>
      rw [found] at version
      cases version
      rcases equivalent.2 ("canonicalizationVersion", .int 1)
        (mem_without.2 ⟨Value.mem_of_member? found, other.symm⟩) with
        ⟨held, member, same⟩
      rw [Value.member?_of_mem second.1 (mem_without.1 member).1]
      cases held <;> simp_all [Equivalent]

/-- A self-integrity digest is that of another payload exactly when the two
agree on every member but the digest's own. -/
theorem covered_digest_eq_iff {context : Context} {name : String}
    {left right : Value.Members} {computed : String}
    (ascii : host.KeepsAscii) (injective : Function.Injective host.sha256)
    (other : name ≠ "canonicalizationVersion")
    (first : Keyed (.object left)) (second : Keyed (.object right))
    (digested :
      (do
        let covered ← coveredMembers left name
        digestCovered host context covered) = .ok computed) :
    (do
        let covered ← coveredMembers right name
        digestCovered host context covered) = .ok computed ↔
      Equivalent host (.object (without name left))
        (.object (without name right)) := by
  simp only [bind_eq_ok, coveredMembers_eq_ok, digestCovered_eq_ok] at *
  rcases digested with ⟨_, ⟨version, rfl⟩, bytes, hashed, rfl⟩
  constructor
  · rintro ⟨_, ⟨_, rfl⟩, others, also, same⟩
    cases injective same
    exact (material_separates ascii (keyed_without first)
      (keyed_without second) hashed also).2
  · intro equivalent
    refine ⟨_, ⟨version_of_equivalent second other version equivalent, rfl⟩,
      bytes, ?_, rfl⟩
    simp only [material, bind_eq_ok, pure_eq_ok] at hashed ⊢
    rcases hashed with ⟨body, encoded, rfl⟩
    have inside :=
      inProfile_of_canonicalBytes (keyed_without first) encoded
    have same := (canonicalBytes_eq_iff ascii inside
      (inProfile_of_equivalent _ _ inside (keyed_without second)
        equivalent)).2 equivalent
    exact ⟨body, same ▸ encoded, rfl⟩

/-- Equal material comes from one context and equivalent covered members, and
a proposal digest covers every member but its own. -/
theorem digests_separate (host : Host) (ascii : host.KeepsAscii)
    (injective : Function.Injective host.sha256) :
    (∀ context other (left right : Value.Members) bytes,
        Keyed (.object left) → Keyed (.object right) →
        material host context left = .ok bytes →
        material host other right = .ok bytes →
          context = other ∧
            Equivalent host (.object left) (.object right)) ∧
      (∀ context other (left right : Value.Members) computed,
        Keyed (.object left) → Keyed (.object right) →
        digest host context left = .ok computed →
        digest host other right = .ok computed →
          context = other ∧
            Equivalent host (.object (without "digest" left))
              (.object (without "digest" right))) ∧
      ∀ (left right : Value.Members) computed,
        Keyed (.object left) → Keyed (.object right) →
        proposalDigest host left = .ok computed →
          (proposalDigest host right = .ok computed ↔
            Equivalent host (.object (without "proposalDigest" left))
              (.object (without "proposalDigest" right))) := by
  refine ⟨?_, ?_, ?_⟩
  · intro context other left right bytes first second hashed also
    exact material_separates ascii first second hashed also
  · intro context other left right computed first second digested also
    simp only [digest, bind_eq_ok, coveredMembers_eq_ok,
      digestCovered_eq_ok] at digested also
    rcases digested with ⟨_, ⟨_, rfl⟩, bytes, hashed, rfl⟩
    rcases also with ⟨_, ⟨_, rfl⟩, others, hashes, same⟩
    cases injective same
    exact material_separates ascii (keyed_without first)
      (keyed_without second) hashed hashes
  · intro left right computed first second digested
    exact covered_digest_eq_iff ascii injective (by decide) first second
      digested

/-! ## A runtime that spells what it hashes -/

/-- A runtime whose digest of some octets is those octets, as characters. -/
def spellingHost : Host where
  loads _ := .error .malformed
  nfc := id
  sha256 bytes :=
    String.ofList (bytes.map fun octet => Char.ofNat octet.toNat)

theorem toNat_ofOctet (octet : UInt8) :
    (Char.ofNat octet.toNat).toNat = octet.toNat := by
  have bounded := octet.toNat_lt
  have valid : octet.toNat.isValidChar := .inl (by omega)
  rw [Char.ofNat, dif_pos valid]
  rfl

theorem spellingHost_injective : Function.Injective spellingHost.sha256 := by
  have octet : Function.Injective
      fun octet : UInt8 => Char.ofNat octet.toNat := by
    intro left right same
    have numbers : left.toNat = right.toNat := by
      rw [← toNat_ofOctet left, ← toNat_ofOctet right]
      exact congrArg Char.toNat same
    exact UInt8.toNat_inj.1 numbers
  intro left right same
  exact octet.list_map (String.ofList_injective same)

theorem digests_separate_absent :
    ∃ computed,
      proposalDigest spellingHost [("canonicalizationVersion", .int 1)] =
          .ok computed ∧
        proposalDigest spellingHost
            [ ("canonicalizationVersion", .int 1),
              ("proposalDigest", .float "nan") ] = .ok computed := by
  have separate := digests_separate spellingHost (fun _ _ => rfl)
    spellingHost_injective
  have first : Keyed (.object [("canonicalizationVersion", .int 1)]) := by
    simp [Keyed, MembersKeyed, Value.keys]
  have second : Keyed (.object
      [ ("canonicalizationVersion", .int 1),
        ("proposalDigest", .float "nan") ]) := by
    simp [Keyed, MembersKeyed, Value.keys]
  have key : CanonicalKey "canonicalizationVersion" :=
    canonicalKey_isOk.1 (by decide)
  have inside : InProfile spellingHost
      (.object [("canonicalizationVersion", .int 1)]) := by
    simp [InProfile, MembersInProfile, Value.keys, key, maxSafeInteger]
  have digested : ∃ computed,
      proposalDigest spellingHost [("canonicalizationVersion", .int 1)] =
        .ok computed := by
    refine ⟨_, bind_eq_ok.2 ⟨[("canonicalizationVersion", .int 1)],
      coveredMembers_eq_ok.2 ⟨rfl, rfl⟩, digestCovered_eq_ok.2
        ⟨_, bind_eq_ok.2 ⟨_, canonicalBytes_normalize (fun _ _ => rfl) inside,
          rfl⟩, rfl⟩⟩⟩
  rcases digested with ⟨computed, digested⟩
  refine ⟨computed, digested,
    (separate.2.2 _ _ _ first second digested).2 ?_⟩
  exact ⟨rfl, ⟨.int 1, List.mem_cons_self, rfl⟩, trivial⟩

end AerialRescue.Contracts.DigestSeparation
