import AerialRescue.Contracts.DigestSeparation
import AerialRescue.Contracts.SharedJson

/-!
# The browser's canonical encoder

`domain/canonical.ts` on the values `JSON.parse` returns: plain objects with
data members and dense arrays, so that its checks of accessors, symbols,
sparse arrays and cycles never refuse.  A number is a binary64 number, a text
is a sequence of UTF-16 code units.

The encoder accepts what `canonical_bytes` accepts and writes the same octets,
with one exception: it cannot tell a numeral with a fraction or an exponent
from an integer once the number stands for one.
-/

namespace AerialRescue.Dashboard.CanonicalText

open AerialRescue.Contracts
open AerialRescue.Contracts.Canonical
open AerialRescue.Contracts.CanonicalForm
open AerialRescue.Contracts.Digest
open AerialRescue.Contracts.DigestSeparation
open AerialRescue.Contracts.JsonText
open AerialRescue.Contracts.SharedJson
open AerialRescue.Lib.Binary64
open AerialRescue.Lib.Guard

/-- `CanonicalRefusal`, without what only other values are refused with. -/
inductive CanonicalRefusal where
  | integerRange
  | keyForm
  | keyLength
  | loneSurrogate
  | stringLength
  | unsupportedType
deriving DecidableEq

/-- `Number.MAX_SAFE_INTEGER` -/
def maxSafeNumber : Nat := 9007199254740991

/-- `MAX_CANONICAL_KEY_CHARACTERS`, in UTF-16 code units. -/
def maxCanonicalKeyCharacters : Nat := 64

/-- `MAX_CANONICAL_STRING_BYTES` -/
def maxCanonicalStringBytes : Nat := 4096

/-! ## Encoding -/

/-- `character.charCodeAt(0)` -/
def charCodeAt (character : Char) : Nat :=
  if character.toNat < 0x10000 then character.toNat
  else 0xD800 + (character.toNat - 0x10000) / 1024

/-- `codePoint.toString(16).padStart(4, "0")` -/
def paddedHexadecimal (code : Nat) : List Char :=
  let digits := Nat.toDigits 16 code
  List.replicate (4 - digits.length) '0' ++ digits

/-- `escapeCharacter` -/
def escapeCharacter (character : Char) : List Char :=
  if character = '"' then ['\\', '"']
  else if character = '\\' then ['\\', '\\']
  else if character = '\x08' then ['\\', 'b']
  else if character = '\x0c' then ['\\', 'f']
  else if character = '\n' then ['\\', 'n']
  else if character = '\r' then ['\\', 'r']
  else if character = '\t' then ['\\', 't']
  else if charCodeAt character < 0x20 then
    ['\\', 'u'] ++ paddedHexadecimal (charCodeAt character)
  else [character]

/-- `assertScalarString`: an iterated string gives its code points. -/
def assertScalarString (value : Units) : Except CanonicalRefusal Unit :=
  ensure ((codePoints value).any isSurrogate = false) .loneSurrogate

/-- `encodeString` -/
def encodeUnits (host : Host) (value : Units) :
    Except CanonicalRefusal (List Char) := do
  assertScalarString value
  let normalized := host.nfc (scalars (codePoints value))
  if maxCanonicalStringBytes < (utf8 normalized.toList).length then
    .error .stringLength
  else
    .ok (['"'] ++ normalized.toList.flatMap escapeCharacter ++ ['"'])

/-- The checks of one key in `validatedObjectMembers`. -/
def validatedKey (key : Units) : Except CanonicalRefusal Unit := do
  ensure (key.length ≤ maxCanonicalKeyCharacters) .keyLength
  ensure (matchesKeyPattern (codePoints key) = true) .keyForm

/-- `validatedObjectMembers`: checked, and sorted by UTF-16 code units. -/
def validatedObjectMembers {α : Type} (members : List (Units × α)) :
    Except CanonicalRefusal (List (Units × α)) := do
  let _ ← members.mapM fun member => validatedKey member.1
  pure (members.insertionSort fun left right => left.1 ≤ right.1)

/-- `encodeNumber` -/
def encodeNumber (value : Double) : Except CanonicalRefusal (List Char) :=
  match value.integer? with
  | none => .error .unsupportedType
  | some integer =>
      if maxSafeNumber < integer.natAbs then .error .integerRange
      else .ok (toString integer).toList

/-- `encodeContainer` of an object, over the encodings of its values. -/
def encodeMembersOf (host : Host)
    (members : List (Units × Except CanonicalRefusal (List Char))) :
    Except CanonicalRefusal (List Char) := do
  let sorted ← validatedObjectMembers members
  let parts ← sorted.mapM fun member => do
    let name ← encodeUnits host member.1
    let item ← member.2
    pure (name ++ [':'] ++ item)
  pure (['{'] ++ joinComma parts ++ ['}'])

mutual

/-- `encodeValue` -/
def encodeValue (host : Host) : Json → Except CanonicalRefusal (List Char)
  | .null => .ok "null".toList
  | .bool true => .ok "true".toList
  | .bool false => .ok "false".toList
  | .integer negative magnitude => encodeNumber (ofInteger negative magnitude)
  | .real value => encodeNumber value
  | .text units => encodeUnits host units
  | .array items => do
      let parts ← encodeValues host items
      pure (['['] ++ joinComma parts ++ [']'])
  | .object members => encodeMembersOf host (encodeValuesOf host members)

def encodeValues (host : Host) :
    List Json → Except CanonicalRefusal (List (List Char))
  | [] => .ok []
  | item :: rest => do
      let first ← encodeValue host item
      let others ← encodeValues host rest
      pure (first :: others)

def encodeValuesOf (host : Host) :
    Json.Members → List (Units × Except CanonicalRefusal (List Char))
  | [] => []
  | (key, value) :: rest =>
      (key, encodeValue host value) :: encodeValuesOf host rest

end

/-- `canonicalBytes` -/
def canonicalOctets (host : Host) (value : Json) :
    Except CanonicalRefusal Bytes := do
  let text ← encodeValue host value
  pure (utf8 text)

/-! ## Digests -/

/-- `DigestContext` -/
inductive DigestContext where
  | evidence
  | idempotencyBody
  | orderedDashboardEvent
  | proposalDigest
  | replayState
deriving DecidableEq

def DigestContext.text : DigestContext → String
  | .evidence => "evidence"
  | .idempotencyBody => "idempotency-body"
  | .orderedDashboardEvent => "ordered-dashboard-event"
  | .proposalDigest => "proposal-digest"
  | .replayState => "replay-state"

/-- What a digest of the browser throws. -/
inductive DigestRefusal where
  | notAnObject
  | version
  | canonicalization (refusal : CanonicalRefusal)
deriving DecidableEq

/-- The number a value is, if it is one. -/
def numberOf : Json → Option Double
  | .integer negative magnitude => some (ofInteger negative magnitude)
  | .real value => some value
  | _ => none

/-- `version === CANONICALIZATION_VERSION`, of a number. -/
def isVersion (version : Option Json) : Bool :=
  match version.bind numberOf with
  | some number => number.integer? = some 1
  | none => false

/-- `digestCoveredDocument` -/
def digestCoveredDocument (value : Json) :
    Except DigestRefusal Json.Members :=
  match value with
  | .object members =>
      let version := members.foldl (fun version member =>
        if member.1 = asciiUnits "canonicalizationVersion" then
          some member.2
        else version) none
      if isVersion version then
        .ok (members.filter fun member =>
          decide (member.1 ≠ asciiUnits "digest"))
      else .error .version
  | _ => .error .notAnObject

/-- The octets before the document: `${DIGEST_PREFIX}\n${context}\n`. -/
def digestPrefix (context : DigestContext) : Bytes :=
  utf8 ("aerial-rescue/canonical/v1\n" ++ context.text ++ "\n").toList

/-- `digestMaterial` -/
def digestMaterial (host : Host) (context : DigestContext) (value : Json) :
    Except DigestRefusal Bytes := do
  let covered ← digestCoveredDocument value
  let document ← recast DigestRefusal.canonicalization
    (canonicalOctets host (.object covered))
  pure (digestPrefix context ++ document)

/-- `digestDocument` -/
def digestDocument (host : Host) (context : DigestContext) (value : Json) :
    Except DigestRefusal String := do
  let material ← digestMaterial host context value
  pure (host.sha256 material)

/-- The document `orderedDashboardEventDigest` makes of an event. -/
def orderedEventMembers (auditOrdinal event : Json) : Json.Members :=
  [(asciiUnits "auditOrdinal", auditOrdinal),
    (asciiUnits "canonicalizationVersion", .integer false 1),
    (asciiUnits "event", event)]

/-- What `orderedDashboardEventDigest` hashes: the event with its ordinal. -/
def orderedEventDocument (auditOrdinal event : Json) : Json :=
  .object (orderedEventMembers auditOrdinal event)

/-! ## Texts -/

variable {host : Host}

theorem paddedHexadecimal_control :
    ∀ code < 32,
      paddedHexadecimal code =
        ['0', '0', hexDigit (code / 16), hexDigit (code % 16)] := by
  decide

/-- Both languages escape a character alike. -/
theorem escapeCharacter_eq : escapeCharacter = escape := by
  funext character
  have control : charCodeAt character < 0x20 ↔ character < ' ' := by
    have space : character < ' ' ↔ character.toNat < 32 := Iff.rfl
    rw [space, charCodeAt]
    split <;> omega
  unfold escapeCharacter escape
  by_cases low : character < ' '
  · have small : character.toNat < 32 := low
    have code : charCodeAt character = character.toNat := by
      rw [charCodeAt, if_pos (by omega)]
    rw [if_pos (control.2 low), if_pos low, code,
      paddedHexadecimal_control _ small]
    rfl
  · rw [if_neg fun below => low (control.1 below), if_neg low]

theorem utf8_length (text : String) :
    (utf8 text.toList).length = text.utf8ByteSize := by
  rw [utf8_toList]
  rfl

/-- Both languages accept the same texts and write them alike. -/
theorem encodeUnits_agrees (value : Units) :
    Agree (encodeUnits host value) (encodeText host (codePoints value)) := by
  unfold encodeUnits assertScalarString encodeText
  cases paired : (codePoints value).any isSurrogate with
  | true => exact Agree.refuse
  | false =>
      unfold encodeString
      simp only [ensure, if_true, bind, Except.bind, utf8_length,
        escapeCharacter_eq, Bool.false_eq_true, if_false]
      split
      · rename_i long
        rw [if_pos (show maxStringBytes < _ from long)]
        exact Agree.refuse
      · rename_i short
        rw [if_neg (show ¬maxStringBytes < _ from short)]
        exact fun text => by simp

/-! ## Keys -/

/-- The browser accepts the keys of the canonical form. -/
theorem validatedKey_ok {key : Units} :
    validatedKey key = .ok () ↔
      ∃ text, CanonicalKey text ∧ key = asciiUnits text := by
  simp only [validatedKey, bind_eq_ok, ensure_eq_ok, exists_const]
  constructor
  · rintro ⟨short, formed⟩
    rcases matchesKeyPattern_iff.1 formed with
      ⟨first, rest, points, lower, each⟩
    have ascii : ∀ character ∈ first :: rest, character.toNat < 128 := by
      intro character member
      rcases List.mem_cons.1 member with rfl | later
      · exact isAlphanumeric_ascii (by simp [isAlphanumeric, lower])
      · exact isAlphanumeric_ascii (List.all_eq_true.1 each _ later)
    have units := units_of_codePoints key ascii points
    have length : key.length = (first :: rest).length := by
      rw [units, List.length_map]
    refine ⟨String.ofList (first :: rest),
      ⟨?_, first, rest, String.toList_ofList, lower, each⟩, ?_⟩
    · rw [String.length_ofList, ← length]
      exact short
    · rw [asciiUnits, String.toList_ofList]
      exact units
  · rintro ⟨text, canonical, rfl⟩
    have accepted := keyOf_eq_ok.2 ⟨canonical, rfl⟩
    unfold keyOf at accepted
    split at accepted
    · cases accepted
    · split at accepted
      · rename_i formed
        refine ⟨?_, formed⟩
        rw [asciiUnits, List.length_map, String.length_toList]
        exact canonical.1
      · cases accepted

theorem asciiUnits_lt_iff :
    ∀ {left right : List Char},
      (∀ character ∈ left, character.toNat < 128) →
      (∀ character ∈ right, character.toNat < 128) →
      ((left.map fun character => UInt16.ofNat character.toNat) <
          (right.map fun character => UInt16.ofNat character.toNat) ↔
        left < right)
  | _, [], _, _ => by simp
  | [], _ :: _, _, _ => by simp
  | first :: rest, second :: others, leftAscii, rightAscii => by
      have one := toNat_ofNat_of_ascii (leftAscii first List.mem_cons_self)
      have two := toNat_ofNat_of_ascii (rightAscii second List.mem_cons_self)
      have less :
          UInt16.ofNat first.toNat < UInt16.ofNat second.toNat ↔
            first < second := by
        rw [UInt16.lt_iff_toNat_lt, one, two]
        rfl
      have same :
          UInt16.ofNat first.toNat = UInt16.ofNat second.toNat ↔
            first = second := by
        rw [← UInt16.toNat_inj, one, two]
        exact Char.toNat_inj
      simp only [List.map_cons, List.cons_lt_cons_iff, less, same]
      rw [asciiUnits_lt_iff
        (fun character member =>
          leftAscii character (List.mem_cons_of_mem _ member))
        fun character member =>
          rightAscii character (List.mem_cons_of_mem _ member)]

/-- Code units order canonical keys as code points do. -/
theorem asciiUnits_le_iff {left right : String} (leftKey : CanonicalKey left)
    (rightKey : CanonicalKey right) :
    asciiUnits left ≤ asciiUnits right ↔ left ≤ right :=
  not_congr (asciiUnits_lt_iff rightKey.ascii leftKey.ascii)

/-! ## Numbers -/

/-- A numeral that is no integer token stands for a safe integer. -/
def IsSafeInteger (value : Double) : Prop :=
  ∃ integer, value.integer? = some integer ∧ integer.natAbs ≤ maxSafeNumber

theorem encodeInteger_eq {value : Int} :
    encodeInteger value =
      if maxSafeNumber < value.natAbs then .error .integerRange
      else .ok (toString value).toList := by
  unfold encodeInteger
  by_cases large : maxSafeNumber < value.natAbs
  · rw [if_pos large, if_pos (by simp [maxSafeInteger, maxSafeNumber] at *; omega)]
  · rw [if_neg large, if_neg (by simp [maxSafeInteger, maxSafeNumber] at *; omega)]

/-- Both languages accept the same integers and write them alike. -/
theorem encodeNumber_ofInteger (negative : Bool) (magnitude : Nat) :
    Agree (encodeNumber (ofInteger negative magnitude))
      (encodeInteger (signed negative magnitude)) := by
  rw [encodeInteger_eq, signed_natAbs]
  by_cases small : magnitude < 2 ^ 53
  · rw [encodeNumber, integer?_ofInteger small]
    dsimp only
    rw [signed_natAbs]
    split
    · exact Agree.refuse
    · exact fun text => by simp
  · have outside : maxSafeNumber < magnitude := by
      unfold maxSafeNumber
      omega
    rw [if_pos outside, encodeNumber]
    cases rounded : (ofInteger negative magnitude).integer? with
    | none => exact Agree.refuse
    | some integer =>
        have large :=
          le_of_integer?_ofInteger (Nat.not_lt.1 small) rounded
        dsimp only
        rw [if_pos (by unfold maxSafeNumber; omega)]
        exact Agree.refuse

/-- The browser refuses a number that is not a safe integer. -/
theorem encodeNumber_unsafe {value : Double}
    (fractional : ¬IsSafeInteger value) :
    ∃ refusal, encodeNumber value = .error refusal := by
  unfold encodeNumber
  split
  · exact ⟨_, rfl⟩
  · rename_i integer found
    split
    · exact ⟨_, rfl⟩
    · rename_i small
      exact absurd ⟨integer, found, Nat.not_lt.1 small⟩ fractional

/-! ## Objects -/

theorem encodeJsonMembers_eq_map (members : Json.Members) :
    encodeJsonMembers host members =
      members.map fun member => (member.1, encodeJson host member.2) := by
  induction members with
  | nil => rfl
  | cons first rest inductionHypothesis =>
      rw [encodeJsonMembers, inductionHypothesis]
      rfl

theorem encodeValuesOf_eq_map (members : Json.Members) :
    encodeValuesOf host members =
      members.map fun member => (member.1, encodeValue host member.2) := by
  induction members with
  | nil => rfl
  | cons first rest inductionHypothesis =>
      rw [encodeValuesOf, inductionHypothesis]
      rfl

/-- Every key of the members has the canonical form. -/
def CanonicalKeys (members : Json.Members) : Prop :=
  ∀ member ∈ members,
    ∃ text, CanonicalKey text ∧ member.1 = asciiUnits text

/-- The text of a key, once its units are known to be ASCII. -/
def keyText (key : Units) : String :=
  scalars (codePoints key)

theorem keyText_asciiUnits {text : String} (canonical : CanonicalKey text) :
    keyText (asciiUnits text) = text := by
  rw [keyText, (codePoints_eq_iff canonical.ascii).2 rfl, scalars_map,
    String.ofList_toList]

/-- The members of an object in the order of their keys. -/
def sortUnits (members : Json.Members) : Json.Members :=
  members.insertionSort fun left right => left.1 ≤ right.1

theorem canonicalKeys_sortUnits {members : Json.Members}
    (keys : CanonicalKeys members) : CanonicalKeys (sortUnits members) :=
  fun member among => keys member ((List.mem_insertionSort
    fun left right : Units × Json => left.1 ≤ right.1).1 among)

/-- The browser encodes an object with canonical keys in their order. -/
theorem encodeMembersOf_keys {members : Json.Members}
    (keys : CanonicalKeys members) :
    encodeMembersOf host (encodeValuesOf host members) = (do
      let parts ← (sortUnits members).mapM fun member => do
        let name ← encodeUnits host member.1
        let item ← encodeValue host member.2
        pure (name ++ [':'] ++ item)
      pure (['{'] ++ joinComma parts ++ ['}'])) := by
  have checks :
      ((encodeValuesOf host members).mapM fun member =>
        validatedKey member.1) =
          .ok ((encodeValuesOf host members).map fun _ => ()) := by
    refine mapM_eq_ok_map fun member among => ?_
    rw [encodeValuesOf_eq_map] at among
    rcases List.mem_map.1 among with ⟨held, listed, rfl⟩
    exact validatedKey_ok.2 (keys held listed)
  have sorted :
      (encodeValuesOf host members).insertionSort
          (fun left right => left.1 ≤ right.1) =
        (sortUnits members).map fun member =>
          (member.1, encodeValue host member.2) := by
    rw [encodeValuesOf_eq_map, sortUnits]
    exact (List.map_insertionSort
      (fun left right : Units × Json => left.1 ≤ right.1)
      (fun left right : Units × Except CanonicalRefusal (List Char) =>
        left.1 ≤ right.1) _ _ fun _ _ _ _ => Iff.rfl).symm
  rw [encodeMembersOf, validatedObjectMembers, checks]
  simp only [bind, Except.bind, pure, Except.pure]
  rw [sorted, List.mapM_map]
  rfl

/-- Python encodes an object with canonical keys in the same order. -/
theorem encodeObject_keys {members : Json.Members}
    (keys : CanonicalKeys members) :
    encodeObject host (encodeJsonMembers host members) = (do
      let parts ← (sortUnits members).mapM fun member => do
        let name ← encodeString host (keyText member.1)
        let item ← encodeJson host member.2
        pure (name ++ [':'] ++ item)
      pure (['{'] ++ joinComma parts ++ ['}'])) := by
  have keyed :
      ((encodeJsonMembers host members).mapM fun member => do
        let key ← keyOf (codePoints member.1)
        pure (key, member.2)) =
          .ok ((encodeJsonMembers host members).map fun member =>
            (keyText member.1, member.2)) := by
    refine mapM_eq_ok_map fun member among => ?_
    rw [encodeJsonMembers_eq_map] at among
    rcases List.mem_map.1 among with ⟨held, listed, rfl⟩
    rcases keys held listed with ⟨text, canonical, units⟩
    dsimp only
    rw [units, keyOf_eq_ok.2 ⟨canonical, rfl⟩,
      keyText_asciiUnits canonical]
    rfl
  have sorted :
      ((encodeJsonMembers host members).map fun member =>
          (keyText member.1, member.2)).insertionSort
          (fun left right => left.1 ≤ right.1) =
        (sortUnits members).map fun member =>
          (keyText member.1, encodeJson host member.2) := by
    rw [encodeJsonMembers_eq_map, List.map_map, sortUnits]
    refine (List.map_insertionSort
      (fun left right : Units × Json => left.1 ≤ right.1)
      (fun left right : String × Except Refusal (List Char) =>
        left.1 ≤ right.1) _ _ ?_).symm
    intro left leftListed right rightListed
    rcases keys left leftListed with ⟨one, oneKey, leftUnits⟩
    rcases keys right rightListed with ⟨two, twoKey, rightUnits⟩
    dsimp only [Function.comp_apply]
    rw [leftUnits, rightUnits, keyText_asciiUnits oneKey,
      keyText_asciiUnits twoKey, asciiUnits_le_iff oneKey twoKey]
  rw [encodeObject, keyed]
  simp only [bind, Except.bind]
  rw [sorted, List.mapM_map]
  rfl

/-- Neither language encodes an object with a key of another form. -/
theorem encodeMembersOf_otherKey {members : Json.Members}
    (keys : ¬CanonicalKeys members) (text : List Char) :
    encodeMembersOf host (encodeValuesOf host members) ≠ .ok text := by
  intro encoded
  simp only [encodeMembersOf, validatedObjectMembers, bind_eq_ok] at encoded
  rcases encoded with ⟨_, ⟨_, checked, _⟩, _⟩
  refine keys fun member among => ?_
  rw [encodeValuesOf_eq_map] at checked
  rcases mapM_ok_of_mem checked
    (List.mem_map.2 ⟨member, among, rfl⟩) with ⟨_, accepted⟩
  exact validatedKey_ok.1 accepted

theorem encodeObject_otherKey {members : Json.Members}
    (keys : ¬CanonicalKeys members) (text : List Char) :
    encodeObject host (encodeJsonMembers host members) ≠ .ok text := by
  intro encoded
  simp only [encodeObject, bind_eq_ok] at encoded
  rcases encoded with ⟨_, checked, _⟩
  refine keys fun member among => ?_
  rw [encodeJsonMembers_eq_map] at checked
  rcases mapM_ok_of_mem checked
    (List.mem_map.2 ⟨member, among, rfl⟩) with ⟨_, accepted⟩
  simp only [bind_eq_ok] at accepted
  rcases accepted with ⟨key, formed, _⟩
  exact ⟨key, keyOf_eq_ok.1 formed⟩

/-- Languages that agree on the values of an object agree on the object. -/
theorem encodeMembersOf_agrees {members : Json.Members}
    (each : ∀ member ∈ members,
      Agree (encodeValue host member.2) (encodeJson host member.2)) :
    Agree (encodeMembersOf host (encodeValuesOf host members))
      (encodeObject host (encodeJsonMembers host members)) := by
  by_cases keys : CanonicalKeys members
  · rw [encodeMembersOf_keys keys, encodeObject_keys keys]
    refine Agree.bind (Agree.mapM fun member among => ?_)
      fun parts => Agree.pure _
    have listed : member ∈ members := (List.mem_insertionSort
      fun left right : Units × Json => left.1 ≤ right.1).1 among
    have name : Agree (encodeUnits host member.1)
        (encodeString host (keyText member.1)) := by
      rcases keys member listed with ⟨text, canonical, units⟩
      have scalar : encodeText host (codePoints member.1) =
          encodeString host (keyText member.1) := by
        rw [encodeText, units, (codePoints_eq_iff canonical.ascii).2 rfl,
          keyText, (codePoints_eq_iff canonical.ascii).2 rfl]
        rw [if_neg (by simp [isSurrogate])]
      rw [← scalar]
      exact encodeUnits_agrees member.1
    refine Agree.bind name fun written => ?_
    exact Agree.bind (each member listed) fun item => Agree.pure _
  · intro text
    exact iff_of_false (encodeMembersOf_otherKey keys text)
      (encodeObject_otherKey keys text)

/-! ## Values -/

mutual

/-- No numeral with a fraction or an exponent stands for a safe integer. -/
def IntegersPlain : Json → Prop
  | .real value => ¬IsSafeInteger value
  | .array items => ItemsPlain items
  | .object members => MembersPlain members
  | _ => True

def ItemsPlain : List Json → Prop
  | [] => True
  | item :: rest => IntegersPlain item ∧ ItemsPlain rest

def MembersPlain : Json.Members → Prop
  | [] => True
  | (_, value) :: rest => IntegersPlain value ∧ MembersPlain rest

end

theorem membersPlain_iff {members : Json.Members} :
    MembersPlain members ↔ ∀ member ∈ members, IntegersPlain member.2 := by
  induction members with
  | nil => simp [MembersPlain]
  | cons first rest inductionHypothesis =>
      rw [MembersPlain, inductionHypothesis, List.forall_mem_cons]

mutual

/-- Both languages accept the same values and write them alike. -/
theorem encodeValue_agrees :
    ∀ {value : Json}, IntegersPlain value →
      Agree (encodeValue host value) (encodeJson host value)
  | .null, _ => fun text => by simp [encodeValue, encodeJson]
  | .bool true, _ => fun text => by simp [encodeValue, encodeJson]
  | .bool false, _ => fun text => by simp [encodeValue, encodeJson]
  | .integer negative magnitude, _ =>
      encodeNumber_ofInteger negative magnitude
  | .real value, plain => by
      rcases encodeNumber_unsafe plain with ⟨refusal, refused⟩
      rw [encodeValue, encodeJson, refused]
      exact Agree.refuse
  | .text units, _ => encodeUnits_agrees units
  | .array items, plain =>
      Agree.bind (encodeValues_agrees plain) fun parts => Agree.pure _
  | .object members, plain =>
      encodeMembersOf_agrees (encodeValuesOf_agrees plain)

theorem encodeValues_agrees :
    ∀ {items : List Json}, ItemsPlain items →
      Agree (encodeValues host items) (encodeJsonItems host items)
  | [], _ => fun text => by simp [encodeValues, encodeJsonItems]
  | item :: rest, plain =>
      Agree.bind (encodeValue_agrees plain.1) fun first =>
        Agree.bind (encodeValues_agrees plain.2) fun others => Agree.pure _

theorem encodeValuesOf_agrees :
    ∀ {members : Json.Members}, MembersPlain members →
      ∀ member ∈ members,
        Agree (encodeValue host member.2) (encodeJson host member.2)
  | [], _, _, among => nomatch among
  | (key, value) :: rest, plain, member, among => by
      rcases List.mem_cons.1 among with rfl | later
      · exact encodeValue_agrees plain.1
      · exact encodeValuesOf_agrees plain.2 member later

end

theorem canonicalOctets_agrees {value : Json} (plain : IntegersPlain value) :
    Agree (canonicalOctets host value) (canonicalJson host value) :=
  Agree.bind (encodeValue_agrees plain) fun _ => Agree.pure _

/-! ## Hashed material -/

/-- The last assignment of a loop over distinct keys is the only one. -/
theorem foldl_version {name : Units} {members : Json.Members}
    (distinct : (members.map Prod.fst).Nodup) (start : Option Json) :
    (members.foldl (fun version member =>
        if member.1 = name then some member.2 else version) start) =
      ((members.find? fun member => member.1 = name).map Prod.snd).or
        start := by
  induction members generalizing start with
  | nil => rfl
  | cons first rest inductionHypothesis =>
      rw [List.map_cons, List.nodup_cons] at distinct
      rw [List.foldl_cons, inductionHypothesis distinct.2]
      by_cases same : first.1 = name
      · have later :
            (rest.find? fun member => member.1 = name) = none := by
          rw [List.find?_eq_none]
          intro member among equal
          have held : member.1 = name := of_decide_eq_true equal
          refine distinct.1 (List.mem_map.2 ⟨member, among, ?_⟩)
          rw [held, same]
        rw [later, if_pos same, List.find?_cons_of_pos (by simp [same])]
        rfl
      · rw [if_neg same, List.find?_cons_of_neg (by simp [same])]

/-- Both languages read a version member alike. -/
theorem isVersion_eq {version : Option Json}
    (plain : ∀ value ∈ version, IntegersPlain value) :
    isVersion version = declaresVersion version := by
  cases version with
  | none => rfl
  | some value =>
      cases value with
      | integer negative magnitude =>
          simp only [isVersion, Option.bind_some, numberOf, declaresVersion]
          congr 1
          rw [eq_iff_iff]
          by_cases small : magnitude < 2 ^ 53
          · rw [integer?_ofInteger small, Option.some.injEq]
          · refine iff_of_false (fun one => ?_) fun one => ?_
            · have large :=
                le_of_integer?_ofInteger (Nat.not_lt.1 small) one
              exact absurd large (by decide)
            · have size := signed_natAbs negative magnitude
              rw [one] at size
              change 1 = magnitude at size
              omega
      | real number =>
          have fractional := plain _ rfl
          have other : number.integer? ≠ some 1 := fun one =>
            fractional ⟨1, one, by decide⟩
          simp [isVersion, numberOf, declaresVersion, other]
      | _ => rfl

theorem lookup_eq {name : String} {members : Json.Members}
    (ascii :
      (name.toList.all fun character => character.toNat < 128) = true) :
    lookup name members =
      (members.find? fun member => member.1 = asciiUnits name).map
        Prod.snd := by
  unfold lookup
  simp only [codePoints_eq_iff (ascii_of_all ascii)]

theorem omitting_eq {name : String} {members : Json.Members}
    (ascii :
      (name.toList.all fun character => character.toNat < 128) = true) :
    omitting name members =
      members.filter fun member => decide (member.1 ≠ asciiUnits name) := by
  unfold omitting
  simp only [ne_eq, codePoints_eq_iff (ascii_of_all ascii)]

/-- Both languages cover the same members of a versioned payload. -/
theorem digestCoveredDocument_eq {members : Json.Members}
    (distinct : (members.map Prod.fst).Nodup)
    (plain : MembersPlain members) :
    digestCoveredDocument (.object members) =
      if declaresVersion (lookup "canonicalizationVersion" members) then
        .ok (omitting "digest" members)
      else .error .version := by
  have read : ∀ value ∈ lookup "canonicalizationVersion" members,
      IntegersPlain value := by
    intro value held
    rcases Option.map_eq_some_iff.1 held with ⟨member, found, rfl⟩
    exact membersPlain_iff.1 plain member (List.mem_of_find?_eq_some found)
  have version := isVersion_eq read
  rw [lookup_eq (by decide +kernel)] at version
  rw [digestCoveredDocument, foldl_version distinct, Option.or_none,
    version, ← lookup_eq (by decide +kernel), omitting_eq (by decide +kernel)]

theorem digestPrefix_eq {context : DigestContext} {other : Context}
    (same : context.text = other.text) :
    digestPrefix context = header other := by
  rw [digestPrefix, header, same]

/-- Material over the same covered members is the same. -/
theorem coveredMaterial_agrees {context : DigestContext} {other : Context}
    {covered : Json.Members} (same : context.text = other.text)
    (plain : MembersPlain covered) :
    Agree (do
        let document ← recast DigestRefusal.canonicalization
          (canonicalOctets host (.object covered))
        pure (digestPrefix context ++ document))
      (coveredMaterial host other covered) := by
  rw [coveredMaterial, digestPrefix_eq same]
  refine Agree.bind (Agree.recast ?_ _ _) fun document => Agree.pure _
  exact @canonicalOctets_agrees host (.object covered) plain

/-- A payload without the member left out is covered whole. -/
theorem omitting_absent {name : String} {members : Json.Members}
    (absent : lookup name members = none) :
    omitting name members = members := by
  unfold omitting
  rw [List.filter_eq_self]
  intro member among
  rw [lookup, Option.map_eq_none_iff, List.find?_eq_none] at absent
  have other := absent member among
  simpa using other

/-- Both languages hash the same material of a payload, whatever member the
Python digest leaves out, when neither leaves out a member it has. -/
theorem digestMaterial_agrees {context : DigestContext} {other : Context}
    {members : Json.Members} {name : String}
    (same : context.text = other.text)
    (distinct : (members.map Prod.fst).Nodup)
    (plain : MembersPlain members)
    (covers : omitting "digest" members = omitting name members) :
    Agree (digestMaterial host context (.object members))
      (payloadMaterial host other name (.object members)) := by
  rw [digestMaterial, payloadMaterial, digestCoveredDocument_eq distinct
    plain, coveredJson, covers]
  split
  · refine coveredMaterial_agrees same (membersPlain_iff.2 ?_)
    intro member among
    exact membersPlain_iff.1 plain member (List.mem_of_mem_filter among)
  · exact Agree.refuse

/-- Only an object is digested. -/
theorem digestMaterial_other {context : DigestContext} {other : Context}
    {value : Json} {name : String}
    (object : ∀ members, value ≠ .object members) :
    Agree (digestMaterial host context value)
      (payloadMaterial host other name value) := by
  cases value with
  | object members => exact absurd rfl (object members)
  | _ => exact Agree.refuse

/-- Python writes the wrapped event in the order the browser does. -/
theorem canonicalJson_wrapped (auditOrdinal event : Json) :
    canonicalJson host (.object
        [(asciiUnits "canonicalizationVersion", .integer false 1),
          (asciiUnits "auditOrdinal", auditOrdinal),
          (asciiUnits "event", event)]) =
      canonicalJson host (orderedEventDocument auditOrdinal event) := by
  have ordinal : CanonicalKey "auditOrdinal" :=
    canonicalKey_isOk.1 (by decide)
  have version : CanonicalKey "canonicalizationVersion" :=
    canonicalKey_isOk.1 (by decide)
  have wrapped : CanonicalKey "event" := canonicalKey_isOk.1 (by decide)
  have first : asciiUnits "auditOrdinal" ≤
      asciiUnits "canonicalizationVersion" := by decide
  have second : asciiUnits "canonicalizationVersion" ≤
      asciiUnits "event" := by decide
  have third : ¬asciiUnits "canonicalizationVersion" ≤
      asciiUnits "auditOrdinal" := by decide
  have order :
      sortUnits
          [(asciiUnits "canonicalizationVersion", .integer false 1),
            (asciiUnits "auditOrdinal", auditOrdinal),
            (asciiUnits "event", event)] =
        sortUnits (orderedEventMembers auditOrdinal event) := by
    have direct : asciiUnits "auditOrdinal" ≤ asciiUnits "event" := by decide
    simp [orderedEventMembers, sortUnits, List.insertionSort,
      List.orderedInsert, first, second, third, direct]
  rw [canonicalJson, canonicalJson, orderedEventDocument, encodeJson,
    encodeJson, encodeObject_keys, encodeObject_keys, order]
  · intro member among
    simp only [orderedEventMembers, List.mem_cons, List.not_mem_nil,
      or_false] at among
    rcases among with rfl | rfl | rfl
    · exact ⟨_, ordinal, rfl⟩
    · exact ⟨_, version, rfl⟩
    · exact ⟨_, wrapped, rfl⟩
  · intro member among
    simp only [List.mem_cons, List.not_mem_nil, or_false] at among
    rcases among with rfl | rfl | rfl
    · exact ⟨_, version, rfl⟩
    · exact ⟨_, ordinal, rfl⟩
    · exact ⟨_, wrapped, rfl⟩

/-- Both languages hash the same material of an ordered event. -/
theorem orderedEvent_agrees {auditOrdinal event : Json}
    (ordinal : IntegersPlain auditOrdinal) (plain : IntegersPlain event) :
    Agree
      (digestMaterial host .orderedDashboardEvent
        (orderedEventDocument auditOrdinal event))
      (orderedEventMaterial host auditOrdinal event) := by
  have members : MembersPlain (orderedEventMembers auditOrdinal event) :=
    ⟨ordinal, trivial, plain, trivial⟩
  have distinct :
      ((orderedEventMembers auditOrdinal event).map Prod.fst).Nodup := by
    simp only [orderedEventMembers, List.map_cons, List.map_nil]
    decide
  have declared : declaresVersion (lookup "canonicalizationVersion"
      (orderedEventMembers auditOrdinal event)) = true := by
    have other : asciiUnits "auditOrdinal" ≠
        asciiUnits "canonicalizationVersion" := by decide
    rw [lookup_eq (by decide +kernel)]
    simp [orderedEventMembers, other, declaresVersion, signed]
  have absent :
      lookup "digest" (orderedEventMembers auditOrdinal event) = none := by
    have one : asciiUnits "auditOrdinal" ≠ asciiUnits "digest" := by decide
    have two : asciiUnits "canonicalizationVersion" ≠
        asciiUnits "digest" := by decide
    have three : asciiUnits "event" ≠ asciiUnits "digest" := by decide
    rw [lookup_eq (by decide +kernel)]
    simp [orderedEventMembers, one, two, three]
  have covered := digestCoveredDocument_eq distinct members
  rw [declared, if_pos rfl, omitting_absent absent] at covered
  rw [digestMaterial, orderedEventDocument, covered, orderedEventMaterial,
    coveredMaterial, canonicalJson_wrapped]
  exact coveredMaterial_agrees rfl members

/-! ## Agreement -/

/-- An object has no member of a given name. -/
def Lacks (name : String) (value : Json) : Prop :=
  ∀ members, value = .object members → lookup name members = none

/-- A versioned payload whose text is outside the first plane. -/
def astralPayload : Json :=
  .object [(asciiUnits "canonicalizationVersion", .integer false 1),
    (asciiUnits "note", .text [0xD83D, 0xDE81])]

end AerialRescue.Dashboard.CanonicalText
