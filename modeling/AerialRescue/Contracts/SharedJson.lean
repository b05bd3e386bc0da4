import AerialRescue.Contracts.CanonicalForm
import AerialRescue.Contracts.Digest
import AerialRescue.Lib.Binary64

/-!
# JSON values two languages share

A JSON value as its text gives it to any language: a text is a sequence of
UTF-16 code units, paired or not, a numeral without fraction and exponent keeps
its sign, and any other numeral is the binary64 number nearest to it.  Python
reads a text as code points, so `canonical_bytes` and the digests are written
out here for texts that may hold an unpaired surrogate.  Where no text does,
they are those of the canonical serialization.
-/

namespace AerialRescue.Contracts.SharedJson

open AerialRescue.Lib.Binary64
open AerialRescue.Lib.Guard
open AerialRescue.Contracts.Canonical
open AerialRescue.Contracts.CanonicalForm
open AerialRescue.Contracts.Digest
open AerialRescue.Contracts.JsonText

/-- A text as UTF-16 code units. -/
abbrev Units := List UInt16

/-- A JSON value before a language has taken it in. -/
inductive Json where
  | null
  | bool (value : Bool)
  /-- A numeral of a sign and digits alone. -/
  | integer (negative : Bool) (magnitude : Nat)
  /-- A numeral with a fraction or an exponent. -/
  | real (value : Double)
  | text (units : Units)
  | array (items : List Json)
  | object (members : List (Units × Json))

namespace Json

/-- The members of an object. -/
abbrev Members := List (Units × Json)

mutual

/-- No object of the value repeats a key. -/
def Distinct : Json → Prop
  | .array items => ItemsDistinct items
  | .object members => (members.map Prod.fst).Nodup ∧ MembersDistinct members
  | _ => True

def ItemsDistinct : List Json → Prop
  | [] => True
  | item :: rest => item.Distinct ∧ ItemsDistinct rest

def MembersDistinct : Members → Prop
  | [] => True
  | (_, value) :: rest => value.Distinct ∧ MembersDistinct rest

end

end Json

/-! ## Code points -/

/-- The number of a surrogate pair's character. -/
def pairNumber (high low : Nat) : Nat :=
  0x10000 + (high - 0xD800) * 1024 + (low - 0xDC00)

/-- Two units are the halves of one character. -/
def isPair (high low : UInt16) : Bool :=
  0xD800 ≤ high.toNat && high.toNat < 0xDC00 && 0xDC00 ≤ low.toNat &&
    low.toNat ≤ 0xDFFF

/-- The code points of a text, its paired surrogates joined. -/
def codePoints : Units → List CodeUnit
  | [] => []
  | [last] => [codeUnit last.toNat]
  | first :: second :: rest =>
      if isPair first second then
        .scalar (Char.ofNat (pairNumber first.toNat second.toNat)) ::
          codePoints rest
      else codeUnit first.toNat :: codePoints (second :: rest)

def isSurrogate : CodeUnit → Bool
  | .scalar _ => false
  | .surrogate _ => true

/-- The characters of a text without surrogates. -/
def scalars (points : List CodeUnit) : String :=
  String.ofList (points.filterMap fun point =>
    match point with
    | .scalar character => some character
    | .surrogate _ => none)

def isAlphanumericPoint : CodeUnit → Bool
  | .scalar character => isAlphanumeric character
  | .surrogate _ => false

/-- `[a-z][a-zA-Z0-9]*`, matched to the end of the text. -/
def matchesKeyPattern : List CodeUnit → Bool
  | .scalar first :: rest => isLower first && rest.all isAlphanumericPoint
  | _ => false

/-- The units of an ASCII text. -/
def asciiUnits (text : String) : Units :=
  text.toList.map fun character => UInt16.ofNat character.toNat

/-! ## The Python encoder -/

/-- `_canonical_key` -/
def keyOf (points : List CodeUnit) : Except Refusal String :=
  if maxKeyLength < points.length then .error .keyLength
  else if matchesKeyPattern points then .ok (scalars points)
  else .error .keyForm

/-- `_encode_string`, with `_reject_lone_surrogate`. -/
def encodeText (host : Host) (points : List CodeUnit) :
    Except Refusal (List Char) :=
  if points.any isSurrogate then .error .loneSurrogate
  else encodeString host (scalars points)

/-- `_encode_object`, over the encodings of the members' values. -/
def encodeObject (host : Host)
    (members : List (Units × Except Refusal (List Char))) :
    Except Refusal (List Char) := do
  let keyed ← members.mapM fun member => do
    let key ← keyOf (codePoints member.1)
    pure (key, member.2)
  let sorted := keyed.insertionSort fun left right => left.1 ≤ right.1
  let parts ← sorted.mapM fun member => do
    let name ← encodeString host member.1
    let item ← member.2
    pure (name ++ [':'] ++ item)
  pure (['{'] ++ joinComma parts ++ ['}'])

mutual

/-- `_encode` -/
def encodeJson (host : Host) : Json → Except Refusal (List Char)
  | .null => .ok "null".toList
  | .bool true => .ok "true".toList
  | .bool false => .ok "false".toList
  | .integer negative magnitude => encodeInteger (signed negative magnitude)
  | .real _ => .error .unsupportedType
  | .text units => encodeText host (codePoints units)
  | .array items => do
      let parts ← encodeJsonItems host items
      pure (['['] ++ joinComma parts ++ [']'])
  | .object members => encodeObject host (encodeJsonMembers host members)

def encodeJsonItems (host : Host) :
    List Json → Except Refusal (List (List Char))
  | [] => .ok []
  | item :: rest => do
      let first ← encodeJson host item
      let others ← encodeJsonItems host rest
      pure (first :: others)

def encodeJsonMembers (host : Host) :
    Json.Members → List (Units × Except Refusal (List Char))
  | [] => []
  | (key, value) :: rest =>
      (key, encodeJson host value) :: encodeJsonMembers host rest

end

/-- `canonical_bytes` -/
def canonicalJson (host : Host) (value : Json) : Except Refusal Bytes := do
  let text ← encodeJson host value
  pure (utf8 text)

/-! ## The Python digests -/

/-- What escapes a digest of a JSON value. -/
inductive JsonDigestFailure where
  /-- `DigestError` with `NOT_AN_OBJECT` -/
  | notAnObject
  /-- `DigestError` with `VERSION` -/
  | version
  /-- `CanonicalizationError` -/
  | canonicalization (refusal : Refusal)
deriving DecidableEq

/-- `payload.get(name)`, for an ASCII name. -/
def lookup (name : String) (members : Json.Members) : Option Json :=
  (members.find? fun member =>
    codePoints member.1 = name.toList.map CodeUnit.scalar).map Prod.snd

/-- The members whose key is not a given ASCII name. -/
def omitting (name : String) (members : Json.Members) : Json.Members :=
  members.filter fun member =>
    codePoints member.1 ≠ name.toList.map CodeUnit.scalar

/-- `type(version) is int and version == CANONICALIZATION_VERSION` -/
def declaresVersion : Option Json → Bool
  | some (.integer negative magnitude) => signed negative magnitude = 1
  | _ => false

/-- `_covered_members` -/
def coveredJson (payload : Json) (omitted : String) :
    Except JsonDigestFailure Json.Members :=
  match payload with
  | .object members =>
      if declaresVersion (lookup "canonicalizationVersion" members) then
        .ok (omitting omitted members)
      else .error .version
  | _ => .error .notAnObject

/-- What `_digest_covered` hashes. -/
def coveredMaterial (host : Host) (context : Context)
    (covered : Json.Members) : Except JsonDigestFailure Bytes := do
  let bytes ← recast JsonDigestFailure.canonicalization
    (canonicalJson host (.object covered))
  pure (header context ++ bytes)

/-- `_digest_covered` -/
def digestCoveredJson (host : Host) (context : Context)
    (covered : Json.Members) : Except JsonDigestFailure String := do
  let material ← coveredMaterial host context covered
  pure (host.sha256 material)

/-- What a digest that omits one member hashes. -/
def payloadMaterial (host : Host) (context : Context) (omitted : String)
    (payload : Json) : Except JsonDigestFailure Bytes := do
  let covered ← coveredJson payload omitted
  coveredMaterial host context covered

/-- `digest` -/
def jsonDigest (host : Host) (context : Context) (payload : Json) :
    Except JsonDigestFailure String := do
  let material ← payloadMaterial host context "digest" payload
  pure (host.sha256 material)

/-- What `proposal_digest` hashes. -/
def proposalMaterial (host : Host) (payload : Json) :
    Except JsonDigestFailure Bytes :=
  payloadMaterial host .proposal "proposalDigest" payload

/-- What `evidence_decision_digest` hashes. -/
def evidenceDecisionMaterial (host : Host) (payload : Json) :
    Except JsonDigestFailure Bytes :=
  payloadMaterial host .evidence "evidenceDecisionDigest" payload

/-- What `ordered_dashboard_event_digest` hashes. -/
def orderedEventMaterial (host : Host) (auditOrdinal event : Json) :
    Except JsonDigestFailure Bytes :=
  coveredMaterial host .orderedDashboardEvent
    [(asciiUnits "canonicalizationVersion", .integer false 1),
      (asciiUnits "auditOrdinal", auditOrdinal), (asciiUnits "event", event)]

/-! ## ASCII texts -/

/-- A scalar value is below the surrogates or above them. -/
theorem char_not_surrogate (character : Char) :
    character.toNat < 0xD800 ∨
      0xDFFF < character.toNat ∧ character.toNat < 0x110000 :=
  character.valid

theorem codeUnit_of_char (character : Char) :
    codeUnit character.toNat = .scalar character := by
  have valid := char_not_surrogate character
  rw [codeUnit, if_neg (by omega), Char.ofNat_toNat]

theorem toNat_ofNat_of_ascii {character : Char}
    (ascii : character.toNat < 128) :
    (UInt16.ofNat character.toNat).toNat = character.toNat := by
  rw [UInt16.toNat_ofNat']
  omega

theorem isPair_of_ascii {character : Char} {second : UInt16}
    (ascii : character.toNat < 128) :
    isPair (UInt16.ofNat character.toNat) second = false := by
  have small := toNat_ofNat_of_ascii ascii
  simp only [isPair, small, Bool.and_eq_false_iff, decide_eq_false_iff_not]
  omega

/-- An ASCII text has one code point for a unit. -/
theorem codePoints_map_ascii {characters : List Char}
    (ascii : ∀ character ∈ characters, character.toNat < 128) :
    codePoints (characters.map fun character =>
        UInt16.ofNat character.toNat) = characters.map CodeUnit.scalar := by
  induction characters with
  | nil => rfl
  | cons first rest inductionHypothesis =>
      have small := ascii first List.mem_cons_self
      have others := inductionHypothesis fun character member =>
        ascii character (List.mem_cons_of_mem _ member)
      cases rest with
      | nil =>
          simp only [List.map_cons, List.map_nil, codePoints,
            toNat_ofNat_of_ascii small, codeUnit_of_char]
      | cons second later =>
          simp only [List.map_cons] at others
          simp only [List.map_cons, codePoints, isPair_of_ascii small,
            toNat_ofNat_of_ascii small, codeUnit_of_char, others]
          rfl

theorem toNat_ofNat_of_isValidChar {number : Nat}
    (valid : number.isValidChar) : (Char.ofNat number).toNat = number := by
  rw [Char.ofNat, dif_pos valid]
  rfl

/-- A pair of surrogates is not an ASCII character. -/
theorem pair_not_ascii {first second : UInt16}
    (pair : isPair first second = true) :
    ¬(Char.ofNat (pairNumber first.toNat second.toNat)).toNat < 128 := by
  simp only [isPair, Bool.and_eq_true, decide_eq_true_eq] at pair
  have valid : (pairNumber first.toNat second.toNat).isValidChar := by
    right
    unfold pairNumber
    omega
  rw [toNat_ofNat_of_isValidChar valid]
  unfold pairNumber
  omega

theorem unit_of_codeUnit {unit : UInt16} {character : Char}
    (point : codeUnit unit.toNat = .scalar character) :
    unit = UInt16.ofNat character.toNat := by
  unfold codeUnit at point
  split at point
  · cases point
  · rename_i scalar
    have bounded := unit.toNat_lt
    have valid : unit.toNat.isValidChar := by
      by_cases low : unit.toNat < 0xD800
      · exact .inl low
      · right
        omega
    have same := CodeUnit.scalar.inj point
    rw [← same, toNat_ofNat_of_isValidChar valid, UInt16.ofNat_toNat]

/-- Only its own units have the code points of an ASCII text. -/
theorem units_of_codePoints (units : Units) :
    ∀ {characters : List Char},
      (∀ character ∈ characters, character.toNat < 128) →
      codePoints units = characters.map CodeUnit.scalar →
      units = characters.map fun character =>
        UInt16.ofNat character.toNat := by
  induction units using codePoints.induct with
  | case1 =>
      intro characters ascii points
      cases characters with
      | nil => rfl
      | cons first rest => cases points
  | case2 last =>
      intro characters ascii points
      rcases characters with _ | ⟨first, _ | ⟨second, rest⟩⟩
      · cases points
      · simp only [codePoints, List.map_cons, List.map_nil,
          List.cons.injEq, and_true] at points
        rw [unit_of_codeUnit points]
        rfl
      · simp [codePoints] at points
  | case3 first second rest pair inductionHypothesis =>
      intro characters ascii points
      cases characters with
      | nil => simp [codePoints, pair] at points
      | cons character others =>
          simp only [codePoints, pair, if_true, List.map_cons,
            List.cons.injEq, CodeUnit.scalar.injEq] at points
          have small := ascii character List.mem_cons_self
          rw [← points.1] at small
          exact absurd small (pair_not_ascii pair)
  | case4 first second rest single inductionHypothesis =>
      intro characters ascii points
      cases characters with
      | nil => simp [codePoints, single] at points
      | cons character others =>
          simp only [codePoints, single, Bool.false_eq_true, if_false,
            List.map_cons, List.cons.injEq] at points
          rw [unit_of_codeUnit points.1,
            inductionHypothesis
              (fun other member =>
                ascii other (List.mem_cons_of_mem _ member)) points.2]
          rfl

/-- The code points of an ASCII name are those of its units only. -/
theorem codePoints_eq_iff {units : Units} {name : String}
    (ascii : ∀ character ∈ name.toList, character.toNat < 128) :
    codePoints units = name.toList.map CodeUnit.scalar ↔
      units = asciiUnits name := by
  constructor
  · exact units_of_codePoints units ascii
  · rintro rfl
    exact codePoints_map_ascii ascii

theorem scalars_map (characters : List Char) :
    scalars (characters.map CodeUnit.scalar) =
      String.ofList characters := by
  unfold scalars
  rw [List.filterMap_map]
  congr 1
  exact List.filterMap_some

/-! ## Keys -/

theorem matchesKeyPattern_iff {points : List CodeUnit} :
    matchesKeyPattern points = true ↔
      ∃ first rest,
        points = (first :: rest).map CodeUnit.scalar ∧
          isLower first = true ∧ rest.all isAlphanumeric = true := by
  constructor
  · intro formed
    cases points with
    | nil => cases formed
    | cons point others =>
        cases point with
        | surrogate code => cases formed
        | scalar first =>
            simp only [matchesKeyPattern, Bool.and_eq_true] at formed
            have scalar : ∃ rest : List Char,
                others = rest.map CodeUnit.scalar ∧
                  rest.all isAlphanumeric = true := by
              have all := formed.2
              clear formed
              induction others with
              | nil => exact ⟨[], rfl, rfl⟩
              | cons point later inductionHypothesis =>
                  rw [List.all_cons, Bool.and_eq_true] at all
                  rcases inductionHypothesis all.2 with ⟨rest, rfl, each⟩
                  cases point with
                  | surrogate code => cases all.1
                  | scalar character =>
                      refine ⟨character :: rest, rfl, ?_⟩
                      rw [List.all_cons, Bool.and_eq_true]
                      exact ⟨all.1, each⟩
            rcases scalar with ⟨rest, rfl, each⟩
            exact ⟨first, rest, rfl, formed.1, each⟩
  · rintro ⟨first, rest, rfl, lower, each⟩
    simp only [List.map_cons, matchesKeyPattern, List.all_map, lower,
      Bool.true_and]
    exact each

/-- The pattern and the length admit the canonical keys and no other text. -/
theorem keyOf_eq_ok {units : Units} {key : String} :
    keyOf (codePoints units) = .ok key ↔
      CanonicalKey key ∧ units = asciiUnits key := by
  constructor
  · intro accepted
    unfold keyOf at accepted
    split at accepted
    · cases accepted
    · rename_i short
      split at accepted
      · rename_i formed
        rcases matchesKeyPattern_iff.1 formed with
          ⟨first, rest, points, lower, each⟩
        rw [points, scalars_map] at accepted
        rw [points, List.length_map] at short
        cases accepted
        have canonical : CanonicalKey (String.ofList (first :: rest)) := by
          refine ⟨?_, first, rest, String.toList_ofList, lower, each⟩
          rw [String.length_ofList]
          omega
        refine ⟨canonical, (codePoints_eq_iff canonical.ascii).1 ?_⟩
        rw [points, String.toList_ofList]
      · cases accepted
  · rintro ⟨canonical, rfl⟩
    have points := (codePoints_eq_iff canonical.ascii).2 rfl
    rcases canonical with ⟨short, first, rest, characters, lower, each⟩
    have formed : matchesKeyPattern (codePoints (asciiUnits key)) = true :=
      matchesKeyPattern_iff.2
        ⟨first, rest, by rw [points, characters], lower, each⟩
    have length : (codePoints (asciiUnits key)).length = key.length := by
      rw [points, List.length_map, String.length_toList]
    rw [keyOf, length, if_neg (by omega), if_pos formed, points,
      scalars_map, String.ofList_toList]

/-! ## Values without unpaired surrogates -/

/-- The units of one character: a surrogate pair outside the first plane. -/
def unitsOf (character : Char) : Units :=
  if character.toNat < 0x10000 then [UInt16.ofNat character.toNat]
  else
    [UInt16.ofNat (0xD800 + (character.toNat - 0x10000) / 1024),
      UInt16.ofNat (0xDC00 + (character.toNat - 0x10000) % 1024)]

/-- The units of a text. -/
def utf16 (text : String) : Units :=
  text.toList.flatMap unitsOf

mutual

/-- A decoded value as a JSON value; a `float` is the number it denotes. -/
def jsonOf (number : String → Double) : Value → Json
  | .null => .null
  | .bool value => .bool value
  | .int value => .integer (decide (value < 0)) value.natAbs
  | .float repr => .real (number repr)
  | .text value => .text (utf16 value)
  | .array items => .array (jsonOfItems number items)
  | .object members => .object (jsonOfMembers number members)

def jsonOfItems (number : String → Double) : List Value → List Json
  | [] => []
  | item :: rest => jsonOf number item :: jsonOfItems number rest

def jsonOfMembers (number : String → Double) :
    Value.Members → Json.Members
  | [] => []
  | (key, value) :: rest =>
      (utf16 key, jsonOf number value) :: jsonOfMembers number rest

end

variable {host : Host} {number : String → Double}

theorem signed_of_int (value : Int) :
    signed (decide (value < 0)) value.natAbs = value := by
  unfold signed
  split
  · rename_i negative
    have below := of_decide_eq_true negative
    omega
  · rename_i other
    have above : ¬ value < 0 := fun below => other (decide_eq_true below)
    omega

/-- The units of a character in front give its code point in front. -/
theorem codePoints_unitsOf (character : Char) (rest : Units) :
    codePoints (unitsOf character ++ rest) =
      .scalar character :: codePoints rest := by
  have valid := char_not_surrogate character
  unfold unitsOf
  split
  · rename_i small
    have unit :
        (UInt16.ofNat character.toNat).toNat = character.toNat := by
      rw [UInt16.toNat_ofNat']
      omega
    cases rest with
    | nil =>
        simp only [List.cons_append, List.nil_append, codePoints, unit,
          codeUnit_of_char]
    | cons second later =>
        have single :
            isPair (UInt16.ofNat character.toNat) second = false := by
          simp only [isPair, unit, Bool.and_eq_false_iff,
            decide_eq_false_iff_not]
          omega
        simp only [List.cons_append, List.nil_append, codePoints, single,
          unit, codeUnit_of_char]
        rfl
  · rename_i large
    have high : (UInt16.ofNat
        (0xD800 + (character.toNat - 0x10000) / 1024)).toNat =
          0xD800 + (character.toNat - 0x10000) / 1024 := by
      rw [UInt16.toNat_ofNat']
      omega
    have low : (UInt16.ofNat
        (0xDC00 + (character.toNat - 0x10000) % 1024)).toNat =
          0xDC00 + (character.toNat - 0x10000) % 1024 := by
      rw [UInt16.toNat_ofNat']
      omega
    have pair : isPair
        (UInt16.ofNat (0xD800 + (character.toNat - 0x10000) / 1024))
        (UInt16.ofNat (0xDC00 + (character.toNat - 0x10000) % 1024)) =
          true := by
      simp only [isPair, high, low, Bool.and_eq_true, decide_eq_true_eq]
      omega
    have same : pairNumber (0xD800 + (character.toNat - 0x10000) / 1024)
        (0xDC00 + (character.toNat - 0x10000) % 1024) =
          character.toNat := by
      unfold pairNumber
      omega
    simp only [List.cons_append, List.nil_append, codePoints, pair, if_true,
      high, low, same, Char.ofNat_toNat]

/-- A text is read back from its units. -/
theorem codePoints_utf16 (text : String) :
    codePoints (utf16 text) = text.toList.map CodeUnit.scalar := by
  unfold utf16
  induction text.toList with
  | nil => rfl
  | cons first rest inductionHypothesis =>
      rw [List.flatMap_cons, codePoints_unitsOf, inductionHypothesis]
      rfl

theorem keyOf_utf16 (key : String) :
    keyOf (codePoints (utf16 key)) = canonicalKey key := by
  rw [codePoints_utf16, keyOf, canonicalKey, List.length_map,
    String.length_toList]
  split
  · rfl
  · cases characters : key.toList with
    | nil => rfl
    | cons first rest =>
        rw [← characters, scalars_map, String.ofList_toList, characters]
        simp only [List.map_cons, matchesKeyPattern, List.all_map]
        rfl

theorem encodeText_utf16 (text : String) :
    encodeText host (codePoints (utf16 text)) = encodeString host text := by
  have paired :
      (text.toList.map CodeUnit.scalar).any isSurrogate = false := by
    rw [List.any_map, List.any_eq_false]
    intro character _ surrogate
    cases surrogate
  rw [codePoints_utf16, encodeText, paired, scalars_map,
    String.ofList_toList]
  rfl

theorem canonicalKey_eq_ok {key found : String}
    (accepted : canonicalKey key = .ok found) : found = key := by
  unfold canonicalKey at accepted
  split at accepted
  · cases accepted
  · split at accepted
    · cases accepted
    · split at accepted
      · exact (Except.ok.inj accepted).symm
      · cases accepted

/-- Keys are checked alike whether they are read from units or not. -/
theorem keyed_utf16 (members : List (String × Except Refusal (List Char))) :
    ((members.map fun member => (utf16 member.1, member.2)).mapM
      fun member => do
        let key ← keyOf (codePoints member.1)
        pure (key, member.2)) = (do
      let _ ← members.mapM fun member => canonicalKey member.1
      pure members) := by
  induction members with
  | nil => rfl
  | cons first rest inductionHypothesis =>
      rw [List.map_cons, List.mapM_cons, List.mapM_cons,
        inductionHypothesis, keyOf_utf16]
      cases formed : canonicalKey first.1 with
      | error refusal => rfl
      | ok key =>
          rw [canonicalKey_eq_ok formed]
          cases rest.mapM fun member => canonicalKey member.1 with
          | error refusal => rfl
          | ok keys => rfl

theorem encodeObject_utf16
    (members : List (String × Except Refusal (List Char))) :
    encodeObject host
        (members.map fun member => (utf16 member.1, member.2)) =
      encodeSorted host members := by
  rw [encodeObject, encodeSorted, keyed_utf16]
  cases members.mapM fun member => canonicalKey member.1 with
  | error refusal => rfl
  | ok keys => rfl

mutual

/-- On decoded values the encoder is that of the canonical serialization. -/
theorem encodeJson_jsonOf :
    ∀ value : Value, encodeJson host (jsonOf number value) = encode host value
  | .null => rfl
  | .bool true => rfl
  | .bool false => rfl
  | .int value => by rw [jsonOf, encodeJson, encode, signed_of_int]
  | .float _ => rfl
  | .text value => encodeText_utf16 value
  | .array items => by
      rw [jsonOf, encodeJson, encode, encodeJsonItems_jsonOf]
  | .object members => by
      rw [jsonOf, encodeJson, encode, encodeJsonMembers_jsonOf,
        encodeObject_utf16]

theorem encodeJsonItems_jsonOf :
    ∀ items : List Value,
      encodeJsonItems host (jsonOfItems number items) = encodeItems host items
  | [] => rfl
  | item :: rest => by
      rw [jsonOfItems, encodeJsonItems, encodeItems, encodeJson_jsonOf,
        encodeJsonItems_jsonOf]

theorem encodeJsonMembers_jsonOf :
    ∀ members : Value.Members,
      encodeJsonMembers host (jsonOfMembers number members) =
        (encodeMembers host members).map fun member =>
          (utf16 member.1, member.2)
  | [] => rfl
  | (key, value) :: rest => by
      rw [jsonOfMembers, encodeJsonMembers, encodeMembers, List.map_cons,
        encodeJson_jsonOf, encodeJsonMembers_jsonOf]

end

/-- `canonical_bytes` of a value whose texts have no unpaired surrogate. -/
theorem canonicalJson_jsonOf (value : Value) :
    canonicalJson host (jsonOf number value) = canonicalBytes host value := by
  rw [canonicalJson, canonicalBytes, encodeJson_jsonOf]

end AerialRescue.Contracts.SharedJson
