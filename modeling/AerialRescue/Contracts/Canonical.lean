import AerialRescue.Contracts.Json
import AerialRescue.Lib.Guard
import Mathlib.Data.List.Sort

/-!
# Canonical serialization

`canonical_bytes` and `decode` of the contracts package: the integer-only JSON
profile with sorted lower-camel-case keys.  The encoder is written out in full.
What it takes from the Python runtime are the three functions of `Host`: the
JSON parser, the Unicode NFC normalization and SHA-256.  Every result of the
development holds for all of them.
-/

namespace AerialRescue.Contracts.Canonical

open AerialRescue.Contracts
open AerialRescue.Lib.Guard

/-- Why a value cannot be represented in the canonical profile. -/
inductive Refusal where
  | unsupportedType
  | integerRange
  | keyForm
  | keyLength
  | stringLength
  | loneSurrogate
  | duplicateKey
  | malformedText
deriving DecidableEq

/-- What `json.loads` raises instead of returning a value. -/
inductive LoadsFailure where
  /-- No JSON text, undecodable octets, or nesting past the limit. -/
  | malformed
  /-- The pairs hook met a repeated key. -/
  | duplicateKey
  /-- Some key or text of the value carries an unpaired surrogate. -/
  | loneSurrogate
  /-- A numeral with more digits than `int` converts. -/
  | integerDigits
deriving DecidableEq

/-- What the contracts take from the Python runtime. -/
structure Host where
  /-- `json.loads` with the hook that refuses a repeated key. -/
  loads : Bytes → Except LoadsFailure Value
  /-- `unicodedata.normalize("NFC", ·)`. -/
  nfc : String → String
  /-- `hashlib.sha256(·).hexdigest()`. -/
  sha256 : Bytes → String

/-- Largest integer a TypeScript `number` represents exactly. -/
def maxSafeInteger : Int := 9007199254740991

/-- Longest admissible object key, in characters. -/
def maxKeyLength : Nat := 64

/-- Longest admissible string value, in UTF-8 bytes. -/
def maxStringBytes : Nat := 4096

/-! ## Character classes -/

/-- `[a-z]` -/
def isLower (character : Char) : Bool :=
  'a' ≤ character && character ≤ 'z'

/-- `[A-Z]` -/
def isUpper (character : Char) : Bool :=
  'A' ≤ character && character ≤ 'Z'

/-- `[0-9]` -/
def isDigit (character : Char) : Bool :=
  '0' ≤ character && character ≤ '9'

/-- `[a-zA-Z0-9]` -/
def isAlphanumeric (character : Char) : Bool :=
  isLower character || isUpper character || isDigit character

/-! ## Encoding -/

/-- One lowercase hexadecimal digit. -/
def hexDigit (value : Nat) : Char :=
  if value < 10 then Char.ofNat (48 + value) else Char.ofNat (87 + value)

/-- The canonical escape of one character, or the character itself. -/
def escape (character : Char) : List Char :=
  if character = '"' then ['\\', '"']
  else if character = '\\' then ['\\', '\\']
  else if character = '\x08' then ['\\', 'b']
  else if character = '\x0c' then ['\\', 'f']
  else if character = '\n' then ['\\', 'n']
  else if character = '\r' then ['\\', 'r']
  else if character = '\t' then ['\\', 't']
  else if character < ' ' then
    ['\\', 'u', '0', '0', hexDigit (character.toNat / 16),
      hexDigit (character.toNat % 16)]
  else [character]

/-- `_encode_string`: quoted, NFC-normalized, minimally escaped. -/
def encodeString (host : Host) (value : String) :
    Except Refusal (List Char) :=
  let normalized := host.nfc value
  if maxStringBytes < normalized.utf8ByteSize then
    .error .stringLength
  else
    .ok (['"'] ++ normalized.toList.flatMap escape ++ ['"'])

/-- `_encode_integer` -/
def encodeInteger (value : Int) : Except Refusal (List Char) :=
  if value < -maxSafeInteger ∨ maxSafeInteger < value then
    .error .integerRange
  else
    .ok (toString value).toList

/-- `_canonical_key` -/
def canonicalKey (key : String) : Except Refusal String :=
  if maxKeyLength < key.length then
    .error .keyLength
  else
    match key.toList with
    | [] => .error .keyForm
    | first :: rest =>
        if isLower first && rest.all isAlphanumeric then .ok key
        else .error .keyForm

/-- `",".join(parts)` -/
def joinComma : List (List Char) → List Char
  | [] => []
  | [part] => part
  | part :: rest => part ++ [','] ++ joinComma rest

/-- The encoded members of an object in ascending key order. -/
def encodeSorted (host : Host)
    (members : List (String × Except Refusal (List Char))) :
    Except Refusal (List Char) := do
  let _ ← members.mapM fun member => canonicalKey member.1
  let sorted := members.insertionSort fun left right => left.1 ≤ right.1
  let parts ← sorted.mapM fun member => do
    let name ← encodeString host member.1
    let item ← member.2
    pure (name ++ [':'] ++ item)
  pure (['{'] ++ joinComma parts ++ ['}'])

mutual

/-- `_encode` -/
def encode (host : Host) : Value → Except Refusal (List Char)
  | .null => .ok "null".toList
  | .bool true => .ok "true".toList
  | .bool false => .ok "false".toList
  | .int value => encodeInteger value
  | .float _ => .error .unsupportedType
  | .text value => encodeString host value
  | .array items => do
      let parts ← encodeItems host items
      pure (['['] ++ joinComma parts ++ [']'])
  | .object members => encodeSorted host (encodeMembers host members)

/-- The items of an array, in order. -/
def encodeItems (host : Host) :
    List Value → Except Refusal (List (List Char))
  | [] => .ok []
  | item :: rest => do
      let first ← encode host item
      let others ← encodeItems host rest
      pure (first :: others)

/-- The members of an object, each with the encoding of its value. -/
def encodeMembers (host : Host) :
    Value.Members → List (String × Except Refusal (List Char))
  | [] => []
  | (key, value) :: rest =>
      (key, encode host value) :: encodeMembers host rest

end

/-- `text.encode("utf-8")` -/
def utf8 (characters : List Char) : Bytes :=
  characters.flatMap String.utf8EncodeChar

/-- `canonical_bytes` -/
def canonicalBytes (host : Host) (value : Value) : Except Refusal Bytes := do
  let text ← encode host value
  pure (utf8 text)

/-! ## Decoding -/

/-- What escapes `decode`. -/
inductive DecodeFailure where
  /-- `CanonicalizationError` -/
  | canonicalization (refusal : Refusal)
  /-- The plain `ValueError` of an overlong numeral. -/
  | value
deriving DecidableEq

/-- `decode`: parse a text and require the value to be canonical. -/
def decode (host : Host) (text : Bytes) : Except DecodeFailure Value :=
  match host.loads text with
  | .error .malformed => .error (.canonicalization .malformedText)
  | .error .duplicateKey => .error (.canonicalization .duplicateKey)
  | .error .loneSurrogate => .error (.canonicalization .loneSurrogate)
  | .error .integerDigits => .error .value
  | .ok value =>
      match canonicalBytes host value with
      | .ok _ => .ok value
      | .error refusal => .error (.canonicalization refusal)

/-- Every value `decode` returns lies inside the canonical profile. -/
theorem decode_canonical {host : Host} {text : Bytes} {value : Value}
    (decoded : decode host text = .ok value) :
    ∃ bytes, canonicalBytes host value = .ok bytes := by
  unfold decode at decoded
  split at decoded
  all_goals try cases decoded
  split at decoded
  · rename_i bytes encoded
    cases decoded
    exact ⟨bytes, encoded⟩
  · cases decoded

/-! ## Runtimes that know a list of texts -/

mutual

/-- Encoding reads the normalization of a runtime and nothing else. -/
theorem encode_congr {left right : Host} (same : left.nfc = right.nfc) :
    ∀ value, encode left value = encode right value
  | .null => rfl
  | .bool true => rfl
  | .bool false => rfl
  | .int _ => rfl
  | .float _ => rfl
  | .text text => by simp only [encode, encodeString, same]
  | .array items => by simp only [encode, encodeItems_congr same items]
  | .object members => by
      simp only [encode, encodeMembers_congr same members, encodeSorted,
        encodeString, same]

theorem encodeItems_congr {left right : Host}
    (same : left.nfc = right.nfc) :
    ∀ items, encodeItems left items = encodeItems right items
  | [] => rfl
  | item :: rest => by
      simp only [encodeItems, encode_congr same item,
        encodeItems_congr same rest]

theorem encodeMembers_congr {left right : Host}
    (same : left.nfc = right.nfc) :
    ∀ members, encodeMembers left members = encodeMembers right members
  | [] => rfl
  | (key, value) :: rest => by
      simp only [encodeMembers, encode_congr same value,
        encodeMembers_congr same rest]

end

/-- A runtime that knows no text and normalizes nothing. -/
def plainHost : Host where
  loads _ := .error .malformed
  nfc := id
  sha256 _ := ""

/-- The canonical bytes of a value whose texts are already normalized. -/
def bytesOf (value : Value) : Bytes :=
  match encode plainHost value with
  | .ok text => utf8 text
  | .error _ => []

/-- A runtime without characters to normalize encodes as `bytesOf` does. -/
theorem canonicalBytes_bytesOf {host : Host} {value : Value}
    (plain : host.nfc = id) (encodes : bytesOf value ≠ []) :
    canonicalBytes host value = .ok (bytesOf value) := by
  have same : encode host value = encode plainHost value :=
    encode_congr (plain : host.nfc = plainHost.nfc) value
  unfold bytesOf at encodes ⊢
  rw [canonicalBytes, same]
  split
  · rename_i text encoded
    rw [encoded]
    rfl
  · rename_i failure encoded
    rw [encoded] at encodes
    exact absurd rfl encodes

/-- `json.loads` on the canonical bytes of a list of documents. -/
def loadsFrom (documents : List Value) (text : Bytes) :
    Except LoadsFailure Value :=
  match documents.find? fun document => decide (bytesOf document = text) with
  | some document => .ok document
  | none => .error .malformed

/-- Documents that any view of their bytes tells apart are read back. -/
theorem loadsFrom_bytesOf {β : Type} (view : Bytes → β)
    {documents : List Value} {document : Value}
    (distinct : (documents.map fun held => view (bytesOf held)).Nodup)
    (member : document ∈ documents) :
    loadsFrom documents (bytesOf document) = .ok document := by
  unfold loadsFrom
  cases found : documents.find?
      fun held => decide (bytesOf held = bytesOf document) with
  | none =>
      rw [List.find?_eq_none] at found
      exact absurd (decide_eq_true rfl) (found document member)
  | some other =>
      have same : bytesOf other = bytesOf document := by
        simpa using List.find?_some found
      have equal : other = document :=
        List.inj_on_of_nodup_map distinct (List.mem_of_find?_eq_some found)
          member (by rw [same])
      rw [equal]

/-- A document that a runtime knows is decoded. -/
theorem decode_bytesOf {host : Host} {document : Value} (plain : host.nfc = id)
    (loads : host.loads (bytesOf document) = .ok document)
    (encodes : bytesOf document ≠ []) :
    decode host (bytesOf document) = .ok document := by
  unfold decode
  rw [loads]
  simp only [canonicalBytes_bytesOf plain encodes]

theorem mem_encodeMembers {host : Host} {members : Value.Members}
    {name : String} {value : Value} (member : (name, value) ∈ members) :
    (name, encode host value) ∈ encodeMembers host members := by
  induction members with
  | nil => cases member
  | cons first rest inductionHypothesis =>
      simp only [encodeMembers, List.mem_cons]
      rcases List.mem_cons.1 member with rfl | later
      · exact .inl rfl
      · exact .inr (inductionHypothesis later)

/-- What an encodable object holds is encodable. -/
theorem canonicalBytes_member {host : Host} {members : Value.Members}
    {name : String} {value : Value}
    (encodes : (canonicalBytes host (.object members)).isOk = true)
    (member : (name, value) ∈ members) :
    (canonicalBytes host value).isOk = true := by
  simp only [isOk_eq_true, canonicalBytes, encode, encodeSorted, bind_eq_ok,
    pure_eq_ok] at encodes ⊢
  rcases encodes with ⟨_, _, ⟨_, _, parts, joined, _⟩, _⟩
  have listed :
      (name, encode host value) ∈ encodeMembers host members :=
    mem_encodeMembers member
  have sorted :=
    (List.mem_insertionSort fun left right => left.1 ≤ right.1).2 listed
  rcases mapM_ok_of_mem joined sorted with ⟨part, encoded⟩
  simp only [bind_eq_ok] at encoded
  rcases encoded with ⟨_, _, item, held, _⟩
  exact ⟨_, item, held, rfl⟩

/-- One member of an encodable object is encodable on its own. -/
theorem canonicalBytes_alone {host : Host} {members : Value.Members}
    {name : String} {value : Value}
    (encodes : (canonicalBytes host (.object members)).isOk = true)
    (member : (name, value) ∈ members) :
    (canonicalBytes host (.object [(name, value)])).isOk = true := by
  simp only [isOk_eq_true, canonicalBytes, encode, encodeSorted, bind_eq_ok,
    pure_eq_ok] at encodes ⊢
  rcases encodes with ⟨_, _, ⟨_, keyed, parts, joined, _⟩, _⟩
  have listed :
      (name, encode host value) ∈ encodeMembers host members :=
    mem_encodeMembers member
  have sorted :=
    (List.mem_insertionSort fun left right => left.1 ≤ right.1).2 listed
  rcases mapM_ok_of_mem keyed listed with ⟨key, formed⟩
  rcases mapM_ok_of_mem joined sorted with ⟨part, encoded⟩
  refine ⟨_, _, ⟨[key], ?_, [part], ?_, rfl⟩, rfl⟩
  · simp only [encodeMembers, List.mapM_cons, List.mapM_nil, bind_eq_ok,
      pure_eq_ok]
    exact ⟨key, formed, [], rfl, rfl⟩
  · simp only [encodeMembers, List.insertionSort_cons,
      List.insertionSort_nil, List.orderedInsert_nil, List.mapM_cons,
      List.mapM_nil]
    simp only [bind_eq_ok, pure_eq_ok] at encoded ⊢
    exact ⟨part, encoded, [], rfl, rfl⟩

/-! ## The first key -/

/-- `unicodedata.normalize("NFC", ·)` returns an ASCII text unchanged. -/
def Host.KeepsAscii (host : Host) : Prop :=
  ∀ text : String,
    (∀ character ∈ text.toList, character.toNat < 128) →
      host.nfc text = text

/-- A text whose characters are checked one by one. -/
theorem ascii_of_all {text : String}
    (checked :
      (text.toList.all fun character => character.toNat < 128) = true) :
    ∀ character ∈ text.toList, character.toNat < 128 := by
  simpa using checked

theorem encodeMembers_keys (host : Host) (members : Value.Members) :
    (encodeMembers host members).map Prod.fst = Value.keys members := by
  induction members with
  | nil => rfl
  | cons first rest inductionHypothesis =>
      simp only [encodeMembers, Value.keys, List.map_cons] at *
      rw [inductionHypothesis]

/-- The canonical bytes of an object begin with its least key. -/
theorem canonicalBytes_leastKey {host : Host} {members : Value.Members}
    {raw : Bytes} {key : String}
    (encoded : canonicalBytes host (.object members) = .ok raw)
    (held : key ∈ Value.keys members)
    (least : ∀ other ∈ Value.keys members, key ≤ other) :
    ∃ name tail,
      encodeString host key = .ok name ∧
        raw = utf8 (['{'] ++ name ++ tail) := by
  simp only [canonicalBytes, encode, encodeSorted, bind_eq_ok,
    pure_eq_ok] at encoded
  rcases encoded with ⟨text, ⟨_, _, parts, joined, rfl⟩, rfl⟩
  have keysOf := encodeMembers_keys host members
  cases order : (encodeMembers host members).insertionSort
      fun left right => left.1 ≤ right.1 with
  | nil =>
      have empty : (encodeMembers host members).length = 0 := by
        rw [← List.length_insertionSort
          (fun left right : String × _ => left.1 ≤ right.1), order]
        rfl
      rw [← keysOf, List.length_eq_zero_iff.1 empty] at held
      cases held
  | cons first rest =>
      have sorted := List.pairwise_insertionSort
        (fun left right : String × Except Refusal (List Char) =>
          left.1 ≤ right.1) (encodeMembers host members)
      rw [order] at joined sorted
      have firstKey : first.1 = key := by
        have listed : first.1 ∈ Value.keys members := by
          rw [← keysOf]
          refine List.mem_map_of_mem ((List.mem_insertionSort
            fun left right => left.1 ≤ right.1).1 ?_)
          rw [order]
          exact List.mem_cons_self
        rw [← keysOf] at held
        rcases List.mem_map.1 held with ⟨member, among, rfl⟩
        have ordered := (List.mem_insertionSort
          fun left right => left.1 ≤ right.1).2 among
        rw [order] at ordered
        rcases List.mem_cons.1 ordered with rfl | later
        · rfl
        · exact String.le_antisymm
            (List.rel_of_pairwise_cons sorted later)
            (least first.1 listed)
      simp only [List.mapM_cons, bind_eq_ok, pure_eq_ok] at joined
      rcases joined with
        ⟨part, ⟨name, named, item, _, rfl⟩, others, _, rfl⟩
      rw [firstKey] at named
      cases others with
      | nil =>
          exact ⟨name, [':'] ++ item ++ ['}'], named, by simp [joinComma]⟩
      | cons next later =>
          exact
            ⟨name, [':'] ++ item ++ [','] ++ joinComma (next :: later) ++
              ['}'], named, by simp [joinComma]⟩

end AerialRescue.Contracts.Canonical
