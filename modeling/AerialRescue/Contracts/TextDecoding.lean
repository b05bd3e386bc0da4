import AerialRescue.Contracts.CanonicalForm
import AerialRescue.Contracts.TopicGrammar
import Mathlib.Data.List.TakeWhile

/-!
# Decoding hostile text

`decode` of `canonical.py` on every `str` and every `bytes`: the codecs that
`json.loads` detects, its scanner with the hook that refuses a repeated key,
and the canonical encoder, which decides what the profile admits.  A `str` may
hold surrogates here, and so may a text or a key that was decoded.

The interpreter ends a recursion that is too deep.  How many nested containers
the scanner and the encoder get through is a parameter of the model; `int`
converts at most `maxIntegerDigits` digits.
-/

namespace AerialRescue.Contracts.TextDecoding

open AerialRescue.Lib.Guard
open AerialRescue.Contracts.Canonical
open AerialRescue.Contracts.CanonicalForm
open AerialRescue.Contracts.JsonText
open AerialRescue.Contracts.SharedJson
open AerialRescue.Contracts.Topics

/-! ## Values and errors -/

/-- What `json.loads` returns. -/
inductive PyJson where
  | null
  | bool (value : Bool)
  | int (value : Int)
  | float (repr : String)
  | text (points : PythonText)
  | array (items : List PyJson)
  | object (members : List (PythonText × PyJson))
deriving Inhabited

namespace PyJson

abbrev Members := List (PythonText × PyJson)

mutual

/-- A value without surrogates. -/
def ofValue : Value → PyJson
  | .null => .null
  | .bool value => .bool value
  | .int value => .int value
  | .float repr => .float repr
  | .text characters => .text (pythonText characters)
  | .array items => .array (ofItems items)
  | .object members => .object (ofMembers members)

def ofItems : List Value → List PyJson
  | [] => []
  | item :: rest => ofValue item :: ofItems rest

def ofMembers : Value.Members → Members
  | [] => []
  | (key, value) :: rest => (pythonText key, ofValue value) :: ofMembers rest

end

end PyJson

/-- The errors that the decoder and what it calls raise. -/
inductive PythonError where
  | jsonDecodeError
  | unicodeDecodeError
  | recursionError
  | canonicalizationError (refusal : Refusal)
  /-- The plain `ValueError` of `int` on too many digits. -/
  | valueError
deriving DecidableEq

/-- What `decode` may be given. -/
inductive JsonSource where
  | str (text : PythonText)
  | bytes (octets : Bytes)

/-- The nested containers that the interpreter's stack leaves room for. -/
structure Interpreter where
  scanDepth : Nat
  encodeDepth : Nat

/-! ## Codecs -/

inductive Encoding where
  | utf8
  | utf8Sig
  | utf16
  | utf16Big
  | utf16Little
  | utf32
  | utf32Big
  | utf32Little
deriving DecidableEq

/-- `json.detect_encoding` -/
def detectEncoding (octets : Bytes) : Encoding :=
  if [0x00, 0x00, 0xFE, 0xFF].isPrefixOf octets ||
      [0xFF, 0xFE, 0x00, 0x00].isPrefixOf octets then .utf32
  else if [0xFE, 0xFF].isPrefixOf octets ||
      [0xFF, 0xFE].isPrefixOf octets then .utf16
  else if [0xEF, 0xBB, 0xBF].isPrefixOf octets then .utf8Sig
  else
    match octets with
    | first :: second :: third :: fourth :: _ =>
        if first = 0 then
          if second = 0 then .utf32Big else .utf16Big
        else if second = 0 then
          if third = 0 && fourth = 0 then .utf32Little else .utf16Little
        else .utf8
    | [first, second] =>
        if first = 0 then .utf16Big
        else if second = 0 then .utf16Little
        else .utf8
    | _ => .utf8

/-- The value of an octet behind the first of a UTF-8 sequence. -/
def tailBits (octet : UInt8) : Option Nat :=
  if 0x80 ≤ octet && octet < 0xC0 then some (octet.toNat - 0x80) else none

/-- The UTF-8 codec; `surrogatepass` lets a surrogate's sequence through. -/
def decodeUtf8 : Bytes → Option PythonText
  | [] => some []
  | first :: rest =>
      if first < 0x80 then do
        let others ← decodeUtf8 rest
        pure (codeUnit first.toNat :: others)
      else if 0xC2 ≤ first && first < 0xE0 then
        match rest with
        | second :: later => do
            let low ← tailBits second
            let others ← decodeUtf8 later
            pure (codeUnit ((first.toNat - 0xC0) * 64 + low) :: others)
        | [] => none
      else if 0xE0 ≤ first && first < 0xF0 then
        match rest with
        | second :: third :: later => do
            let middle ← tailBits second
            let low ← tailBits third
            let code := ((first.toNat - 0xE0) * 64 + middle) * 64 + low
            if code < 0x800 then none
            else do
              let others ← decodeUtf8 later
              pure (codeUnit code :: others)
        | _ => none
      else if 0xF0 ≤ first && first < 0xF5 then
        match rest with
        | second :: third :: fourth :: later => do
            let high ← tailBits second
            let middle ← tailBits third
            let low ← tailBits fourth
            let code :=
              (((first.toNat - 0xF0) * 64 + high) * 64 + middle) * 64 + low
            if code < 0x10000 ∨ 0x10FFFF < code then none
            else do
              let others ← decodeUtf8 later
              pure (codeUnit code :: others)
        | _ => none
      else none

/-- The units of a UTF-16 text. -/
def units16 (big : Bool) : Bytes → Option Units
  | [] => some []
  | [_] => none
  | first :: second :: rest => do
      let others ← units16 big rest
      let unit :=
        if big then first.toNat * 256 + second.toNat
        else second.toNat * 256 + first.toNat
      pure (UInt16.ofNat unit :: others)

/-- The UTF-16 codec; `surrogatepass` keeps a lone surrogate. -/
def decodeUtf16 (big : Bool) (octets : Bytes) : Option PythonText :=
  (units16 big octets).map codePoints

/-- The UTF-32 codec; `surrogatepass` keeps the surrogates. -/
def decodeUtf32 (big : Bool) : Bytes → Option PythonText
  | [] => some []
  | first :: second :: third :: fourth :: rest => do
      let code :=
        if big then
          ((first.toNat * 256 + second.toNat) * 256 + third.toNat) * 256 +
            fourth.toNat
        else
          ((fourth.toNat * 256 + third.toNat) * 256 + second.toNat) * 256 +
            first.toNat
      if 0x10FFFF < code then none
      else do
        let others ← decodeUtf32 big rest
        pure (codeUnit code :: others)
  | _ => none

/-- `octets.decode(encoding, "surrogatepass")`; a codec that its mark selects
reads the byte order from it. -/
def decodeWith (octets : Bytes) : Encoding → Option PythonText
  | .utf8 => decodeUtf8 octets
  | .utf8Sig => decodeUtf8 (octets.drop 3)
  | .utf16 => decodeUtf16 (octets.head? = some 0xFE) (octets.drop 2)
  | .utf16Big => decodeUtf16 true octets
  | .utf16Little => decodeUtf16 false octets
  | .utf32 => decodeUtf32 (octets.head? = some 0x00) (octets.drop 4)
  | .utf32Big => decodeUtf32 true octets
  | .utf32Little => decodeUtf32 false octets

/-! ## The scanner -/

/-- What was scanned at the front of a text, and what follows it. -/
structure Scan (text : PythonText) (α : Type) where
  value : α
  rest : PythonText
  shorter : rest.length < text.length

/-- A scan of what stands inside a text is one of the text. -/
def Scan.within {inner text : PythonText} {α β : Type} (scan : Scan inner α)
    (inside : inner.length ≤ text.length) (value : β) : Scan text β where
  value := value
  rest := scan.rest
  shorter := scan.shorter.trans_le inside

def isBlank : CodeUnit → Bool
  | .scalar character => isSpace character
  | .surrogate _ => false

def skipBlank (text : PythonText) : PythonText :=
  text.dropWhile isBlank

theorem skipBlank_length (text : PythonText) :
    (skipBlank text).length ≤ text.length :=
  (List.dropWhile_suffix isBlank).length_le

/-- The first unit behind white space. -/
def nextMark (text : PythonText) : Option (Scan text CodeUnit) :=
  match marked : skipBlank text with
  | [] => none
  | mark :: rest =>
      some
        { value := mark
          rest := rest
          shorter := by
            have bound := skipBlank_length text
            rw [marked, List.length_cons] at bound
            omega }

/-- Four hexadecimal digits. -/
def scanHex (text : PythonText) : Option (Scan text Nat) :=
  match text with
  | .scalar a :: .scalar b :: .scalar c :: .scalar d :: rest => do
      let code ← hexCode a b c d
      pure
        { value := code
          rest := rest
          shorter := by
            simp only [List.length_cons]
            omega }
  | _ => none

def isHigh (code : Nat) : Bool :=
  0xD800 ≤ code && code < 0xDC00

def isLow (code : Nat) : Bool :=
  0xDC00 ≤ code && code < 0xE000

/-- The code point of `\u` and what follows.  A high surrogate is joined with
a low one that is escaped behind it. -/
def scanUnicodeEscape (text : PythonText) : Option (Scan text CodeUnit) := do
  let high ← scanHex text
  let alone : Scan text CodeUnit :=
    ⟨codeUnit high.value, high.rest, high.shorter⟩
  if isHigh high.value then
    match behind : high.rest with
    | .scalar '\\' :: .scalar 'u' :: later => do
        let low ← scanHex later
        if isLow low.value then
          pure
            { value := .scalar (Char.ofNat (pairNumber high.value low.value))
              rest := low.rest
              shorter := by
                have before := high.shorter
                have inside := low.shorter
                rw [behind, List.length_cons, List.length_cons] at before
                omega }
        else pure alone
    | _ => pure alone
  else pure alone

/-- The code point of an escape behind its backslash. -/
def scanEscape (text : PythonText) : Option (Scan text CodeUnit) :=
  match text with
  | .scalar letter :: rest =>
      if letter = 'u' then do
        let unit ← scanUnicodeEscape rest
        pure (unit.within (Nat.le_succ _) unit.value)
      else do
        let character ← shortEscape letter
        pure ⟨.scalar character, rest, Nat.lt_succ_self _⟩
  | _ => none

def isControl : CodeUnit → Bool
  | .scalar character => character < ' '
  | .surrogate _ => false

/-- `scanstring`: the code points up to the closing quote. -/
def scanString (text : PythonText) : Option (Scan text PythonText) :=
  match text with
  | [] => none
  | first :: rest =>
      if first = .scalar '"' then
        some ⟨[], rest, Nat.lt_succ_self _⟩
      else if first = .scalar '\\' then do
        let unit ← scanEscape rest
        let others ← scanString unit.rest
        pure
          (others.within (unit.shorter.le.trans (Nat.le_succ _))
            (unit.value :: others.value))
      else if isControl first then none
      else do
        let others ← scanString rest
        pure (others.within (Nat.le_succ _) (first :: others.value))
termination_by text.length
decreasing_by
  · have shorter := unit.shorter
    rw [List.length_cons]
    omega
  · exact Nat.lt_succ_self _

/-- The characters in front of the first surrogate. -/
def leading : PythonText → List Char
  | .scalar character :: rest => character :: leading rest
  | _ => []

/-- What stands from the first surrogate on. -/
def remainder : PythonText → PythonText
  | .scalar _ :: rest => remainder rest
  | others => others

theorem leading_remainder (text : PythonText) :
    (leading text).map .scalar ++ remainder text = text := by
  induction text with
  | nil => rfl
  | cons first rest inductionHypothesis =>
      cases first with
      | scalar character =>
          rw [leading, remainder, List.map_cons, List.cons_append,
            inductionHypothesis]
      | surrogate code => rfl

/-- A literal or a number; no surrogate is part of one. -/
def scanPlain (text : PythonText) : Except PythonError (Scan text PyJson) :=
  match plain : readPlain (leading text) with
  | .ok read =>
      .ok
        { value := .ofValue read.value
          rest := read.rest.map .scalar ++ remainder text
          shorter := by
            have whole := congrArg List.length (leading_remainder text)
            have shorter := readPlain_shorter plain
            simp only [List.length_append, List.length_map] at whole ⊢
            omega }
  | .error .integerDigits => .error .valueError
  | .error _ => .error .jsonDecodeError

/-- A member's name with the colon behind it. -/
def scanName (text : PythonText) :
    Except PythonError (Scan text PythonText) :=
  match text with
  | [] => .error .jsonDecodeError
  | first :: rest => do
      ensure (first = .scalar '"') .jsonDecodeError
      let name ← present (scanString rest) .jsonDecodeError
      let colon ← present (nextMark name.rest) .jsonDecodeError
      ensure (colon.value = .scalar ':') .jsonDecodeError
      pure
        { value := name.value
          rest := colon.rest
          shorter := by
            have before := name.shorter
            have behind := colon.shorter
            rw [List.length_cons]
            omega }

mutual

/-- `scan_once` -/
def scanValue (depth : Nat) (text : PythonText) :
    Except PythonError (Scan text PyJson) :=
  match text with
  | [] => .error .jsonDecodeError
  | first :: rest =>
      if first = .scalar '"' then do
        let scan ← present (scanString rest) .jsonDecodeError
        pure (scan.within (Nat.le_succ _) (.text scan.value))
      else if first = .scalar '[' then
        match depth with
        | 0 => .error .recursionError
        | depth + 1 => do
            let scan ← scanArray depth (skipBlank rest)
            pure
              (scan.within ((skipBlank_length rest).trans (Nat.le_succ _))
                (.array scan.value))
      else if first = .scalar '{' then
        match depth with
        | 0 => .error .recursionError
        | depth + 1 => do
            let scan ← scanObject depth (skipBlank rest)
            ensure (scan.value.map Prod.fst).Nodup
              (.canonicalizationError .duplicateKey)
            pure
              (scan.within ((skipBlank_length rest).trans (Nat.le_succ _))
                (.object scan.value))
      else scanPlain (first :: rest)
termination_by (text.length, 0)
decreasing_by
  all_goals
    have bound := skipBlank_length rest
    apply Prod.Lex.left
    rw [List.length_cons]
    omega

/-- `_parse_array`, behind the opening bracket. -/
def scanArray (depth : Nat) (text : PythonText) :
    Except PythonError (Scan text (List PyJson)) :=
  match text with
  | [] => .error .jsonDecodeError
  | first :: rest =>
      if first = .scalar ']' then .ok ⟨[], rest, Nat.lt_succ_self _⟩
      else scanItems depth (first :: rest)
termination_by (text.length, 2)

/-- The items of an array from one on. -/
def scanItems (depth : Nat) (text : PythonText) :
    Except PythonError (Scan text (List PyJson)) := do
  let item ← scanValue depth text
  let mark ← present (nextMark item.rest) .jsonDecodeError
  if mark.value = .scalar ']' then
    pure ⟨[item.value], mark.rest, mark.shorter.trans item.shorter⟩
  else do
    ensure (mark.value = .scalar ',') .jsonDecodeError
    let others ← scanItems depth (skipBlank mark.rest)
    pure
      (others.within
        ((skipBlank_length _).trans
          (mark.shorter.trans item.shorter).le)
        (item.value :: others.value))
termination_by (text.length, 1)
decreasing_by
  · exact Prod.Lex.right _ Nat.zero_lt_one
  · have bound := skipBlank_length mark.rest
    have before := item.shorter
    have behind := mark.shorter
    apply Prod.Lex.left
    omega

/-- `_parse_object`, behind the opening brace. -/
def scanObject (depth : Nat) (text : PythonText) :
    Except PythonError (Scan text PyJson.Members) :=
  match text with
  | [] => .error .jsonDecodeError
  | first :: rest =>
      if first = .scalar '}' then .ok ⟨[], rest, Nat.lt_succ_self _⟩
      else scanMembers depth (first :: rest)
termination_by (text.length, 2)

/-- The members of an object from one on. -/
def scanMembers (depth : Nat) (text : PythonText) :
    Except PythonError (Scan text PyJson.Members) := do
  let name ← scanName text
  let item ← scanValue depth (skipBlank name.rest)
  let mark ← present (nextMark item.rest) .jsonDecodeError
  if mark.value = .scalar '}' then
    pure
      { value := [(name.value, item.value)]
        rest := mark.rest
        shorter := by
          have bound := skipBlank_length name.rest
          have before := name.shorter
          have inside := item.shorter
          have behind := mark.shorter
          omega }
  else do
    ensure (mark.value = .scalar ',') .jsonDecodeError
    let others ← scanMembers depth (skipBlank mark.rest)
    pure
      { value := (name.value, item.value) :: others.value
        rest := others.rest
        shorter := by
          have bound := skipBlank_length name.rest
          have before := name.shorter
          have inside := item.shorter
          have behind := mark.shorter
          have blank := skipBlank_length mark.rest
          have later := others.shorter
          omega }
termination_by (text.length, 1)
decreasing_by
  · have bound := skipBlank_length name.rest
    have before := name.shorter
    apply Prod.Lex.left
    omega
  · have bound := skipBlank_length name.rest
    have before := name.shorter
    have inside := item.shorter
    have behind := mark.shorter
    have blank := skipBlank_length mark.rest
    apply Prod.Lex.left
    omega

end

/-! ## The encoder -/

/-- `_encode_object`, over the encodings of the members' values. -/
def encodeMapping (host : Host)
    (members : List (PythonText × Except PythonError (List Char))) :
    Except PythonError (List Char) := do
  let keyed ← members.mapM fun member => do
    let key ← recast .canonicalizationError (keyOf member.1)
    pure (key, member.2)
  let sorted := keyed.insertionSort fun left right => left.1 ≤ right.1
  let parts ← sorted.mapM fun member => do
    let name ← recast .canonicalizationError (encodeString host member.1)
    let item ← member.2
    pure (name ++ [':'] ++ item)
  pure (['{'] ++ joinComma parts ++ ['}'])

mutual

/-- `_encode` -/
def encodeValue (host : Host) (depth : Nat) :
    PyJson → Except PythonError (List Char)
  | .null => .ok "null".toList
  | .bool true => .ok "true".toList
  | .bool false => .ok "false".toList
  | .int value => recast .canonicalizationError (encodeInteger value)
  | .float _ => .error (.canonicalizationError .unsupportedType)
  | .text points => recast .canonicalizationError (encodeText host points)
  | .array items =>
      match depth with
      | 0 => .error .recursionError
      | depth + 1 => do
          let parts ← encodeItemsOf host depth items
          pure (['['] ++ joinComma parts ++ [']'])
  | .object members =>
      match depth with
      | 0 => .error .recursionError
      | depth + 1 => encodeMapping host (encodeMembersOf host depth members)

def encodeItemsOf (host : Host) (depth : Nat) :
    List PyJson → Except PythonError (List (List Char))
  | [] => .ok []
  | item :: rest => do
      let first ← encodeValue host depth item
      let others ← encodeItemsOf host depth rest
      pure (first :: others)

def encodeMembersOf (host : Host) (depth : Nat) :
    PyJson.Members → List (PythonText × Except PythonError (List Char))
  | [] => []
  | (key, value) :: rest =>
      (key, encodeValue host depth value) :: encodeMembersOf host depth rest

end

/-- `canonical_bytes` -/
def canonicalOctets (host : Host) (depth : Nat) (value : PyJson) :
    Except PythonError Bytes := do
  let text ← encodeValue host depth value
  pure (utf8 text)

/-! ## The decoder -/

/-- `JSONDecoder.decode` -/
def decodeDocument (depth : Nat) (text : PythonText) :
    Except PythonError PyJson := do
  let scan ← scanValue depth (skipBlank text)
  ensure (skipBlank scan.rest = []) .jsonDecodeError
  pure scan.value

/-- `json.loads` -/
def loads (depth : Nat) : JsonSource → Except PythonError PyJson
  | .str text => do
      ensure (text.head? ≠ some (.scalar '\ufeff')) .jsonDecodeError
      decodeDocument depth text
  | .bytes octets => do
      let text ← present (decodeWith octets (detectEncoding octets))
        .unicodeDecodeError
      decodeDocument depth text

/-- What the `except` clauses of `decode` raise in place of an error. -/
def handled : PythonError → PythonError
  | .jsonDecodeError => .canonicalizationError .malformedText
  | .unicodeDecodeError => .canonicalizationError .malformedText
  | .recursionError => .canonicalizationError .malformedText
  | raised => raised

/-- `decode` -/
def decode (host : Host) (interpreter : Interpreter) (source : JsonSource) :
    Except PythonError PyJson :=
  recast handled do
    let value ← loads interpreter.scanDepth source
    let _ ← canonicalOctets host interpreter.encodeDepth value
    pure value

/-! ## The profile -/

namespace PyJson

mutual

/-- The values that the canonical profile represents. -/
def InProfile (host : Host) : PyJson → Prop
  | .null => True
  | .bool _ => True
  | .int value => -maxSafeInteger ≤ value ∧ value ≤ maxSafeInteger
  | .float _ => False
  | .text points =>
      points.any isSurrogate = false ∧
        (host.nfc (scalars points)).utf8ByteSize ≤ maxStringBytes
  | .array items => ItemsInProfile host items
  | .object members =>
      (members.map Prod.fst).Nodup ∧ MembersInProfile host members

def ItemsInProfile (host : Host) : List PyJson → Prop
  | [] => True
  | item :: rest => InProfile host item ∧ ItemsInProfile host rest

def MembersInProfile (host : Host) : Members → Prop
  | [] => True
  | (key, value) :: rest =>
      (keyOf key).isOk = true ∧ InProfile host value ∧
        MembersInProfile host rest

end

mutual

/-- No object of the value has a key twice, as in any Python mapping. -/
def Distinct : PyJson → Prop
  | .array items => ItemsDistinct items
  | .object members =>
      (members.map Prod.fst).Nodup ∧ MembersDistinct members
  | _ => True

def ItemsDistinct : List PyJson → Prop
  | [] => True
  | item :: rest => Distinct item ∧ ItemsDistinct rest

def MembersDistinct : Members → Prop
  | [] => True
  | (_, value) :: rest => Distinct value ∧ MembersDistinct rest

end

end PyJson

/-! ## What the encoder admits -/

section Encoding

variable {host : Host}

theorem encodeMapping_ok
    {members : List (PythonText × Except PythonError (List Char))}
    {text : List Char} (encoded : encodeMapping host members = .ok text)
    {member : PythonText × Except PythonError (List Char)}
    (held : member ∈ members) :
    (keyOf member.1).isOk = true ∧ ∃ part, member.2 = .ok part := by
  simp only [encodeMapping, bind_eq_ok] at encoded
  rcases encoded with ⟨keyed, keys, parts, written, _⟩
  rcases mapM_ok_mem keys held with ⟨found, inside, same⟩
  simp only [bind_eq_ok, recast_eq_ok, pure_eq_ok] at same
  rcases same with ⟨key, canonical, rfl⟩
  have sorted := (List.mem_insertionSort
    (fun left right : String × Except PythonError (List Char) =>
      left.1 ≤ right.1)).2 inside
  rcases mapM_ok_of_mem written sorted with ⟨part, encodes⟩
  simp only [bind_eq_ok] at encodes
  rcases encodes with ⟨_, _, item, value, _⟩
  exact ⟨isOk_eq_true.2 ⟨key, canonical⟩, item, value⟩

mutual

/-- A value that the encoder writes lies in the profile. -/
theorem inProfile_of_encodeValue : ∀ (value : PyJson) {depth : Nat}
    {text : List Char}, value.Distinct →
      encodeValue host depth value = .ok text → value.InProfile host
  | .null, _, _, _, _ => by
      rw [PyJson.InProfile]
      trivial
  | .bool _, _, _, _, _ => by
      rw [PyJson.InProfile]
      trivial
  | .int value, _, _, _, encoded => by
      rw [encodeValue, recast_eq_ok, encodeInteger] at encoded
      rw [PyJson.InProfile]
      split at encoded
      · cases encoded
      · rename_i inside
        omega
  | .float _, _, _, _, encoded => by
      rw [encodeValue] at encoded
      cases encoded
  | .text points, _, _, _, encoded => by
      rw [encodeValue, recast_eq_ok, encodeText, encodeString] at encoded
      rw [PyJson.InProfile]
      split at encoded
      · cases encoded
      · rename_i free
        split at encoded
        · cases encoded
        · rename_i short
          exact ⟨by simpa using free, not_lt.1 short⟩
  | .array items, 0, _, _, encoded => by
      rw [encodeValue] at encoded
      cases encoded
  | .array items, depth + 1, _, distinct, encoded => by
      simp only [encodeValue, bind_eq_ok] at encoded
      rcases encoded with ⟨parts, written, _⟩
      rw [PyJson.Distinct] at distinct
      rw [PyJson.InProfile]
      exact itemsInProfile_of_encode items distinct written
  | .object members, 0, _, _, encoded => by
      rw [encodeValue] at encoded
      cases encoded
  | .object members, depth + 1, _, distinct, encoded => by
      rw [encodeValue] at encoded
      rw [PyJson.Distinct] at distinct
      rw [PyJson.InProfile]
      exact ⟨distinct.1, membersInProfile_of_encode members distinct.2
        fun member held => encodeMapping_ok encoded held⟩

theorem itemsInProfile_of_encode : ∀ (items : List PyJson) {depth : Nat}
    {parts : List (List Char)}, PyJson.ItemsDistinct items →
      encodeItemsOf host depth items = .ok parts →
        PyJson.ItemsInProfile host items
  | [], _, _, _, _ => by
      rw [PyJson.ItemsInProfile]
      trivial
  | item :: rest, _, _, distinct, encoded => by
      simp only [encodeItemsOf, bind_eq_ok] at encoded
      rcases encoded with ⟨first, written, others, later, _⟩
      rw [PyJson.ItemsDistinct] at distinct
      rw [PyJson.ItemsInProfile]
      exact ⟨inProfile_of_encodeValue item distinct.1 written,
        itemsInProfile_of_encode rest distinct.2 later⟩

theorem membersInProfile_of_encode : ∀ (members : PyJson.Members)
    {depth : Nat}, PyJson.MembersDistinct members →
      (∀ member ∈ encodeMembersOf host depth members,
        (keyOf member.1).isOk = true ∧ ∃ part, member.2 = .ok part) →
        PyJson.MembersInProfile host members
  | [], _, _, _ => by
      rw [PyJson.MembersInProfile]
      trivial
  | (key, value) :: rest, depth, distinct, each => by
      rw [encodeMembersOf] at each
      rcases each _ List.mem_cons_self with ⟨canonical, part, written⟩
      rw [PyJson.MembersDistinct] at distinct
      rw [PyJson.MembersInProfile]
      exact ⟨canonical,
        inProfile_of_encodeValue value distinct.1 written,
        membersInProfile_of_encode rest distinct.2 fun member held =>
          each member (List.mem_cons_of_mem _ held)⟩

end

/-- The encoder raises canonicalization errors and runs out of stack. -/
def EncoderRaises (raised : PythonError) : Prop :=
  raised = .recursionError ∨ ∃ refusal, raised = .canonicalizationError refusal

theorem encoderRaises_refusal (refusal : Refusal) :
    EncoderRaises (.canonicalizationError refusal) :=
  .inr ⟨refusal, rfl⟩

theorem encodeMapping_raises
    {members : List (PythonText × Except PythonError (List Char))}
    (each : ∀ member ∈ members, FailsOnly EncoderRaises member.2) :
    FailsOnly EncoderRaises (encodeMapping host members) := by
  refine .bindOf ?_ fun keyed keys => ?_
  · refine .mapM fun member _ => ?_
    exact .bind (.recast encoderRaises_refusal) fun _ => .ok _
  refine .bind ?_ fun _ => .ok _
  refine .mapM fun member held => ?_
  refine .bind (.recast encoderRaises_refusal) fun _ => ?_
  refine .bind ?_ fun _ => .ok _
  have inside := (List.mem_insertionSort
    (fun left right : String × Except PythonError (List Char) =>
      left.1 ≤ right.1)).1 held
  rcases mapM_ok_source keys inside with ⟨origin, original, same⟩
  simp only [bind_eq_ok, pure_eq_ok] at same
  rcases same with ⟨key, _, rfl⟩
  exact each origin original

mutual

theorem encodeValue_raises : ∀ (value : PyJson) (depth : Nat),
    FailsOnly EncoderRaises (encodeValue host depth value)
  | .null, _ => .ok _
  | .bool true, _ => .ok _
  | .bool false, _ => .ok _
  | .int _, _ => .recast encoderRaises_refusal
  | .float _, _ => .error (encoderRaises_refusal _)
  | .text _, _ => .recast encoderRaises_refusal
  | .array _, 0 => .error (.inl rfl)
  | .array items, depth + 1 =>
      .bind (encodeItemsOf_raises items depth) fun _ => .ok _
  | .object _, 0 => .error (.inl rfl)
  | .object members, depth + 1 =>
      encodeMapping_raises (encodeMembersOf_raises members depth)

theorem encodeItemsOf_raises : ∀ (items : List PyJson) (depth : Nat),
    FailsOnly EncoderRaises (encodeItemsOf host depth items)
  | [], _ => .ok _
  | item :: rest, depth =>
      .bind (encodeValue_raises item depth) fun _ =>
        .bind (encodeItemsOf_raises rest depth) fun _ => .ok _

theorem encodeMembersOf_raises : ∀ (members : PyJson.Members) (depth : Nat),
    ∀ member ∈ encodeMembersOf host depth members,
      FailsOnly EncoderRaises member.2
  | [], _ => by
      intro member held
      cases held
  | (key, value) :: rest, depth => by
      intro member held
      rw [encodeMembersOf] at held
      rcases List.mem_cons.1 held with rfl | later
      · exact encodeValue_raises value depth
      · exact encodeMembersOf_raises rest depth member later

end

end Encoding

/-! ## What the scanner returns -/

theorem distinct_ofValue : ∀ characters {read : Read Value},
    readPlain characters = .ok read → (PyJson.ofValue read.value).Distinct := by
  intro characters read plain
  have numeral : ∀ {negative unsigned},
      readNumeral negative unsigned = .ok read →
        (PyJson.ofValue read.value).Distinct := by
    intro negative unsigned found
    simp only [readNumeral, bind_eq_ok] at found
    rcases found with ⟨_, _, found⟩
    split at found
    · simp only [bind_eq_ok, pure_eq_ok] at found
      rcases found with ⟨_, _, rfl⟩
      rw [PyJson.ofValue, PyJson.Distinct] <;> simp
    · cases found
      rw [PyJson.ofValue, PyJson.Distinct] <;> simp
  unfold readPlain at plain
  split at plain
  case h_7 => exact numeral plain
  case h_8 => exact numeral plain
  all_goals
    cases plain
    rw [PyJson.ofValue, PyJson.Distinct] <;> simp

theorem scanValue_nil (depth : Nat) :
    scanValue depth [] = .error .jsonDecodeError := by
  rw [scanValue.eq_def]

theorem scanValue_cons (depth : Nat) (first : CodeUnit)
    (rest : PythonText) :
    scanValue depth (first :: rest) =
      if first = .scalar '"' then do
        let scan ← present (scanString rest) .jsonDecodeError
        pure (scan.within (Nat.le_succ _) (.text scan.value))
      else if first = .scalar '[' then
        match depth with
        | 0 => .error .recursionError
        | depth + 1 => do
            let scan ← scanArray depth (skipBlank rest)
            pure
              (scan.within ((skipBlank_length rest).trans (Nat.le_succ _))
                (.array scan.value))
      else if first = .scalar '{' then
        match depth with
        | 0 => .error .recursionError
        | depth + 1 => do
            let scan ← scanObject depth (skipBlank rest)
            ensure (scan.value.map Prod.fst).Nodup
              (.canonicalizationError .duplicateKey)
            pure
              (scan.within ((skipBlank_length rest).trans (Nat.le_succ _))
                (.object scan.value))
      else scanPlain (first :: rest) := by
  rw [scanValue.eq_def]

/-- What the three loops of the scanner return from texts of a length. -/
structure ScansDistinct (length : Nat) : Prop where
  value : ∀ {depth : Nat} {text : PythonText} {scan : Scan text PyJson},
    text.length = length → scanValue depth text = .ok scan →
      scan.value.Distinct
  items : ∀ {depth : Nat} {text : PythonText} {scan : Scan text (List PyJson)},
    text.length = length → scanItems depth text = .ok scan →
      PyJson.ItemsDistinct scan.value
  members : ∀ {depth : Nat} {text : PythonText}
    {scan : Scan text PyJson.Members},
    text.length = length → scanMembers depth text = .ok scan →
      PyJson.MembersDistinct scan.value

theorem scanArray_ok {depth : Nat} {text : PythonText}
    {scan : Scan text (List PyJson)}
    (scanned : scanArray depth text = .ok scan) :
    scan.value = [] ∨ scanItems depth text = .ok scan := by
  cases text with
  | nil =>
      rw [scanArray] at scanned
      cases scanned
  | cons first rest =>
      rw [scanArray] at scanned
      split at scanned
      · cases scanned
        exact .inl rfl
      · exact .inr scanned

theorem scanObject_ok {depth : Nat} {text : PythonText}
    {scan : Scan text PyJson.Members}
    (scanned : scanObject depth text = .ok scan) :
    scan.value = [] ∨ scanMembers depth text = .ok scan := by
  cases text with
  | nil =>
      rw [scanObject] at scanned
      cases scanned
  | cons first rest =>
      rw [scanObject] at scanned
      split at scanned
      · cases scanned
        exact .inl rfl
      · exact .inr scanned

theorem scanPlain_distinct {text : PythonText} {scan : Scan text PyJson}
    (scanned : scanPlain text = .ok scan) : scan.value.Distinct := by
  unfold scanPlain at scanned
  split at scanned
  · rename_i plain
    cases scanned
    exact distinct_ofValue _ plain
  · cases scanned
  · cases scanned

/-- No mapping that the scanner builds has a key twice. -/
theorem scansDistinct (length : Nat) : ScansDistinct length := by
  induction length using Nat.strong_induction_on with
  | _ length inductionHypothesis =>
      have value {depth : Nat} {text : PythonText} {scan : Scan text PyJson}
          (size : text.length = length)
          (scanned : scanValue depth text = .ok scan) :
          scan.value.Distinct := by
        cases text with
        | nil =>
            rw [scanValue_nil] at scanned
            cases scanned
        | cons first rest =>
            have smaller : (skipBlank rest).length < length := by
              have bound := skipBlank_length rest
              rw [List.length_cons] at size
              omega
            rw [scanValue_cons] at scanned
            split at scanned
            · simp only [bind_eq_ok, pure_eq_ok] at scanned
              rcases scanned with ⟨_, _, rfl⟩
              simp [Scan.within, PyJson.Distinct]
            split at scanned
            · split at scanned
              · cases scanned
              simp only [bind_eq_ok, pure_eq_ok] at scanned
              rcases scanned with ⟨items, listed, rfl⟩
              change PyJson.Distinct (.array items.value)
              rw [PyJson.Distinct]
              rcases scanArray_ok listed with empty | found
              · rw [empty, PyJson.ItemsDistinct]
                trivial
              · exact (inductionHypothesis _ smaller).items rfl found
            split at scanned
            · split at scanned
              · cases scanned
              simp only [bind_eq_ok, pure_eq_ok, ensure_eq_ok] at scanned
              rcases scanned with ⟨members, listed, _, distinct, rfl⟩
              change PyJson.Distinct (.object members.value)
              rw [PyJson.Distinct]
              refine ⟨distinct, ?_⟩
              rcases scanObject_ok listed with empty | found
              · rw [empty, PyJson.MembersDistinct]
                trivial
              · exact (inductionHypothesis _ smaller).members rfl found
            · exact scanPlain_distinct scanned
      refine ⟨value, ?_, ?_⟩
      · intro depth text scan size scanned
        rw [scanItems] at scanned
        simp only [bind_eq_ok, present_eq_ok] at scanned
        rcases scanned with ⟨item, first, mark, _, scanned⟩
        have smaller : (skipBlank mark.rest).length < length := by
          have bound := skipBlank_length mark.rest
          have before := item.shorter
          have behind := mark.shorter
          omega
        split at scanned
        · cases scanned
          rw [PyJson.ItemsDistinct, PyJson.ItemsDistinct]
          exact ⟨value size first, trivial⟩
        · simp only [bind_eq_ok, ensure_eq_ok, pure_eq_ok] at scanned
          rcases scanned with ⟨_, _, others, later, rfl⟩
          change PyJson.ItemsDistinct (item.value :: others.value)
          rw [PyJson.ItemsDistinct]
          exact ⟨value size first,
            (inductionHypothesis _ smaller).items rfl later⟩
      · intro depth text scan size scanned
        rw [scanMembers] at scanned
        simp only [bind_eq_ok, present_eq_ok] at scanned
        rcases scanned with ⟨name, _, item, first, mark, _, scanned⟩
        have inside : (skipBlank name.rest).length < length := by
          have bound := skipBlank_length name.rest
          have before := name.shorter
          omega
        have smaller : (skipBlank mark.rest).length < length := by
          have bound := skipBlank_length mark.rest
          have before := item.shorter
          have behind := mark.shorter
          omega
        have distinct := (inductionHypothesis _ inside).value rfl first
        split at scanned
        · cases scanned
          rw [PyJson.MembersDistinct, PyJson.MembersDistinct]
          exact ⟨distinct, trivial⟩
        · simp only [bind_eq_ok, ensure_eq_ok, pure_eq_ok] at scanned
          rcases scanned with ⟨_, _, others, later, rfl⟩
          rw [PyJson.MembersDistinct]
          exact ⟨distinct, (inductionHypothesis _ smaller).members rfl later⟩

/-! ## Integers of too many digits -/

/-- A numeral without fraction and exponent that has too many digits. -/
def TooManyDigits (unsigned : List Char) : Prop :=
  maxIntegerDigits < (integerDigits unsigned).1.length ∧
    (fraction (integerDigits unsigned).2).1 = [] ∧
      (exponent (fraction (integerDigits unsigned).2).2).1 = []

/-- A literal without its sign. -/
def unsigned : List Char → List Char
  | '-' :: rest => rest
  | characters => characters

/-- An integer literal of too many digits stands at the front. -/
def LongInteger (text : PythonText) : Prop :=
  TooManyDigits (unsigned (leading text))

/-- Where the scanner stands in a text. -/
inductive Place where
  | value
  | items
  | members

/--
Going through a text from a place on, the scanner comes to an integer literal
of too many digits: what stands before the literal is well formed, the objects
that it closes repeat no key, and its containers are not too deep.
-/
inductive Meets : Place → Nat → PythonText → Prop where
  | literal {depth : Nat} {text : PythonText} (long : LongInteger text) :
      Meets .value depth text
  | array {depth : Nat} {rest : PythonText}
      (inside : Meets .items depth (skipBlank rest)) :
      Meets .value (depth + 1) (.scalar '[' :: rest)
  | object {depth : Nat} {rest : PythonText}
      (inside : Meets .members depth (skipBlank rest)) :
      Meets .value (depth + 1) (.scalar '{' :: rest)
  | item {depth : Nat} {text : PythonText}
      (first : Meets .value depth text) :
      Meets .items depth text
  | laterItem {depth : Nat} {text : PythonText} {item : Scan text PyJson}
      {mark : Scan item.rest CodeUnit}
      (first : scanValue depth text = .ok item)
      (behind : nextMark item.rest = some mark)
      (comma : mark.value = .scalar ',')
      (later : Meets .items depth (skipBlank mark.rest)) :
      Meets .items depth text
  | member {depth : Nat} {text : PythonText} {name : Scan text PythonText}
      (named : scanName text = .ok name)
      (first : Meets .value depth (skipBlank name.rest)) :
      Meets .members depth text
  | laterMember {depth : Nat} {text : PythonText} {name : Scan text PythonText}
      {item : Scan (skipBlank name.rest) PyJson}
      {mark : Scan item.rest CodeUnit}
      (named : scanName text = .ok name)
      (first : scanValue depth (skipBlank name.rest) = .ok item)
      (behind : nextMark item.rest = some mark)
      (comma : mark.value = .scalar ',')
      (later : Meets .members depth (skipBlank mark.rest)) :
      Meets .members depth text

theorem readNumeral_tooMany {negative : Bool} {characters : List Char} :
    readNumeral negative characters = .error .integerDigits ↔
      TooManyDigits characters := by
  unfold readNumeral TooManyDigits
  simp only [bind_eq_error, ensure_eq_error, ensure_eq_ok]
  constructor
  · rintro (⟨_, refusal⟩ | ⟨_, digits, refused⟩)
    · cases refusal
    · split at refused
      · rename_i plain
        simp only [bind_eq_error, ensure_eq_error, ensure_eq_ok] at refused
        rcases refused with ⟨many, _⟩ | ⟨_, _, other⟩
        · exact ⟨not_le.1 many, plain⟩
        · cases other
      · cases refused
  · rintro ⟨many, plain⟩
    refine .inr ⟨(), ?_, ?_⟩
    · intro none
      rw [none] at many
      exact absurd many (Nat.not_lt_zero _)
    · rw [if_pos plain]
      simp only [bind_eq_error, ensure_eq_error]
      exact .inl ⟨not_le.2 many, trivial⟩

/-- No numeral begins with a character that is no digit. -/
theorem not_tooManyDigits {first : Char} {rest : List Char}
    (other : isDigit first = false) : ¬TooManyDigits (first :: rest) := by
  rintro ⟨many, _⟩
  have zero : first ≠ '0' := by
    rintro rfl
    exact absurd other (by decide)
  rw [integerDigits.eq_2 _ (by simpa using zero),
    List.takeWhile_cons_of_neg (by simp [other])] at many
  exact absurd many (Nat.not_lt_zero _)

theorem readPlain_tooMany (characters : List Char) :
    readPlain characters = .error .integerDigits ↔
      TooManyDigits (unsigned characters) := by
  have other {read : Read Value} {first : Char} {rest : List Char}
      (letter : isDigit first = false) :
      (Except.ok read : Except LoadsFailure (Read Value)) =
          .error .integerDigits ↔ TooManyDigits (first :: rest) :=
    ⟨fun same => (by cases same), fun many =>
      absurd many (not_tooManyDigits letter)⟩
  unfold readPlain
  split
  case h_7 => exact readNumeral_tooMany
  case h_8 noMinus =>
    rw [unsigned.eq_2 _ noMinus]
    exact readNumeral_tooMany
  all_goals exact other (by decide)

theorem scanPlain_tooMany {text : PythonText} :
    scanPlain text = .error .valueError ↔ LongInteger text := by
  rw [LongInteger, ← readPlain_tooMany]
  unfold scanPlain
  split
  · rename_i plain
    simp [plain]
  · rename_i plain
    simp [plain]
  · rename_i failure others plain
    simp only [plain, Except.error.injEq, reduceCtorEq, false_iff]
    exact others

/-- An integer literal begins with its sign or with a digit. -/
theorem LongInteger.first {first : CodeUnit} {rest : PythonText}
    (long : LongInteger (first :: rest)) :
    ∃ character, first = .scalar character ∧
      (character = '-' ∨ isDigit character = true) := by
  cases first with
  | surrogate code =>
      rcases long with ⟨many, _⟩
      exact absurd many (Nat.not_lt_zero _)
  | scalar character =>
      refine ⟨character, rfl, ?_⟩
      by_cases minus : character = '-'
      · exact .inl minus
      · refine .inr ?_
        rw [LongInteger, leading, unsigned.eq_2 _ (by simpa using minus)]
          at long
        by_contra other
        exact not_tooManyDigits (by simpa using other) long

theorem LongInteger.ne {first : Char} {rest : PythonText}
    (minus : first ≠ '-') (digit : isDigit first = false) :
    ¬LongInteger (.scalar first :: rest) := by
  intro long
  rcases long.first with ⟨character, same, begins⟩
  cases same
  rcases begins with sign | number
  · exact minus sign
  · rw [digit] at number
    cases number

/-- The scanner reads no value from a closing mark. -/
theorem scanValue_closing {depth : Nat} {first : Char} {rest : PythonText}
    (closing : first = ']' ∨ first = '}') :
    ∃ raised, scanValue depth (.scalar first :: rest) = .error raised ∧
      raised ≠ .valueError := by
  have plain : ∃ raised, scanPlain (.scalar first :: rest) = .error raised := by
    rcases closing with rfl | rfl <;>
    · unfold scanPlain
      split
      · rename_i read accepted
        cases accepted
      · exact ⟨_, rfl⟩
      · exact ⟨_, rfl⟩
  rcases plain with ⟨raised, refused⟩
  refine ⟨raised, ?_, ?_⟩
  · rw [scanValue_cons, if_neg, if_neg, if_neg, refused] <;>
      rcases closing with rfl | rfl <;> decide
  · rintro rfl
    have long := scanPlain_tooMany.1 refused
    rcases closing with rfl | rfl
    · exact LongInteger.ne (by decide) (by decide) long
    · exact LongInteger.ne (by decide) (by decide) long

/-- The three loops come to an integer of too many digits in texts of a length
exactly where the relation says so. -/
structure MeetsRaises (length : Nat) : Prop where
  value : ∀ {depth : Nat} {text : PythonText}, text.length = length →
    (scanValue depth text = .error .valueError ↔ Meets .value depth text)
  items : ∀ {depth : Nat} {text : PythonText}, text.length = length →
    (scanItems depth text = .error .valueError ↔ Meets .items depth text)
  members : ∀ {depth : Nat} {text : PythonText}, text.length = length →
    (scanMembers depth text = .error .valueError ↔ Meets .members depth text)

theorem scanArray_raises {depth : Nat} {text : PythonText} :
    scanArray depth text = .error .valueError ↔
      scanItems depth text = .error .valueError := by
  cases text with
  | nil =>
      rw [scanArray, scanItems]
      simp [bind_eq_error, scanValue_nil]
  | cons first rest =>
      rw [scanArray]
      split
      · rename_i closing
        rw [closing, scanItems]
        have closed : ∃ raised,
            scanValue depth (.scalar ']' :: rest) = .error raised ∧
              raised ≠ .valueError :=
          scanValue_closing (.inl rfl)
        rcases closed with ⟨raised, refused, other⟩
        simp [bind_eq_error, refused, other]
      · rfl

theorem scanName_raises (text : PythonText) :
    FailsOnly (· = .jsonDecodeError) (scanName text) := by
  cases text with
  | nil => exact .error rfl
  | cons first rest =>
      refine .bind (.ensure rfl) fun _ => ?_
      refine .bind (.present rfl) fun name => ?_
      refine .bind (.present rfl) fun colon => ?_
      exact .bind (.ensure rfl) fun _ => .ok _

theorem scanObject_raises {depth : Nat} {text : PythonText} :
    scanObject depth text = .error .valueError ↔
      scanMembers depth text = .error .valueError := by
  cases text with
  | nil =>
      rw [scanObject, scanMembers]
      simp [bind_eq_error, scanName]
  | cons first rest =>
      rw [scanObject]
      split
      · rename_i closing
        rw [closing, scanMembers]
        simp [scanName, ensure, bind, Except.bind]
      · rfl

theorem meetsRaises (length : Nat) : MeetsRaises length := by
  induction length using Nat.strong_induction_on with
  | _ length inductionHypothesis =>
      have value {depth : Nat} {text : PythonText}
          (size : text.length = length) :
          scanValue depth text = .error .valueError ↔
            Meets .value depth text := by
        cases text with
        | nil =>
            rw [scanValue_nil]
            refine ⟨fun same => (by cases same), fun meets => ?_⟩
            cases meets with
            | literal long => exact absurd long.1 (Nat.not_lt_zero _)
        | cons first rest =>
            have smaller : (skipBlank rest).length < length := by
              have bound := skipBlank_length rest
              rw [List.length_cons] at size
              omega
            have inside := inductionHypothesis _ smaller
            rw [scanValue_cons]
            split
            · rename_i quote
              subst quote
              refine ⟨fun refused => ?_, fun meets => ?_⟩
              · rcases bind_eq_error.1 refused with unread | ⟨_, _, other⟩
                · rcases present_eq_error.1 unread with ⟨_, other⟩
                  cases other
                · cases other
              · cases meets with
                | literal long =>
                    exact absurd long (LongInteger.ne (by decide) (by decide))
            split
            · rename_i bracket
              subst bracket
              cases depth with
              | zero =>
                  refine ⟨fun same => (by cases same), fun meets => ?_⟩
                  cases meets with
                  | literal long =>
                      exact absurd long
                        (LongInteger.ne (by decide) (by decide))
              | succ depth =>
                  rw [bind_eq_error]
                  constructor
                  · rintro (refused | ⟨_, _, other⟩)
                    · exact .array
                        ((inside.items rfl).1 (scanArray_raises.1 refused))
                    · cases other
                  · intro meets
                    cases meets with
                    | literal long =>
                        exact absurd long
                          (LongInteger.ne (by decide) (by decide))
                    | array meets =>
                        exact .inl
                          (scanArray_raises.2 ((inside.items rfl).2 meets))
            split
            · rename_i brace
              subst brace
              cases depth with
              | zero =>
                  refine ⟨fun same => (by cases same), fun meets => ?_⟩
                  cases meets with
                  | literal long =>
                      exact absurd long
                        (LongInteger.ne (by decide) (by decide))
              | succ depth =>
                  rw [bind_eq_error]
                  constructor
                  · rintro (refused | ⟨_, _, other⟩)
                    · exact .object
                        ((inside.members rfl).1 (scanObject_raises.1 refused))
                    · rcases bind_eq_error.1 other with twice | ⟨_, _, other⟩
                      · rcases ensure_eq_error.1 twice with ⟨_, other⟩
                        cases other
                      · cases other
                  · intro meets
                    cases meets with
                    | literal long =>
                        exact absurd long
                          (LongInteger.ne (by decide) (by decide))
                    | object meets =>
                        exact .inl
                          (scanObject_raises.2 ((inside.members rfl).2 meets))
            · rename_i noQuote noBracket noBrace
              rw [scanPlain_tooMany]
              constructor
              · exact .literal
              · intro meets
                cases meets with
                | literal long => exact long
                | array _ => exact absurd rfl noBracket
                | object _ => exact absurd rfl noBrace
      refine ⟨value, ?_, ?_⟩
      · intro depth text size
        have smaller {item : Scan text PyJson}
            (mark : Scan item.rest CodeUnit) :
            (skipBlank mark.rest).length < length := by
          have bound := skipBlank_length mark.rest
          have before := item.shorter
          have behind := mark.shorter
          omega
        rw [scanItems]
        constructor
        · intro refused
          rcases bind_eq_error.1 refused with first | ⟨item, first, refused⟩
          · exact .item ((value size).1 first)
          rcases bind_eq_error.1 refused with none | ⟨mark, behind, refused⟩
          · rcases present_eq_error.1 none with ⟨_, other⟩
            cases other
          split at refused
          · cases refused
          rcases bind_eq_error.1 refused with noComma | ⟨_, comma, refused⟩
          · rcases ensure_eq_error.1 noComma with ⟨_, other⟩
            cases other
          rcases bind_eq_error.1 refused with later | ⟨_, _, other⟩
          · exact .laterItem first (present_eq_ok.1 behind)
              (ensure_eq_ok.1 comma)
              (((inductionHypothesis _ (smaller mark)).items rfl).1 later)
          · cases other
        · intro meets
          cases meets with
          | item first =>
              exact bind_eq_error.2 (.inl ((value size).2 first))
          | laterItem first behind comma later =>
              rename_i item mark
              refine bind_eq_error.2 (.inr ⟨item, first, ?_⟩)
              refine bind_eq_error.2 (.inr ⟨mark, present_eq_ok.2 behind, ?_⟩)
              rw [if_neg (by simp [comma])]
              refine bind_eq_error.2 (.inr ⟨(), ensure_eq_ok.2 comma, ?_⟩)
              exact bind_eq_error.2 (.inl
                (((inductionHypothesis _ (smaller mark)).items rfl).2 later))
      · intro depth text size
        have first (name : Scan text PythonText) :
            (skipBlank name.rest).length < length := by
          have bound := skipBlank_length name.rest
          have before := name.shorter
          omega
        have smaller {name : Scan text PythonText}
            {item : Scan (skipBlank name.rest) PyJson}
            (mark : Scan item.rest CodeUnit) :
            (skipBlank mark.rest).length < length := by
          have bound := skipBlank_length mark.rest
          have before := item.shorter
          have behind := mark.shorter
          have named := first name
          omega
        rw [scanMembers]
        constructor
        · intro refused
          rcases bind_eq_error.1 refused with unnamed | ⟨name, named, refused⟩
          · cases scanName_raises text _ unnamed
          rcases bind_eq_error.1 refused with here | ⟨item, read, refused⟩
          · exact .member named
              (((inductionHypothesis _ (first name)).value rfl).1 here)
          rcases bind_eq_error.1 refused with none | ⟨mark, behind, refused⟩
          · rcases present_eq_error.1 none with ⟨_, other⟩
            cases other
          split at refused
          · cases refused
          rcases bind_eq_error.1 refused with noComma | ⟨_, comma, refused⟩
          · rcases ensure_eq_error.1 noComma with ⟨_, other⟩
            cases other
          rcases bind_eq_error.1 refused with later | ⟨_, _, other⟩
          · exact .laterMember named read (present_eq_ok.1 behind)
              (ensure_eq_ok.1 comma)
              (((inductionHypothesis _ (smaller mark)).members rfl).1 later)
          · cases other
        · intro meets
          cases meets with
          | member named here =>
              rename_i name
              refine bind_eq_error.2 (.inr ⟨name, named, ?_⟩)
              exact bind_eq_error.2 (.inl
                (((inductionHypothesis _ (first name)).value rfl).2 here))
          | laterMember named read behind comma later =>
              rename_i name item mark
              refine bind_eq_error.2 (.inr ⟨name, named, ?_⟩)
              refine bind_eq_error.2 (.inr ⟨item, read, ?_⟩)
              refine bind_eq_error.2 (.inr ⟨mark, present_eq_ok.2 behind, ?_⟩)
              rw [if_neg (by simp [comma])]
              refine bind_eq_error.2 (.inr ⟨(), ensure_eq_ok.2 comma, ?_⟩)
              exact bind_eq_error.2 (.inl
                (((inductionHypothesis _ (smaller mark)).members rfl).2 later))

/-! ## What escapes the decoder -/

/-- The scanner of `json.loads` comes to an integer literal of too many
digits in the text, or in what the octets decode to. -/
def MeetsLongInteger (depth : Nat) : JsonSource → Prop
  | .str text =>
      text.head? ≠ some (.scalar '\ufeff') ∧
        Meets .value depth (skipBlank text)
  | .bytes octets =>
      ∃ text, decodeWith octets (detectEncoding octets) = some text ∧
        Meets .value depth (skipBlank text)

theorem decodeDocument_distinct {depth : Nat} {text : PythonText}
    {value : PyJson} (read : decodeDocument depth text = .ok value) :
    value.Distinct := by
  simp only [decodeDocument, bind_eq_ok, pure_eq_ok] at read
  rcases read with ⟨scan, scanned, _, _, rfl⟩
  exact (scansDistinct _).value rfl scanned

theorem loads_distinct {depth : Nat} {source : JsonSource} {value : PyJson}
    (read : loads depth source = .ok value) : value.Distinct := by
  cases source with
  | str text =>
      simp only [loads, bind_eq_ok] at read
      rcases read with ⟨_, _, document⟩
      exact decodeDocument_distinct document
  | bytes octets =>
      simp only [loads, bind_eq_ok] at read
      rcases read with ⟨_, _, document⟩
      exact decodeDocument_distinct document

theorem decodeDocument_raises {depth : Nat} {text : PythonText} :
    decodeDocument depth text = .error .valueError ↔
      Meets .value depth (skipBlank text) := by
  rw [← (meetsRaises _).value rfl, decodeDocument, bind_eq_error]
  constructor
  · rintro (scanned | ⟨scan, _, other⟩)
    · exact scanned
    · rcases bind_eq_error.1 other with extra | ⟨_, _, other⟩
      · cases (ensure_eq_error.1 extra).2
      · cases other
  · exact .inl

theorem loads_raises {depth : Nat} {source : JsonSource} :
    loads depth source = .error .valueError ↔
      MeetsLongInteger depth source := by
  cases source with
  | str text =>
      rw [loads, bind_eq_error, MeetsLongInteger, ← decodeDocument_raises]
      constructor
      · rintro (marked | ⟨_, unmarked, refused⟩)
        · cases (ensure_eq_error.1 marked).2
        · exact ⟨ensure_eq_ok.1 unmarked, refused⟩
      · rintro ⟨unmarked, refused⟩
        exact .inr ⟨(), ensure_eq_ok.2 unmarked, refused⟩
  | bytes octets =>
      simp only [loads, bind_eq_error, MeetsLongInteger,
        ← decodeDocument_raises]
      constructor
      · rintro (undecoded | ⟨text, decoded, refused⟩)
        · cases (present_eq_error.1 undecoded).2
        · exact ⟨text, present_eq_ok.1 decoded, refused⟩
      · rintro ⟨text, decoded, refused⟩
        exact .inr ⟨text, present_eq_ok.2 decoded, refused⟩

/-- `decode` returns values of the profile. -/
theorem decode_inProfile {host : Host} {interpreter : Interpreter}
    {source : JsonSource} {value : PyJson}
    (decoded : decode host interpreter source = .ok value) :
    value.InProfile host := by
  simp only [decode, recast_eq_ok, bind_eq_ok, pure_eq_ok] at decoded
  rcases decoded with ⟨_, read, octets, encoded, rfl⟩
  simp only [canonicalOctets, bind_eq_ok] at encoded
  rcases encoded with ⟨text, written, _⟩
  exact inProfile_of_encodeValue _ (loads_distinct read) written

/-- What escapes `decode` and is no canonicalization error is the error of an
integer literal. -/
theorem decode_raises {host : Host} {interpreter : Interpreter}
    {source : JsonSource} {raised : PythonError}
    (refused : decode host interpreter source = .error raised) :
    (∃ refusal, raised = .canonicalizationError refusal) ∨
      raised = .valueError ∧
        loads interpreter.scanDepth source = .error .valueError := by
  rw [decode, recast_eq_error] at refused
  rcases refused with ⟨failure, body, rfl⟩
  rcases bind_eq_error.1 body with unread | ⟨value, _, unwritten⟩
  · cases failure with
    | jsonDecodeError => exact .inl ⟨_, rfl⟩
    | unicodeDecodeError => exact .inl ⟨_, rfl⟩
    | recursionError => exact .inl ⟨_, rfl⟩
    | canonicalizationError refusal => exact .inl ⟨refusal, rfl⟩
    | valueError => exact .inr ⟨rfl, unread⟩
  · have encoder : FailsOnly EncoderRaises
        (canonicalOctets host interpreter.encodeDepth value >>= fun _ =>
          pure value) :=
      .bind (.bind (encodeValue_raises value _) fun _ => .ok _) fun _ => .ok _
    rcases encoder _ unwritten with rfl | ⟨refusal, rfl⟩
    · exact .inl ⟨_, rfl⟩
    · exact .inl ⟨refusal, rfl⟩

/-- `decode` returns a value of the profile or raises its own error. -/
def DecodesOrRefuses (host : Host) (interpreter : Interpreter)
    (source : JsonSource) : Prop :=
  (∃ value, decode host interpreter source = .ok value ∧
      value.InProfile host) ∨
    ∃ refusal,
      decode host interpreter source = .error (.canonicalizationError refusal)

/--
A `str` or `bytes` is decoded into the profile or refused with the
canonicalization error, unless the scanner comes to an integer literal of more
digits than `int` converts; there a plain `ValueError` escapes.
-/
theorem decodesOrRefuses_iff (host : Host) (interpreter : Interpreter)
    (source : JsonSource) :
    DecodesOrRefuses host interpreter source ↔
      ¬MeetsLongInteger interpreter.scanDepth source := by
  rw [← loads_raises]
  constructor
  · intro lawful read
    have escaped : decode host interpreter source = .error .valueError := by
      rw [decode, read]
      rfl
    rcases lawful with ⟨value, decoded, _⟩ | ⟨refusal, refused⟩
    · rw [escaped] at decoded
      cases decoded
    · rw [escaped] at refused
      cases refused
  · intro short
    cases decoded : decode host interpreter source with
    | ok value => exact .inl ⟨value, decoded, decode_inProfile decoded⟩
    | error raised =>
        rcases decode_raises decoded with ⟨refusal, rfl⟩ | ⟨_, long⟩
        · exact .inr ⟨refusal, decoded⟩
        · exact absurd long short

theorem leading_scalars (characters : List Char) :
    leading (characters.map .scalar) = characters := by
  induction characters with
  | nil => rfl
  | cons first rest inductionHypothesis =>
      rw [List.map_cons, leading, inductionHypothesis]

/-- A run of the digit one. -/
def ones (count : Nat) : List Char := List.replicate count '1'

theorem longInteger_ones {count : Nat} (many : maxIntegerDigits < count) :
    LongInteger ((ones count).map .scalar) := by
  have digits : integerDigits (ones count) = (ones count, []) := by
    rw [integerDigits.eq_2]
    · have all : ∀ character ∈ ones count, isDigit character = true := by
        intro character held
        rw [List.eq_of_mem_replicate held]
        rfl
      rw [List.takeWhile_eq_self_iff.2 all, List.dropWhile_eq_nil_iff.2 all]
    · intro rest zero
      have held : '0' ∈ ones count := by
        rw [zero]
        exact List.mem_cons_self
      exact absurd (List.eq_of_mem_replicate held) (by decide)
  have plain : unsigned (ones count) = ones count := by
    rw [unsigned.eq_2]
    intro rest minus
    have held : '-' ∈ ones count := by
      rw [minus]
      exact List.mem_cons_self
    exact absurd (List.eq_of_mem_replicate held) (by decide)
  rw [LongInteger, leading_scalars, plain, TooManyDigits, digits]
  exact ⟨by simpa [ones] using many, rfl, rfl⟩

/-- The text of 4301 digits makes a plain `ValueError` escape. -/
theorem longNumeral_escapes :
    ¬DecodesOrRefuses plainHost ⟨1000, 300⟩
      (.str ((ones 4301).map .scalar)) := by
  have long : LongInteger ((ones 4301).map .scalar) :=
    longInteger_ones (by decide)
  have blank : skipBlank ((ones 4301).map .scalar) =
      (ones 4301).map .scalar := rfl
  have read : loads 1000 (.str ((ones 4301).map .scalar)) =
      .error .valueError := by
    refine loads_raises.2 ⟨by decide, ?_⟩
    rw [blank]
    exact .literal long
  have escaped : decode plainHost ⟨1000, 300⟩
      (.str ((ones 4301).map .scalar)) = .error .valueError := by
    rw [decode, read]
    rfl
  rintro (⟨value, decoded, _⟩ | ⟨refusal, refused⟩)
  · rw [escaped] at decoded
    cases decoded
  · rw [escaped] at refused
    cases refused

end AerialRescue.Contracts.TextDecoding
