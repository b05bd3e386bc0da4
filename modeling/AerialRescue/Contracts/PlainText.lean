import AerialRescue.Contracts.Canonical

/-!
# Values in plain text

Most documents of the services hold printable text without a quote or a
backslash.  Their canonical bytes are the stored octets of their texts between
quotes, which `plainBytes` puts together without decoding a text first.
-/

namespace AerialRescue.Contracts.Canonical

open AerialRescue.Lib.Guard

/-! ## Texts -/

/-- The octets of a text as they are stored. -/
def octets (text : String) : Bytes :=
  text.toByteArray.data.toList

theorem utf8_toList (text : String) : utf8 text.toList = octets text := by
  unfold octets
  rw [← String.utf8Encode_toList]
  exact List.toList_data_toByteArray.symm

theorem octets_append (left right : String) :
    octets (left ++ right) = octets left ++ octets right := by
  simp [octets]

/-- An octet outside the control characters, the quote and the backslash. -/
def isPlainOctet (octet : UInt8) : Bool :=
  32 ≤ octet.toNat && octet.toNat != 34 && octet.toNat != 92

/-- A character of plain octets is not escaped. -/
theorem escape_of_plain {character : Char}
    (plain : (String.utf8EncodeChar character).all isPlainOctet = true) :
    escape character = [character] := by
  have other (special : Char)
      (escaped : (String.utf8EncodeChar special).all isPlainOctet = false) :
      character ≠ special := by
    rintro rfl
    rw [plain] at escaped
    cases escaped
  have printable : ¬character < ' ' := by
    intro control
    have small : character.toNat < 32 := control
    have single : character.utf8Size = 1 := by
      rw [Char.utf8Size_eq_one_iff]
      exact UInt32.le_iff_toNat_le.2 (show character.toNat ≤ 127 by omega)
    rw [String.utf8EncodeChar_eq_singleton single] at plain
    have octet : character.val.toUInt8.toNat = character.toNat := by
      rw [UInt32.toNat_toUInt8]
      exact Nat.mod_eq_of_lt (by change character.toNat < 256; omega)
    simp only [List.all_cons, List.all_nil, isPlainOctet, octet,
      Bool.and_eq_true, decide_eq_true_eq] at plain
    omega
  unfold escape
  rw [if_neg (other _ (by decide)), if_neg (other _ (by decide)),
    if_neg (other _ (by decide)), if_neg (other _ (by decide)),
    if_neg (other _ (by decide)), if_neg (other _ (by decide)),
    if_neg (other _ (by decide)), if_neg printable]

theorem flatMap_escape_of_plain {characters : List Char}
    (plain : (utf8 characters).all isPlainOctet = true) :
    characters.flatMap escape = characters := by
  induction characters with
  | nil => rfl
  | cons first rest inductionHypothesis =>
      simp only [utf8, List.flatMap_cons, List.all_append,
        Bool.and_eq_true] at plain
      rw [List.flatMap_cons, escape_of_plain plain.1,
        inductionHypothesis plain.2]
      rfl

/-- A plain text between quotes. -/
def plainString (text : String) : Option Bytes :=
  let stored := octets text
  if stored.length ≤ maxStringBytes && stored.all isPlainOctet then
    some (34 :: (stored ++ [34]))
  else
    none

/-- The characters of an encoding and the octets they come to. -/
def Spelled (encoded : Except Refusal (List Char)) (bytes : Bytes) : Prop :=
  ∃ characters, encoded = .ok characters ∧ utf8 characters = bytes

theorem utf8_append (left right : List Char) :
    utf8 (left ++ right) = utf8 left ++ utf8 right :=
  List.flatMap_append

theorem plainString_spelled {text : String} {bytes : Bytes}
    (plain : plainString text = some bytes) :
    Spelled (encodeString plainHost text) bytes := by
  unfold plainString at plain
  dsimp only at plain
  split at plain
  · rename_i fits
    rw [Bool.and_eq_true, decide_eq_true_eq] at fits
    cases plain
    have unescaped : text.toList.flatMap escape = text.toList := by
      apply flatMap_escape_of_plain
      rw [utf8_toList]
      exact fits.2
    have short : ¬maxStringBytes < text.utf8ByteSize := by
      have size : (octets text).length = text.utf8ByteSize := rfl
      omega
    refine ⟨['"'] ++ text.toList ++ ['"'], ?_, ?_⟩
    · simp only [encodeString, plainHost, id_eq, if_neg short, unescaped]
    · rw [utf8_append, utf8_append, utf8_toList]
      rfl
  · cases plain

/-! ## Values -/

/-- `",".join(parts)` -/
def joinOctets : List Bytes → Bytes
  | [] => []
  | [part] => part
  | part :: rest => part ++ [44] ++ joinOctets rest

theorem utf8_joinComma (parts : List (List Char)) :
    utf8 (joinComma parts) = joinOctets (parts.map utf8) := by
  induction parts using joinComma.induct with
  | case1 => rfl
  | case2 part => rfl
  | case3 part rest nonempty inductionHypothesis =>
      rw [joinComma, utf8_append, utf8_append, inductionHypothesis]
      · cases rest with
        | nil => exact absurd rfl nonempty
        | cons next later => rfl
      · exact nonempty

/-- One member of an object. -/
def plainMember (member : String × Option Bytes) : Option Bytes := do
  let name ← plainString member.1
  let item ← member.2
  pure (name ++ [58] ++ item)

/-- The plain members of an object in ascending key order. -/
def plainSorted (members : List (String × Option Bytes)) : Option Bytes :=
  if members.all fun member => (canonicalKey member.1).isOk then
    ((members.insertionSort fun left right => left.1 ≤ right.1).mapM
      plainMember).map fun parts => 123 :: (joinOctets parts ++ [125])
  else
    none

mutual

/-- The canonical bytes of a value in plain text. -/
def plainBytes : Value → Option Bytes
  | .null => some [110, 117, 108, 108]
  | .bool true => some [116, 114, 117, 101]
  | .bool false => some [102, 97, 108, 115, 101]
  | .int value => (encodeInteger value).toOption.map utf8
  | .float _ => none
  | .text value => plainString value
  | .array items => do
      let parts ← plainItems items
      pure (91 :: (joinOctets parts ++ [93]))
  | .object members => plainSorted (plainMembers members)

/-- The items of an array, in order. -/
def plainItems : List Value → Option (List Bytes)
  | [] => some []
  | item :: rest => do
      let first ← plainBytes item
      let others ← plainItems rest
      pure (first :: others)

/-- The members of an object, each with the bytes of its value. -/
def plainMembers : Value.Members → List (String × Option Bytes)
  | [] => []
  | (key, value) :: rest => (key, plainBytes value) :: plainMembers rest

end

theorem encodeMembers_eq_map (host : Host) (members : Value.Members) :
    encodeMembers host members =
      members.map fun member => (member.1, encode host member.2) := by
  induction members with
  | nil => rfl
  | cons first rest inductionHypothesis =>
      rw [encodeMembers, inductionHypothesis]
      rfl

theorem plainMembers_eq_map (members : Value.Members) :
    plainMembers members =
      members.map fun member => (member.1, plainBytes member.2) := by
  induction members with
  | nil => rfl
  | cons first rest inductionHypothesis =>
      rw [plainMembers, inductionHypothesis]
      rfl

/-- Parts that are spelled one by one are spelled together. -/
theorem mapM_spelled {α : Type} {encoded : α → Except Refusal (List Char)}
    {plain : α → Option Bytes} {items : List α}
    (each : ∀ item ∈ items, ∀ bytes,
      plain item = some bytes → Spelled (encoded item) bytes)
    {parts : List Bytes} (joined : items.mapM plain = some parts) :
    ∃ characters,
      items.mapM encoded = .ok characters ∧ characters.map utf8 = parts := by
  induction items generalizing parts with
  | nil =>
      simp only [List.mapM_nil, Option.pure_def, Option.some.injEq] at joined
      exact ⟨[], rfl, joined⟩
  | cons first rest inductionHypothesis =>
      simp only [List.mapM_cons, Option.bind_eq_bind, Option.bind_eq_some_iff,
        Option.pure_def, Option.some.injEq] at joined
      rcases joined with ⟨bytes, plainly, others, later, rfl⟩
      rcases each first List.mem_cons_self bytes plainly with
        ⟨characters, encodes, spells⟩
      rcases inductionHypothesis
        (fun item member => each item (List.mem_cons_of_mem _ member))
        later with ⟨rest, follows, spelled⟩
      refine ⟨characters :: rest, ?_, ?_⟩
      · simp only [List.mapM_cons, bind_eq_ok, pure_eq_ok]
        exact ⟨characters, encodes, rest, follows, rfl⟩
      · rw [List.map_cons, spells, spelled]

/-- Members are put in the order of their keys, whatever their values. -/
theorem insertionSort_keyed {α : Type} (change : Value → α)
    (members : Value.Members) :
    (members.map fun member => (member.1, change member.2)).insertionSort
        (fun left right => left.1 ≤ right.1) =
      (members.insertionSort fun left right => left.1 ≤ right.1).map
        fun member => (member.1, change member.2) := by
  refine (List.map_insertionSort _ _ _ members ?_).symm
  intro left _ right _
  exact Iff.rfl

theorem plainMember_spelled (name : String) (value : Value) (bytes : Bytes)
    (held : ∀ bytes, plainBytes value = some bytes →
      Spelled (encode plainHost value) bytes)
    (plain : plainMember (name, plainBytes value) = some bytes) :
    Spelled
      (do
        let key ← encodeString plainHost name
        let item ← encode plainHost value
        pure (key ++ [':'] ++ item))
      bytes := by
  simp only [plainMember, Option.bind_eq_bind, Option.bind_eq_some_iff,
    Option.pure_def, Option.some.injEq] at plain
  rcases plain with ⟨key, named, item, valued, rfl⟩
  rcases plainString_spelled named with ⟨left, encodes, rfl⟩
  rcases held item valued with ⟨right, follows, rfl⟩
  refine ⟨left ++ [':'] ++ right, ?_, ?_⟩
  · rw [encodes, follows]
    rfl
  · rw [utf8_append, utf8_append]
    rfl

/-- Keys that are admitted one by one are admitted together. -/
theorem mapM_canonicalKey {α : Type} {members : List (String × α)}
    (admitted :
      (members.all fun member => (canonicalKey member.1).isOk) = true) :
    ∃ keys, (members.mapM fun member => canonicalKey member.1) =
      Except.ok keys := by
  induction members with
  | nil => exact ⟨[], rfl⟩
  | cons first rest inductionHypothesis =>
      rw [List.all_cons, Bool.and_eq_true, isOk_eq_true] at admitted
      rcases admitted with ⟨⟨key, formed⟩, later⟩
      rcases inductionHypothesis later with ⟨keys, others⟩
      refine ⟨key :: keys, ?_⟩
      simp only [List.mapM_cons, bind_eq_ok, pure_eq_ok]
      exact ⟨key, formed, keys, others, rfl⟩

/-- An object is spelled when the values of its members are. -/
theorem plainSorted_spelled {members : Value.Members} {bytes : Bytes}
    (each : ∀ member ∈ members, ∀ bytes,
      plainBytes member.2 = some bytes →
        Spelled (encode plainHost member.2) bytes)
    (plain : plainSorted (plainMembers members) = some bytes) :
    Spelled (encodeSorted plainHost (encodeMembers plainHost members))
      bytes := by
  rw [plainMembers_eq_map] at plain
  unfold plainSorted at plain
  split at plain
  · rename_i admitted
    rw [Option.map_eq_some_iff] at plain
    rcases plain with ⟨parts, joined, rfl⟩
    rw [insertionSort_keyed, List.mapM_map] at joined
    have members (member : String × Value)
        (among : member ∈
          members.insertionSort fun left right => left.1 ≤ right.1)
        (bytes : Bytes) :=
      plainMember_spelled member.1 member.2 bytes
        (each member ((List.mem_insertionSort _).1 among))
    rcases mapM_spelled members joined with ⟨characters, encodes, rfl⟩
    rcases mapM_canonicalKey admitted with ⟨keys, formed⟩
    rw [List.mapM_map] at formed
    refine ⟨['{'] ++ joinComma characters ++ ['}'], ?_, ?_⟩
    · rw [encodeMembers_eq_map]
      simp only [encodeSorted, bind_eq_ok, pure_eq_ok]
      refine ⟨keys, ?_, characters, ?_, rfl⟩
      · rw [List.mapM_map]
        exact formed
      · rw [insertionSort_keyed, List.mapM_map]
        exact encodes
    · rw [utf8_append, utf8_append, utf8_joinComma]
      rfl
  · cases plain

mutual

/-- The plain bytes of a value are its canonical bytes. -/
theorem plainBytes_spelled :
    ∀ (value : Value) (bytes : Bytes), plainBytes value = some bytes →
      Spelled (encode plainHost value) bytes
  | .null, _, plain => by
      cases plain
      exact ⟨['n', 'u', 'l', 'l'], by rw [encode]; rfl, rfl⟩
  | .bool true, _, plain => by
      cases plain
      exact ⟨['t', 'r', 'u', 'e'], by rw [encode]; rfl, rfl⟩
  | .bool false, _, plain => by
      cases plain
      exact ⟨['f', 'a', 'l', 's', 'e'], by rw [encode]; rfl, rfl⟩
  | .int value, bytes, plain => by
      rw [encode]
      rw [plainBytes, Option.map_eq_some_iff] at plain
      rcases plain with ⟨characters, encodes, rfl⟩
      cases encoded : encodeInteger value with
      | ok text =>
          rw [encoded] at encodes
          cases encodes
          exact ⟨characters, rfl, rfl⟩
      | error refusal =>
          rw [encoded] at encodes
          cases encodes
  | .float _, _, plain => by cases plain
  | .text value, bytes, plain => by
      rw [plainBytes] at plain
      rw [encode]
      exact plainString_spelled plain
  | .array items, bytes, plain => by
      simp only [plainBytes, Option.bind_eq_bind, Option.bind_eq_some_iff,
        Option.pure_def, Option.some.injEq] at plain
      rcases plain with ⟨parts, joined, rfl⟩
      rcases plainItems_spelled items parts joined with
        ⟨characters, encodes, rfl⟩
      refine ⟨['['] ++ joinComma characters ++ [']'], ?_, ?_⟩
      · rw [encode, encodes]
        rfl
      · rw [utf8_append, utf8_append, utf8_joinComma]
        rfl
  | .object members, bytes, plain => by
      rw [plainBytes] at plain
      rw [encode]
      exact plainSorted_spelled (plainMembers_spelled members) plain

theorem plainItems_spelled :
    ∀ (items : List Value) (parts : List Bytes),
      plainItems items = some parts →
        ∃ characters,
          encodeItems plainHost items = .ok characters ∧
            characters.map utf8 = parts
  | [], _, plain => by
      cases plain
      exact ⟨[], by rw [encodeItems], rfl⟩
  | item :: rest, parts, plain => by
      simp only [plainItems, Option.bind_eq_bind, Option.bind_eq_some_iff,
        Option.pure_def, Option.some.injEq] at plain
      rcases plain with ⟨bytes, first, others, later, rfl⟩
      rcases plainBytes_spelled item bytes first with
        ⟨characters, encodes, rfl⟩
      rcases plainItems_spelled rest others later with
        ⟨remaining, follows, rfl⟩
      refine ⟨characters :: remaining, ?_, rfl⟩
      rw [encodeItems, encodes, follows]
      rfl

theorem plainMembers_spelled :
    ∀ (members : Value.Members), ∀ member ∈ members, ∀ bytes,
      plainBytes member.2 = some bytes →
        Spelled (encode plainHost member.2) bytes
  | [], _, absent, _, _ => absurd absent List.not_mem_nil
  | (key, value) :: rest, member, among, bytes, plain => by
      rcases List.mem_cons.1 among with rfl | later
      · exact plainBytes_spelled value bytes plain
      · exact plainMembers_spelled rest member later bytes plain

end

/-- A value in plain text encodes to its plain bytes. -/
theorem bytesOf_of_plain {value : Value} {bytes : Bytes}
    (plain : plainBytes value = some bytes) : bytesOf value = bytes := by
  rcases plainBytes_spelled value bytes plain with ⟨text, encodes, spells⟩
  unfold bytesOf
  rw [encodes]
  exact spells

/-- What a view shows of the canonical bytes of a value in plain text. -/
theorem view_bytesOf {β : Type} {view : Bytes → β} {value : Value} {seen : β}
    (shown : (plainBytes value).map view = some seen) :
    view (bytesOf value) = seen := by
  rw [Option.map_eq_some_iff] at shown
  rcases shown with ⟨bytes, plain, rfl⟩
  rw [bytesOf_of_plain plain]

theorem map_view_bytesOf {β : Type} {view : Bytes → β}
    {documents : List Value} {seen : List β}
    (shown :
      (documents.map fun held => (plainBytes held).map view) =
        seen.map some) :
    (documents.map fun held => view (bytesOf held)) = seen := by
  induction documents generalizing seen with
  | nil =>
      cases seen with
      | nil => rfl
      | cons _ _ => cases shown
  | cons first rest inductionHypothesis =>
      cases seen with
      | nil => cases shown
      | cons other later =>
          rw [List.map_cons, List.map_cons, List.cons.injEq] at shown
          rw [List.map_cons, view_bytesOf shown.1,
            inductionHypothesis shown.2]

end AerialRescue.Contracts.Canonical
