import AerialRescue.Contracts.Canonical

/-!
# JSON texts

The compact text of a value and the reader of JSON texts, `json.loads`: white
space, the literals, numerals with fraction and exponent, strings with every
escape, arrays and objects.  An object that repeats a key is
refused, and a text with an unpaired surrogate is reported as such.

Reading what was written returns the value, so that no two values have one
text.
-/

namespace AerialRescue.Contracts.JsonText

open AerialRescue.Lib.Guard
open AerialRescue.Contracts.Canonical

/-! ## Writing -/

/-- A text between quotes. -/
def quoted (text : String) : List Char :=
  ['"'] ++ text.toList.flatMap escape ++ ['"']

mutual

/-- The text of a value without white space. -/
def written : Value → List Char
  | .null => ['n', 'u', 'l', 'l']
  | .bool true => ['t', 'r', 'u', 'e']
  | .bool false => ['f', 'a', 'l', 's', 'e']
  | .int value => (toString value).toList
  | .float repr => repr.toList
  | .text value => quoted value
  | .array items => ['['] ++ joinComma (writtenItems items) ++ [']']
  | .object members => ['{'] ++ joinComma (writtenMembers members) ++ ['}']

def writtenItems : List Value → List (List Char)
  | [] => []
  | item :: rest => written item :: writtenItems rest

def writtenMembers : Value.Members → List (List Char)
  | [] => []
  | (key, value) :: rest =>
      (quoted key ++ [':'] ++ written value) :: writtenMembers rest

end

/-! ## Reading -/

/-- What was read, whether its surrogates were paired, and what follows. -/
structure Read (α : Type) where
  value : α
  paired : Bool
  rest : List Char

/-- A character of JSON's white space. -/
def isSpace (character : Char) : Bool :=
  character = ' ' || character = '\t' || character = '\n' ||
    character = '\r'

def skipSpace (characters : List Char) : List Char :=
  characters.dropWhile isSpace

/-- The number that a hexadecimal digit stands for. -/
def hexValue (character : Char) : Option Nat :=
  if isDigit character then some (character.toNat - 48)
  else if 'a' ≤ character && character ≤ 'f' then
    some (character.toNat - 87)
  else if 'A' ≤ character && character ≤ 'F' then
    some (character.toNat - 55)
  else none

/-- The number that four hexadecimal digits stand for. -/
def hexCode (first second third fourth : Char) : Option Nat := do
  let a ← hexValue first
  let b ← hexValue second
  let c ← hexValue third
  let d ← hexValue fourth
  pure (((a * 16 + b) * 16 + c) * 16 + d)

/-- The character of a one-letter escape. -/
def shortEscape (letter : Char) : Option Char :=
  if letter = '"' then some '"'
  else if letter = '\\' then some '\\'
  else if letter = '/' then some '/'
  else if letter = 'b' then some '\x08'
  else if letter = 'f' then some '\x0c'
  else if letter = 'n' then some '\n'
  else if letter = 'r' then some '\r'
  else if letter = 't' then some '\t'
  else none

/-- A character of a string, or a surrogate that an escape named. -/
inductive CodeUnit where
  | scalar (character : Char)
  | surrogate (code : Nat)
deriving DecidableEq

/-- The unit that a four-digit escape names. -/
def codeUnit (code : Nat) : CodeUnit :=
  if 0xD800 ≤ code ∧ code ≤ 0xDFFF then .surrogate code
  else .scalar (Char.ofNat code)

/-- The units of a string up to its closing quote, and what follows it. -/
def readUnits : List Char → Option (List CodeUnit × List Char)
  | [] => none
  | first :: rest =>
      if first = '"' then some ([], rest)
      else if first = '\\' then
        match rest with
        | 'u' :: a :: b :: c :: d :: later => do
            let code ← hexCode a b c d
            let (units, final) ← readUnits later
            pure (codeUnit code :: units, final)
        | letter :: later => do
            let character ← shortEscape letter
            let (units, final) ← readUnits later
            pure (.scalar character :: units, final)
        | [] => none
      else if first < ' ' then none
      else do
        let (units, final) ← readUnits rest
        pure (.scalar first :: units, final)

/-- Join the paired surrogates; a lone one is reported and left out. -/
def joinUnits : List CodeUnit → List Char × Bool
  | [] => ([], true)
  | .scalar character :: rest =>
      let (characters, paired) := joinUnits rest
      (character :: characters, paired)
  | .surrogate high :: .surrogate low :: rest =>
      if high < 0xDC00 ∧ 0xDC00 ≤ low then
        let (characters, paired) := joinUnits rest
        (Char.ofNat (0x10000 + (high - 0xD800) * 1024 + (low - 0xDC00)) ::
          characters, paired)
      else
        ((joinUnits (.surrogate low :: rest)).1, false)
  | .surrogate _ :: rest => ((joinUnits rest).1, false)

/-- A string after its opening quote. -/
def readString (characters : List Char) :
    Except LoadsFailure (Read String) := do
  let (units, rest) ← present (readUnits characters) .malformed
  let (joined, paired) := joinUnits units
  pure ⟨String.ofList joined, paired, rest⟩

/-- The digits of the integer part: one zero, or a run without one before. -/
def integerDigits : List Char → List Char × List Char
  | '0' :: rest => (['0'], rest)
  | characters =>
      (characters.takeWhile isDigit, characters.dropWhile isDigit)

/-- A fraction, when the text has one here. -/
def fraction : List Char → List Char × List Char
  | '.' :: rest =>
      if (rest.takeWhile isDigit).isEmpty then ([], '.' :: rest)
      else ('.' :: rest.takeWhile isDigit, rest.dropWhile isDigit)
  | characters => ([], characters)

/-- The sign of an exponent, when it has one. -/
def exponentSign : List Char → List Char × List Char
  | '+' :: rest => (['+'], rest)
  | '-' :: rest => (['-'], rest)
  | characters => ([], characters)

/-- An exponent, when the text has one here. -/
def exponent (characters : List Char) : List Char × List Char :=
  match characters with
  | first :: rest =>
      let (sign, digits) := exponentSign rest
      if (first = 'e' ∨ first = 'E') ∧
          ¬(digits.takeWhile isDigit).isEmpty then
        (first :: sign ++ digits.takeWhile isDigit,
          digits.dropWhile isDigit)
      else ([], characters)
  | [] => ([], [])

/-- The most digits that `int` converts. -/
def maxIntegerDigits : Nat := 4300

/-- A numeral after its sign. -/
def readNumeral (negative : Bool) (characters : List Char) :
    Except LoadsFailure (Read Value) := do
  let (digits, afterInteger) := integerDigits characters
  ensure (digits ≠ []) .malformed
  let (decimals, afterFraction) := fraction afterInteger
  let (power, rest) := exponent afterFraction
  if decimals = [] ∧ power = [] then
    ensure (digits.length ≤ maxIntegerDigits) .integerDigits
    let magnitude : Int := Nat.ofDigitChars 10 digits 0
    pure ⟨.int (if negative then -magnitude else magnitude), true, rest⟩
  else
    let sign := if negative then ['-'] else []
    pure
      ⟨.float (String.ofList (sign ++ digits ++ decimals ++ power)), true,
        rest⟩

/-- A literal or a number. -/
def readPlain : List Char → Except LoadsFailure (Read Value)
  | 'n' :: 'u' :: 'l' :: 'l' :: rest => .ok ⟨.null, true, rest⟩
  | 't' :: 'r' :: 'u' :: 'e' :: rest => .ok ⟨.bool true, true, rest⟩
  | 'f' :: 'a' :: 'l' :: 's' :: 'e' :: rest => .ok ⟨.bool false, true, rest⟩
  | 'N' :: 'a' :: 'N' :: rest => .ok ⟨.float "NaN", true, rest⟩
  | 'I' :: 'n' :: 'f' :: 'i' :: 'n' :: 'i' :: 't' :: 'y' :: rest =>
      .ok ⟨.float "Infinity", true, rest⟩
  | '-' :: 'I' :: 'n' :: 'f' :: 'i' :: 'n' :: 'i' :: 't' :: 'y' :: rest =>
      .ok ⟨.float "-Infinity", true, rest⟩
  | '-' :: rest => readNumeral true rest
  | characters => readNumeral false characters

mutual

/-- A value that begins with the first character. -/
def readValue : Nat → List Char → Except LoadsFailure (Read Value)
  | 0, _ => .error .malformed
  | _ + 1, [] => .error .malformed
  | fuel + 1, first :: rest =>
      if first = '"' then do
        let text ← readString rest
        pure ⟨.text text.value, text.paired, text.rest⟩
      else if first = '[' then
        match skipSpace rest with
        | ']' :: later => .ok ⟨.array [], true, later⟩
        | others => do
            let items ← readItems fuel others
            pure ⟨.array items.value, items.paired, items.rest⟩
      else if first = '{' then
        match skipSpace rest with
        | '}' :: later => .ok ⟨.object [], true, later⟩
        | others => do
            let members ← readMembers fuel others
            ensure (Value.keys members.value).Nodup .duplicateKey
            pure ⟨.object members.value, members.paired, members.rest⟩
      else
        readPlain (first :: rest)

/-- The items of an array after its opening bracket. -/
def readItems : Nat → List Char → Except LoadsFailure (Read (List Value))
  | 0, _ => .error .malformed
  | fuel + 1, characters => do
      let item ← readValue fuel characters
      match skipSpace item.rest with
      | ']' :: later => pure ⟨[item.value], item.paired, later⟩
      | ',' :: later => do
          let others ← readItems fuel (skipSpace later)
          pure
            ⟨item.value :: others.value, item.paired && others.paired,
              others.rest⟩
      | _ => .error .malformed

/-- The members of an object after its opening brace. -/
def readMembers : Nat → List Char → Except LoadsFailure (Read Value.Members)
  | 0, _ => .error .malformed
  | _ + 1, [] => .error .malformed
  | fuel + 1, first :: rest => do
      ensure (first = '"') .malformed
      let key ← readString rest
      match skipSpace key.rest with
      | ':' :: later => do
          let item ← readValue fuel (skipSpace later)
          match skipSpace item.rest with
          | '}' :: later =>
              pure
                ⟨[(key.value, item.value)], key.paired && item.paired, later⟩
          | ',' :: later => do
              let others ← readMembers fuel (skipSpace later)
              pure
                ⟨(key.value, item.value) :: others.value,
                  key.paired && item.paired && others.paired, others.rest⟩
          | _ => .error .malformed
      | _ => .error .malformed

end

/-- `json.loads` on the characters of a text. -/
def loads (text : List Char) : Except LoadsFailure Value := do
  let read ← readValue (text.length + 1) (skipSpace text)
  ensure (skipSpace read.rest = []) .malformed
  ensure (read.paired = true) .loneSurrogate
  pure read.value

/-! ## What a numeral takes -/

theorem integerDigits_whole (characters : List Char) :
    (integerDigits characters).1 ++ (integerDigits characters).2 =
      characters := by
  unfold integerDigits
  split
  · rfl
  · exact List.takeWhile_append_dropWhile

theorem fraction_whole (characters : List Char) :
    (fraction characters).1 ++ (fraction characters).2 = characters := by
  unfold fraction
  split
  · split
    · rfl
    · rw [List.cons_append, List.takeWhile_append_dropWhile]
  · rfl

theorem exponentSign_whole (characters : List Char) :
    (exponentSign characters).1 ++ (exponentSign characters).2 =
      characters := by
  unfold exponentSign
  split <;> rfl

theorem exponent_whole (characters : List Char) :
    (exponent characters).1 ++ (exponent characters).2 = characters := by
  unfold exponent
  split
  · rename_i first rest
    dsimp only
    split
    · rw [List.cons_append, List.cons_append, List.append_assoc,
        List.takeWhile_append_dropWhile, exponentSign_whole]
    · rfl
  · rfl

theorem numeral_whole (characters : List Char) :
    (integerDigits characters).1 ++
        (fraction (integerDigits characters).2).1 ++
        (exponent (fraction (integerDigits characters).2).2).1 ++
        (exponent (fraction (integerDigits characters).2).2).2 =
      characters := by
  rw [List.append_assoc, exponent_whole, List.append_assoc, fraction_whole,
    integerDigits_whole]

/-- A numeral is not empty. -/
theorem readNumeral_shorter {negative : Bool} {characters : List Char}
    {read : Read Value} (numeral : readNumeral negative characters = .ok read) :
    read.rest.length < characters.length := by
  have whole := congrArg List.length (numeral_whole characters)
  simp only [List.length_append] at whole
  simp only [readNumeral, bind_eq_ok, ensure_eq_ok] at numeral
  rcases numeral with ⟨_, digits, numeral⟩
  have positive := List.length_pos_of_ne_nil digits
  split at numeral
  · simp only [bind_eq_ok, ensure_eq_ok, pure_eq_ok] at numeral
    rcases numeral with ⟨_, _, rfl⟩
    dsimp only
    omega
  · cases numeral
    dsimp only
    omega

theorem readPlain_shorter {characters : List Char} {read : Read Value}
    (plain : readPlain characters = .ok read) :
    read.rest.length < characters.length := by
  unfold readPlain at plain
  split at plain
  case h_7 => exact Nat.lt_succ_of_lt (readNumeral_shorter plain)
  case h_8 => exact readNumeral_shorter plain
  all_goals
    cases plain
    simp only [List.length_cons]
    omega

/-! ## Reading a string back -/

theorem hexCode_hexDigit :
    ∀ code < 32,
      hexCode '0' '0' (hexDigit (code / 16)) (hexDigit (code % 16)) =
        some code := by
  decide

theorem codeUnit_toNat (character : Char) (control : character < ' ') :
    codeUnit character.toNat = .scalar character := by
  have small : character.toNat < 32 := control
  rw [codeUnit, if_neg (by omega), Char.ofNat_toNat]

/-- What the reader makes of an escaped character is that character. -/
theorem readUnits_escape (character : Char) (characters : List Char) :
    readUnits (escape character ++ characters) =
      (readUnits characters).map fun read =>
        (.scalar character :: read.1, read.2) := by
  have bound : (do
        let (units, final) ← readUnits characters
        pure (CodeUnit.scalar character :: units, final)) =
      (readUnits characters).map fun read =>
        (.scalar character :: read.1, read.2) := by
    cases readUnits characters <;> rfl
  unfold escape
  split
  · subst_vars
    exact bound
  split
  · subst_vars
    exact bound
  split
  · subst_vars
    exact bound
  split
  · subst_vars
    exact bound
  split
  · subst_vars
    exact bound
  split
  · subst_vars
    exact bound
  split
  · subst_vars
    exact bound
  split
  · rename_i control
    have code := hexCode_hexDigit character.toNat control
    simp only [List.cons_append, List.nil_append, readUnits]
    rw [code]
    simp only [Option.bind_eq_bind, Option.bind_some,
      codeUnit_toNat character control]
    exact bound
  · rename_i quote slash _ _ _ _ _ printable
    rw [List.singleton_append, readUnits.eq_def]
    dsimp only
    rw [if_neg quote, if_neg slash, if_neg printable]
    exact bound

theorem readUnits_escaped (characters rest : List Char) :
    readUnits (characters.flatMap escape ++ '"' :: rest) =
      some (characters.map .scalar, rest) := by
  induction characters with
  | nil =>
      rw [List.flatMap_nil, List.nil_append, readUnits.eq_def]
      rfl
  | cons first others inductionHypothesis =>
      rw [List.flatMap_cons, List.append_assoc, readUnits_escape,
        inductionHypothesis]
      rfl

theorem joinUnits_scalar (characters : List Char) :
    joinUnits (characters.map .scalar) = (characters, true) := by
  induction characters with
  | nil => rfl
  | cons first rest inductionHypothesis =>
      rw [List.map_cons, joinUnits, inductionHypothesis]

/-- A quoted text is read back. -/
theorem readString_quoted (text : String) (rest : List Char) :
    readString (text.toList.flatMap escape ++ '"' :: rest) =
      .ok ⟨text, true, rest⟩ := by
  rw [readString, readUnits_escaped]
  simp only [present, bind, Except.bind, joinUnits_scalar,
    String.ofList_toList]
  rfl

/-! ## Reading a numeral back -/

theorem isDigit_of_char {character : Char}
    (digit : character.isDigit = true) : isDigit character = true := by
  simpa [isDigit, Char.isDigit, Char.le_def] using digit


/-- A list that does not go on with a digit. -/
def Stops (characters : List Char) : Prop :=
  ∀ character ∈ characters.head?, isDigit character = false

theorem takeWhile_digits {digits rest : List Char}
    (all : ∀ character ∈ digits, isDigit character = true)
    (stops : Stops rest) :
    (digits ++ rest).takeWhile isDigit = digits ∧
      (digits ++ rest).dropWhile isDigit = rest := by
  have ends :
      rest.takeWhile isDigit = [] ∧ rest.dropWhile isDigit = rest := by
    cases rest with
    | nil => exact ⟨rfl, rfl⟩
    | cons first later =>
        have digitless : isDigit first = false := stops first rfl
        simp [digitless]
  rw [List.takeWhile_append_of_pos all, List.dropWhile_append_of_pos all,
    ends.1, ends.2, List.append_nil]
  exact ⟨rfl, rfl⟩

theorem toDigits_ne_nil (number : Nat) : Nat.toDigits 10 number ≠ [] := by
  intro empty
  have positive := Nat.length_toDigits_pos (b := 10) (n := number)
  rw [empty] at positive
  exact absurd positive (Nat.lt_irrefl 0)

/-- The first digit of a number is not zero, unless it is the only one. -/
theorem toDigits_head (number : Nat) :
    number = 0 ∨
      ∃ first rest, Nat.toDigits 10 number = first :: rest ∧ first ≠ '0' := by
  induction number using Nat.strongRecOn with
  | ind number inductionHypothesis =>
      by_cases small : number < 10
      · rw [Nat.toDigits_of_lt_base small]
        have each : ∀ digit < 10, digit ≠ 0 → digit.digitChar ≠ '0' := by
          decide
        by_cases zero : number = 0
        · exact .inl zero
        · exact .inr ⟨_, [], rfl, each number small zero⟩
      · right
        rw [Nat.toDigits_of_base_le (by omega) (by omega)]
        rcases inductionHypothesis (number / 10) (by omega) with
          zero | ⟨first, rest, digits, nonzero⟩
        · omega
        · exact ⟨first, _, by rw [digits]; rfl, nonzero⟩

/-- The digits of a number are read as its integer part. -/
theorem integerDigits_toDigits (number : Nat) {rest : List Char}
    (stops : Stops rest) :
    integerDigits (Nat.toDigits 10 number ++ rest) =
      (Nat.toDigits 10 number, rest) := by
  rcases toDigits_head number with rfl | ⟨first, later, digits, nonzero⟩
  · rfl
  · have all (character : Char)
        (member : character ∈ Nat.toDigits 10 number) :
        isDigit character = true :=
      isDigit_of_char
        (Nat.isDigit_of_mem_toDigits (by decide) (by decide) member)
    have parts := takeWhile_digits all stops
    rw [digits] at parts ⊢
    rw [List.cons_append] at parts ⊢
    rw [integerDigits]
    · rw [parts.1, parts.2]
    · rintro _ same
      cases same
      exact absurd rfl nonzero

/-- What may follow a value: nothing, or the end of what it stands in. -/
def Delimited (rest : List Char) : Prop :=
  ∀ character ∈ rest.head?,
    character = ',' ∨ character = ']' ∨ character = '}'

theorem Delimited.stops {rest : List Char} (delimited : Delimited rest) :
    Stops rest := by
  intro character first
  rcases delimited character first with rfl | rfl | rfl <;> rfl

theorem Delimited.fraction {rest : List Char} (delimited : Delimited rest) :
    fraction rest = ([], rest) := by
  cases rest with
  | nil => rfl
  | cons first later =>
      rcases delimited first rfl with rfl | rfl | rfl <;> rfl

theorem Delimited.exponent {rest : List Char} (delimited : Delimited rest) :
    exponent rest = ([], rest) := by
  cases rest with
  | nil => rfl
  | cons first later =>
      rcases delimited first rfl with rfl | rfl | rfl <;>
        simp [JsonText.exponent]

theorem Delimited.skipSpace {rest : List Char} (delimited : Delimited rest) :
    skipSpace rest = rest := by
  cases rest with
  | nil => rfl
  | cons first later =>
      rcases delimited first rfl with rfl | rfl | rfl <;> rfl

/-- A number's digits are read back with the sign that stood before them. -/
theorem readNumeral_toDigits (negative : Bool) {number : Nat}
    {rest : List Char}
    (short : (Nat.toDigits 10 number).length ≤ maxIntegerDigits)
    (delimited : Delimited rest) :
    readNumeral negative (Nat.toDigits 10 number ++ rest) =
      .ok ⟨.int (if negative then -(number : Int) else number), true, rest⟩
    := by
  unfold readNumeral
  rw [integerDigits_toDigits number delimited.stops]
  dsimp only
  rw [delimited.fraction]
  dsimp only
  rw [delimited.exponent]
  simp only [ensure, toDigits_ne_nil, ne_eq, not_false_eq_true, if_true,
    and_self, short, Nat.ofDigitChars_ten_toDigits]
  rfl


/-! ## Reading a value back -/

mutual

/-- A value that its text determines: no floating-point number in it, every
numeral short enough to convert, and no key twice in one object. -/
def Writable : Value → Prop
  | .int value =>
      (Nat.toDigits 10 value.natAbs).length ≤ maxIntegerDigits
  | .float _ => False
  | .array items => WritableItems items
  | .object members =>
      (Value.keys members).Nodup ∧ WritableMembers members
  | _ => True

def WritableItems : List Value → Prop
  | [] => True
  | item :: rest => Writable item ∧ WritableItems rest

def WritableMembers : Value.Members → Prop
  | [] => True
  | (_, value) :: rest => Writable value ∧ WritableMembers rest

end

theorem written_int (value : Int) :
    written (.int value) =
      (if value < 0 then ['-'] else []) ++ Nat.toDigits 10 value.natAbs := by
  cases value with
  | ofNat number =>
      rw [written, if_neg (by simp)]
      exact Nat.toList_repr
  | negSucc number =>
      rw [written, if_pos (Int.negSucc_lt_zero number)]
      change ("-" ++ (number + 1).repr).toList = _
      rw [String.toList_append, Nat.toList_repr]
      rfl

/-- Neither white space nor the end of a container. -/
def opens (character : Char) : Bool :=
  !isSpace character && character != ']' && character != '}'

theorem opens_of_isDigit {character : Char}
    (digit : isDigit character = true) : opens character = true := by
  have other (special : Char) (mark : isDigit special = false) :
      character ≠ special := by
    rintro rfl
    rw [digit] at mark
    cases mark
  simp [opens, isSpace, other ' ' rfl, other '\t' rfl, other '\n' rfl,
    other '\r' rfl, other ']' rfl, other '}' rfl]

/-- The digits of a number, the first of them apart. -/
theorem toDigits_cons (number : Nat) :
    ∃ first rest, Nat.toDigits 10 number = first :: rest ∧
      isDigit first = true := by
  cases digits : Nat.toDigits 10 number with
  | nil => exact absurd digits (toDigits_ne_nil number)
  | cons first rest =>
      refine ⟨first, rest, rfl, isDigit_of_char ?_⟩
      refine Nat.isDigit_of_mem_toDigits (b := 10) (n := number) (by decide)
        (by decide) ?_
      rw [digits]
      exact List.mem_cons_self

/-- The text of a value begins with a character that opens a value. -/
theorem written_opens {value : Value} (writable : Writable value) :
    ∃ first rest, written value = first :: rest ∧ opens first = true := by
  cases value with
  | null => exact ⟨_, _, rfl, rfl⟩
  | bool flag =>
      cases flag with
      | false => exact ⟨_, _, rfl, rfl⟩
      | true => exact ⟨_, _, rfl, rfl⟩
  | int value =>
      rw [written_int]
      split
      · exact ⟨_, _, rfl, rfl⟩
      · rcases toDigits_cons value.natAbs with ⟨first, rest, digits, digit⟩
        exact ⟨first, rest, digits, opens_of_isDigit digit⟩
  | float repr => exact absurd writable (by simp [Writable])
  | text value => exact ⟨_, _, rfl, rfl⟩
  | array items => exact ⟨_, _, rfl, rfl⟩
  | object members => exact ⟨_, _, rfl, rfl⟩

theorem readPlain_digit {first : Char} {rest : List Char}
    (digit : isDigit first = true) :
    readPlain (first :: rest) = readNumeral false (first :: rest) := by
  have other (special : Char) (mark : isDigit special = false) :
      first ≠ special := by
    rintro rfl
    rw [digit] at mark
    cases mark
  have n := other 'n' rfl
  have t := other 't' rfl
  have f := other 'f' rfl
  have capitalN := other 'N' rfl
  have i := other 'I' rfl
  have minus := other '-' rfl
  unfold readPlain
  split <;> simp_all

theorem readPlain_minus {first : Char} {rest : List Char}
    (digit : isDigit first = true) :
    readPlain ('-' :: first :: rest) = readNumeral true (first :: rest) := by
  have i : first ≠ 'I' := by
    rintro rfl
    cases digit
  unfold readPlain
  split <;> simp_all

/-- An integer is read back. -/
theorem readPlain_int {value : Int} {rest : List Char}
    (writable : Writable (.int value)) (delimited : Delimited rest) :
    readPlain (written (.int value) ++ rest) =
      .ok ⟨.int value, true, rest⟩ := by
  rw [Writable] at writable
  rw [written_int]
  rcases toDigits_cons value.natAbs with ⟨first, later, digits, digit⟩
  split
  · rename_i negative
    have read := readNumeral_toDigits true writable delimited
    rw [digits, List.cons_append] at read
    rw [digits, List.cons_append, List.nil_append, List.cons_append,
      List.cons_append, readPlain_minus digit, read]
    simp only [if_true, Except.ok.injEq, Read.mk.injEq, Value.int.injEq,
      and_self, and_true]
    omega
  · rename_i natural
    have read := readNumeral_toDigits false writable delimited
    rw [digits, List.cons_append] at read
    rw [digits, List.nil_append, List.cons_append, readPlain_digit digit,
      read]
    simp only [Bool.false_eq_true, if_false, Except.ok.injEq, Read.mk.injEq,
      Value.int.injEq, and_self, and_true]
    omega


theorem skipSpace_opens {first : Char} (rest : List Char)
    (opening : opens first = true) :
    skipSpace (first :: rest) = first :: rest := by
  simp only [opens, Bool.and_eq_true, Bool.not_eq_true'] at opening
  simp [skipSpace, opening.1.1]

theorem delimited_comma (rest : List Char) : Delimited (',' :: rest) := by
  simp [Delimited]

theorem delimited_bracket (rest : List Char) : Delimited (']' :: rest) := by
  simp [Delimited]

theorem delimited_brace (rest : List Char) : Delimited ('}' :: rest) := by
  simp [Delimited]

/-- The items of an array are read when the text begins with none of its
ends. -/
theorem readValue_array {fuel : Nat} {first : Char} {others rest : List Char}
    {items : List Value} (opening : opens first = true)
    (read : readItems fuel (first :: others) = .ok ⟨items, true, rest⟩) :
    readValue (fuel + 1) ('[' :: first :: others) =
      .ok ⟨.array items, true, rest⟩ := by
  have later : first ≠ ']' := by
    rintro rfl
    cases opening
  rw [readValue]
  simp only [skipSpace_opens others opening]
  split
  · simp_all
  · simp_all [bind, Except.bind, pure, Except.pure]


/-- The members of an object are read when the text begins with a key. -/
theorem readValue_object {fuel : Nat} {others rest : List Char}
    {members : Value.Members} (distinct : (Value.keys members).Nodup)
    (read : readMembers fuel ('"' :: others) = .ok ⟨members, true, rest⟩) :
    readValue (fuel + 1) ('{' :: '"' :: others) =
      .ok ⟨.object members, true, rest⟩ := by
  have quote : skipSpace ('"' :: others) = '"' :: others :=
    skipSpace_opens others rfl
  rw [readValue]
  simp [quote, read, ensure, distinct, bind, Except.bind, pure, Except.pure]

/-- The last item of an array is read with the closing bracket. -/
theorem readItems_last {fuel : Nat} {characters rest : List Char}
    {item : Value}
    (read : readValue fuel characters = .ok ⟨item, true, ']' :: rest⟩) :
    readItems (fuel + 1) characters = .ok ⟨[item], true, rest⟩ := by
  rw [readItems, read]
  rfl

/-- An item before a comma is read, and then the items after it. -/
theorem readItems_more {fuel : Nat} {characters others rest : List Char}
    {first : Char} {item : Value} {items : List Value}
    (read :
      readValue fuel characters = .ok ⟨item, true, ',' :: first :: others⟩)
    (opening : opens first = true)
    (later : readItems fuel (first :: others) = .ok ⟨items, true, rest⟩) :
    readItems (fuel + 1) characters = .ok ⟨item :: items, true, rest⟩ := by
  rw [readItems, read]
  simp only [bind, Except.bind, (delimited_comma _).skipSpace,
    skipSpace_opens others opening, later]
  rfl

/-- The last member of an object is read with the closing brace. -/
theorem readMembers_last {fuel : Nat} {key : String} {first : Char}
    {others rest : List Char} {item : Value} (opening : opens first = true)
    (read :
      readValue fuel (first :: others) = .ok ⟨item, true, '}' :: rest⟩) :
    readMembers (fuel + 1) (quoted key ++ ':' :: first :: others) =
      .ok ⟨[(key, item)], true, rest⟩ := by
  have colon : skipSpace (':' :: first :: others) = ':' :: first :: others :=
    skipSpace_opens _ rfl
  simp only [quoted, List.append_assoc, List.cons_append, List.nil_append]
  rw [readMembers, readString_quoted]
  simp only [ensure, if_true, bind, Except.bind, colon,
    skipSpace_opens others opening, read, (delimited_brace _).skipSpace]
  rfl

/-- A member before a comma is read, and then the members after it. -/
theorem readMembers_more {fuel : Nat} {key : String} {first next : Char}
    {others more rest : List Char} {item : Value} {members : Value.Members}
    (opening : opens first = true) (following : opens next = true)
    (read :
      readValue fuel (first :: others) =
        .ok ⟨item, true, ',' :: next :: more⟩)
    (later : readMembers fuel (next :: more) = .ok ⟨members, true, rest⟩) :
    readMembers (fuel + 1) (quoted key ++ ':' :: first :: others) =
      .ok ⟨(key, item) :: members, true, rest⟩ := by
  have colon : skipSpace (':' :: first :: others) = ':' :: first :: others :=
    skipSpace_opens _ rfl
  simp only [quoted, List.append_assoc, List.cons_append, List.nil_append]
  rw [readMembers, readString_quoted]
  simp only [ensure, if_true, bind, Except.bind, colon,
    skipSpace_opens others opening, read, (delimited_comma _).skipSpace,
    skipSpace_opens more following, later]
  rfl

theorem readValue_plain {fuel : Nat} {first : Char} {rest : List Char}
    (quote : first ≠ '"') (bracket : first ≠ '[') (brace : first ≠ '{') :
    readValue (fuel + 1) (first :: rest) = readPlain (first :: rest) := by
  rw [readValue, if_neg quote, if_neg bracket, if_neg brace]

/-- An integer's text begins with a digit or a minus sign. -/
theorem readValue_int {fuel : Nat} {value : Int} {rest : List Char}
    (writable : Writable (.int value)) (delimited : Delimited rest) :
    readValue (fuel + 1) (written (.int value) ++ rest) =
      .ok ⟨.int value, true, rest⟩ := by
  have read := readPlain_int writable delimited
  have begins :
      ∃ first others, written (.int value) ++ rest = first :: others ∧
        (isDigit first = true ∨ first = '-') := by
    rw [written_int]
    split
    · exact ⟨_, _, rfl, .inr rfl⟩
    · rcases toDigits_cons value.natAbs with ⟨first, later, digits, digit⟩
      exact ⟨first, later ++ rest, by rw [digits]; rfl, .inl digit⟩
  rcases begins with ⟨first, others, text, digit | rfl⟩
  · have other (special : Char) (mark : isDigit special = false) :
        first ≠ special := by
      rintro rfl
      rw [digit] at mark
      cases mark
    rw [text] at read ⊢
    rw [readValue_plain (other _ rfl) (other _ rfl) (other _ rfl), read]
  · rw [text] at read ⊢
    rw [readValue_plain (by decide) (by decide) (by decide), read]

/-- Items between commas begin with a character that opens a value. -/
theorem joinedItems_opens {item : Value} (items : List Value)
    (writable : Writable item) :
    ∃ first others,
      joinComma (writtenItems (item :: items)) = first :: others ∧
        opens first = true := by
  rcases written_opens writable with ⟨first, rest, text, opening⟩
  cases items with
  | nil =>
      exact ⟨first, rest, by simp [writtenItems, joinComma, text], opening⟩
  | cons next later =>
      exact ⟨first, _, by
        simp only [writtenItems, joinComma, text, List.cons_append]
        rfl, opening⟩

/-- Members between commas begin with a quote. -/
theorem joinedMembers_opens (key : String) (item : Value)
    (members : Value.Members) :
    ∃ others,
      joinComma (writtenMembers ((key, item) :: members)) =
        '"' :: others := by
  cases members with
  | nil => exact ⟨_, rfl⟩
  | cons next later => exact ⟨_, rfl⟩

theorem written_length {value : Value} (writable : Writable value) :
    0 < (written value).length := by
  rcases written_opens writable with ⟨first, rest, text, _⟩
  rw [text]
  exact Nat.succ_pos _

mutual

/-- What was written is read back, whatever delimits it. -/
theorem readValue_written :
    ∀ (value : Value), Writable value → ∀ (rest : List Char),
      Delimited rest → ∀ fuel, (written value).length ≤ fuel →
        readValue fuel (written value ++ rest) = .ok ⟨value, true, rest⟩
  | value, writable, _, _, 0, enough => by
      have positive := written_length writable
      omega
  | .null, _, rest, _, fuel + 1, _ => by
      rw [written, List.cons_append,
        readValue_plain (by decide) (by decide) (by decide)]
      rfl
  | .bool true, _, rest, _, fuel + 1, _ => by
      rw [written, List.cons_append,
        readValue_plain (by decide) (by decide) (by decide)]
      rfl
  | .bool false, _, rest, _, fuel + 1, _ => by
      rw [written, List.cons_append,
        readValue_plain (by decide) (by decide) (by decide)]
      rfl
  | .int value, writable, rest, delimited, fuel + 1, _ =>
      readValue_int writable delimited
  | .float _, writable, _, _, _, _ => absurd writable (by simp [Writable])
  | .text text, _, rest, _, fuel + 1, _ => by
      simp only [written, quoted, List.append_assoc, List.cons_append,
        List.nil_append]
      rw [readValue, if_pos rfl, readString_quoted]
      rfl
  | .array [], _, rest, _, fuel + 1, _ => by
      rw [written, writtenItems, joinComma]
      rfl
  | .array (item :: items), writable, rest, _, fuel + 1, enough => by
      rw [Writable] at writable
      rw [written] at enough ⊢
      have read := readItems_written (item :: items) writable (by simp) rest
        fuel (by
          simp only [List.length_append, List.length_cons, List.length_nil]
            at enough
          omega)
      rcases joinedItems_opens items writable.1 with
        ⟨first, others, text, opening⟩
      rw [text, List.cons_append] at read
      rw [text]
      simpa using readValue_array opening read
  | .object [], _, rest, _, fuel + 1, _ => by
      rw [written, writtenMembers, joinComma]
      rfl
  | .object ((key, item) :: members), writable, rest, _, fuel + 1,
      enough => by
      rw [Writable] at writable
      rw [written] at enough ⊢
      have read := readMembers_written ((key, item) :: members) writable.2
        (by simp) rest fuel (by
          simp only [List.length_append, List.length_cons, List.length_nil]
            at enough
          omega)
      rcases joinedMembers_opens key item members with ⟨others, text⟩
      rw [text, List.cons_append] at read
      rw [text]
      simpa using readValue_object writable.1 read

/-- The items of an array are read back with its closing bracket. -/
theorem readItems_written :
    ∀ (items : List Value), WritableItems items → items ≠ [] →
      ∀ (rest : List Char) (fuel : Nat),
        (joinComma (writtenItems items)).length + 1 ≤ fuel →
          readItems fuel (joinComma (writtenItems items) ++ ']' :: rest) =
            .ok ⟨items, true, rest⟩
  | _, _, _, _, 0, enough => by omega
  | [], _, nonempty, _, _, _ => absurd rfl nonempty
  | [item], writable, _, rest, fuel + 1, enough => by
      simp only [writtenItems, joinComma] at enough ⊢
      exact readItems_last (readValue_written item writable.1 _
        (delimited_bracket rest) fuel (by omega))
  | item :: next :: items, writable, _, rest, fuel + 1, enough => by
      rw [WritableItems] at writable
      rcases joinedItems_opens items writable.2.1 with
        ⟨first, others, text, opening⟩
      have split :
          joinComma (writtenItems (item :: next :: items)) =
            written item ++ [','] ++
              joinComma (writtenItems (next :: items)) := rfl
      have later := readItems_written (next :: items) writable.2 (by simp)
        rest fuel (by
          simp only [split, List.length_append, List.length_cons,
            List.length_nil] at enough
          omega)
      have read := readValue_written item writable.1
        (',' :: (joinComma (writtenItems (next :: items)) ++ ']' :: rest))
        (delimited_comma _) fuel (by
          simp only [split, List.length_append, List.length_cons,
            List.length_nil] at enough
          omega)
      rw [text, List.cons_append] at read later
      rw [split, text]
      simpa using readItems_more read opening later

/-- The members of an object are read back with its closing brace. -/
theorem readMembers_written :
    ∀ (members : Value.Members), WritableMembers members → members ≠ [] →
      ∀ (rest : List Char) (fuel : Nat),
        (joinComma (writtenMembers members)).length + 1 ≤ fuel →
          readMembers fuel
              (joinComma (writtenMembers members) ++ '}' :: rest) =
            .ok ⟨members, true, rest⟩
  | _, _, _, _, 0, enough => by omega
  | [], _, nonempty, _, _, _ => absurd rfl nonempty
  | [(key, item)], writable, _, rest, fuel + 1, enough => by
      simp only [writtenMembers, joinComma] at enough ⊢
      rcases written_opens writable.1 with ⟨first, others, text, opening⟩
      have read := readValue_written item writable.1 _
        (delimited_brace rest) fuel (by
          simp only [List.length_append, List.length_cons, List.length_nil]
            at enough
          omega)
      rw [text, List.cons_append] at read
      rw [text]
      simpa using readMembers_last opening read
  | (key, item) :: (name, next) :: members, writable, _, rest, fuel + 1,
      enough => by
      rw [WritableMembers] at writable
      rcases joinedMembers_opens name next members with ⟨more, following⟩
      rcases written_opens writable.1 with ⟨first, others, text, opening⟩
      have split :
          joinComma
              (writtenMembers ((key, item) :: (name, next) :: members)) =
            (quoted key ++ [':'] ++ written item) ++ [','] ++
              joinComma (writtenMembers ((name, next) :: members)) := rfl
      have later := readMembers_written ((name, next) :: members) writable.2
        (by simp) rest fuel (by
          simp only [split, List.length_append, List.length_cons,
            List.length_nil] at enough
          omega)
      have read := readValue_written item writable.1
        (',' :: (joinComma (writtenMembers ((name, next) :: members)) ++
          '}' :: rest))
        (delimited_comma _) fuel (by
          simp only [split, List.length_append, List.length_cons,
            List.length_nil] at enough
          omega)
      rw [following, text, List.cons_append, List.cons_append] at read
      rw [following, List.cons_append] at later
      rw [split, following, text]
      simpa using readMembers_more opening rfl read later

end

/-- A text is what `json.loads` makes of it when it was written. -/
theorem loads_written {value : Value} (writable : Writable value) :
    loads (written value) = .ok value := by
  rcases written_opens writable with ⟨first, rest, text, opening⟩
  have leading : skipSpace (written value) = written value := by
    rw [text, skipSpace_opens rest opening]
  have ending : Delimited [] := by
    intro character absent
    cases absent
  have read := readValue_written value writable [] ending
    ((written value).length + 1) (Nat.le_succ _)
  rw [List.append_nil] at read
  rw [loads, leading, read]
  rfl

/-- No two values have one text. -/
theorem written_injective {left right : Value} (first : Writable left)
    (second : Writable right) (same : written left = written right) :
    left = right := by
  have read := loads_written first
  rw [same, loads_written second] at read
  cases read
  rfl

end AerialRescue.Contracts.JsonText
