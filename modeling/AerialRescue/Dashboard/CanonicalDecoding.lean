import AerialRescue.Dashboard.CanonicalText
import AerialRescue.Dashboard.JsonParse

/-!
# The browser's canonical decoder

`decodeCanonicalJson` of `contracts/bootstrap.ts`: a text is read with
`JSON.parse` and its raw characters are then scanned a second time, token by
token, for what the canonical profile refuses.

The scan's loops are written with a number of steps that they may take, and
nothing is returned when it runs out.  An index into the raw text is the text
from there on; past the end, `charAt` gives no character at all.  The steps
needed never exceed the length of the text, if the text is a JSON text, and the
scan then finds exactly what the JSON value itself has outside the profile.
-/

namespace AerialRescue.Dashboard.CanonicalDecoding

open AerialRescue.Lib.Binary64
open AerialRescue.Lib.Guard
open AerialRescue.Contracts.Canonical
open AerialRescue.Contracts.CanonicalForm
open AerialRescue.Contracts.JsonText
open AerialRescue.Contracts.SharedJson
open AerialRescue.Dashboard.CanonicalText
open AerialRescue.Dashboard.JsonParse

/-! ## The profile -/

/-- `stringOutsideCanonicalProfile` -/
def stringOutsideCanonicalProfile (host : Host) (value : Units) : Bool :=
  (codePoints value).any isSurrogate ||
    decide (maxCanonicalStringBytes <
      (utf8 (host.nfc (scalars (codePoints value))).toList).length)

/-- `keyOutsideCanonicalProfile` -/
def keyOutsideCanonicalProfile (host : Host) (value : Units) : Bool :=
  decide (maxCanonicalKeyCharacters < value.length) ||
    !matchesKeyPattern (codePoints value) ||
    stringOutsideCanonicalProfile host value

/-- `BigInt(token)`, of a token without fraction and exponent. -/
def bigInt : List Char → Int
  | '-' :: digits => -(Nat.ofDigitChars 10 digits 0 : Int)
  | digits => Nat.ofDigitChars 10 digits 0

/-- `numberOutsideCanonicalProfile` -/
def numberOutsideCanonicalProfile (token : List Char) : Bool :=
  if token.any fun character =>
      character = '.' || character = 'e' || character = 'E' then true
  else
    let value := bigInt token
    decide (value < -(maxSafeNumber : Int)) ||
      decide ((maxSafeNumber : Int) < value)

/-! ## The scan -/

/-- `JSON_NUMBER_TOKEN`: the token at the front and what follows it. -/
def numberToken (characters : List Char) : Option (List Char × List Char) :=
  let (sign, unsigned) :=
    match characters with
    | '-' :: rest => (['-'], rest)
    | _ => ([], characters)
  let (digits, afterInteger) := integerDigits unsigned
  let (decimals, afterFraction) := fraction afterInteger
  let (power, rest) := exponent afterFraction
  if digits = [] then none
  else some (sign ++ digits ++ decimals ++ power, rest)

/-- The loop of `jsonStringToken`: the rest of the token after its opening
quote, and what follows the token. -/
def jsonStringToken : Nat → List Char → Option (List Char × List Char)
  | 0, _ => none
  | steps + 1, [] => jsonStringToken steps []
  | _ + 1, '"' :: rest => some (['"'], rest)
  | steps + 1, '\\' :: [] => jsonStringToken steps []
  | steps + 1, '\\' :: escaped :: rest => do
      let (body, after) ← jsonStringToken steps rest
      some ('\\' :: escaped :: body, after)
  | steps + 1, other :: rest => do
      let (body, after) ← jsonStringToken steps rest
      some (other :: body, after)

/-- `\s` of a regular expression. -/
def isScriptSpace (character : Char) : Bool :=
  isSpace character || character = '\x0b' || character = '\x0c' ||
    character = '\u00a0' || character = '\u1680' ||
    ('\u2000' ≤ character && character ≤ '\u200a') ||
    character = '\u2028' || character = '\u2029' || character = '\u202f' ||
    character = '\u205f' || character = '\u3000' || character = '\ufeff'

/-- `/^\s*:/` -/
def startsMember (characters : List Char) : Bool :=
  match characters.dropWhile isScriptSpace with
  | ':' :: _ => true
  | _ => false

/-- How `scanCanonicalJson` ends. -/
inductive ScanResult where
  | returned (outside : Bool)
  /-- `JSON.parse` of a token raised. -/
  | thrown
deriving DecidableEq

/-- `scanCanonicalJson` from an index on.  The last of `objectMemberSets` is
the first of the list. -/
def scanFrom (host : Host) (number : String → Double) :
    Nat → List (List Units) → List Char → Option ScanResult
  | 0, _, _ => none
  | _ + 1, _, [] => some (.returned false)
  | steps + 1, objectMemberSets, character :: rest =>
      if character = '"' then do
        let (body, after) ← jsonStringToken steps rest
        match jsonParse number ('"' :: body) with
        | some (.text decoded) =>
            if stringOutsideCanonicalProfile host decoded then
              some (.returned true)
            else if startsMember after then
              match objectMemberSets with
              | [] => some (.returned true)
              | members :: outer =>
                  if keyOutsideCanonicalProfile host decoded ||
                      decide (decoded ∈ members) then
                    some (.returned true)
                  else
                    scanFrom host number steps
                      ((decoded :: members) :: outer) after
            else scanFrom host number steps objectMemberSets after
        | _ => some .thrown
      else if character = '{' then
        scanFrom host number steps ([] :: objectMemberSets) rest
      else if character = '}' then
        scanFrom host number steps objectMemberSets.tail rest
      else if character = '-' || isDigit character then
        match numberToken (character :: rest) with
        | none => some (.returned true)
        | some (token, after) =>
            if numberOutsideCanonicalProfile token then some (.returned true)
            else scanFrom host number steps objectMemberSets after
      else scanFrom host number steps objectMemberSets rest

/-- How `decodeCanonicalJson` ends. -/
inductive DecodeResult where
  | ok (value : ScriptValue)
  /-- `MALFORMED_JSON` -/
  | malformedJson
  /-- `CANONICAL_PROFILE_REFUSED` -/
  | canonicalProfileRefused
  | thrown

/-- `decodeCanonicalJson` -/
def decodeCanonicalJson (host : Host) (number : String → Double)
    (steps : Nat) (raw : List Char) : Option DecodeResult :=
  match jsonParse number raw with
  | none => some .malformedJson
  | some decoded => do
      match ← scanFrom host number steps [] raw with
      | .returned true => some .canonicalProfileRefused
      | .returned false => some (.ok (evaluate decoded))
      | .thrown => some .thrown

variable {host : Host} {number : String → Double}

/-! ## String tokens -/

/-- A string literal's rest in front of a text, by the scan and by
`JSON.parse` alike. -/
structure Token (characters body after : List Char)
    (points : List CodeUnit) : Prop where
  whole : characters = body ++ after
  scanned :
    ∀ steps, characters.length < steps →
      jsonStringToken steps characters = some (body, after)
  read : readUnits body = some (points, [])

theorem Token.quote (rest : List Char) : Token ('"' :: rest) ['"'] rest [] := by
  refine ⟨rfl, fun steps enough => ?_, by rw [readUnits.eq_def]; rfl⟩
  cases steps with
  | zero => exact absurd enough (Nat.not_lt_zero _)
  | succ steps => rfl

theorem jsonStringToken_other {character : Char} {rest : List Char}
    {steps : Nat} (noQuote : character ≠ '"') (noEscape : character ≠ '\\') :
    jsonStringToken (steps + 1) (character :: rest) = (do
      let (body, after) ← jsonStringToken steps rest
      some (character :: body, after)) := by
  rw [jsonStringToken.eq_def]
  split <;> simp_all

/-- A character that is no quote and no backslash is passed over. -/
theorem jsonStringToken_plain {character : Char} {rest body after : List Char}
    (noQuote : character ≠ '"') (noEscape : character ≠ '\\')
    (scanned : ∀ steps, rest.length < steps →
      jsonStringToken steps rest = some (body, after)) :
    ∀ steps, (character :: rest).length < steps →
      jsonStringToken steps (character :: rest) =
        some (character :: body, after) := by
  intro steps enough
  cases steps with
  | zero => exact absurd enough (Nat.not_lt_zero _)
  | succ steps =>
      rw [jsonStringToken_other noQuote noEscape,
        scanned steps (Nat.lt_of_succ_lt_succ enough)]
      rfl

/-- A backslash is passed over with the character after it. -/
theorem jsonStringToken_escape {escaped : Char} {rest body after : List Char}
    (scanned : ∀ steps, rest.length < steps →
      jsonStringToken steps rest = some (body, after)) :
    ∀ steps, ('\\' :: escaped :: rest).length < steps →
      jsonStringToken steps ('\\' :: escaped :: rest) =
        some ('\\' :: escaped :: body, after) := by
  intro steps enough
  cases steps with
  | zero => exact absurd enough (Nat.not_lt_zero _)
  | succ steps =>
      have shorter : rest.length < steps := by
        simp only [List.length_cons] at enough
        omega
      rw [jsonStringToken, scanned steps shorter]
      rfl

theorem hexValue_plain {character : Char} {value : Nat}
    (digit : hexValue character = some value) :
    character ≠ '"' ∧ character ≠ '\\' := by
  constructor <;> rintro rfl <;> cases digit

theorem hexCode_plain {a b c d : Char} {code : Nat}
    (coded : hexCode a b c d = some code) :
    ∀ digit ∈ [a, b, c, d], digit ≠ '"' ∧ digit ≠ '\\' := by
  simp only [hexCode, Option.bind_eq_bind, Option.bind_eq_some_iff] at coded
  rcases coded with ⟨_, first, _, second, _, third, _, fourth, _⟩
  simp only [List.forall_mem_cons, List.not_mem_nil, false_implies,
    implies_true, and_true]
  exact ⟨hexValue_plain first, hexValue_plain second, hexValue_plain third,
    hexValue_plain fourth⟩

theorem readUnits_code (a b c d : Char) (later : List Char) :
    readUnits ('\\' :: 'u' :: a :: b :: c :: d :: later) = (do
      let code ← hexCode a b c d
      let (units, final) ← readUnits later
      some (codeUnit code :: units, final)) := by
  rw [readUnits.eq_def]
  rfl

theorem readUnits_short {letter : Char} {later : List Char}
    (noCode : ∀ a b c d rest, letter = 'u' →
      later = a :: b :: c :: d :: rest → False) :
    readUnits ('\\' :: letter :: later) = (do
      let character ← shortEscape letter
      let (units, final) ← readUnits later
      some (.scalar character :: units, final)) := by
  rw [readUnits.eq_def]
  simp only [if_neg (show ('\\' : Char) ≠ '"' by decide), if_true]
  rfl

theorem readUnits_plain {first : Char} {rest : List Char}
    (noQuote : first ≠ '"') (noEscape : first ≠ '\\')
    (plain : ¬first < ' ') :
    readUnits (first :: rest) = (do
      let (units, final) ← readUnits rest
      some (.scalar first :: units, final)) := by
  rw [readUnits.eq_def]
  simp only [if_neg noQuote, if_neg noEscape, if_neg plain]
  rfl

/-- `readUnits` and the scan's loop end a literal at the same quote. -/
theorem token_of_readUnits {characters after : List Char}
    {points : List CodeUnit}
    (read : readUnits characters = some (points, after)) :
    ∃ body, Token characters body after points := by
  induction characters using readUnits.induct generalizing points after with
  | case1 =>
      rw [readUnits.eq_def] at read
      cases read
  | case2 rest =>
      rw [readUnits.eq_def] at read
      cases read
      exact ⟨_, Token.quote rest⟩
  | case3 a b c d later noQuote inductionHypothesis =>
      rw [readUnits_code] at read
      simp only [Option.bind_eq_bind, Option.bind_eq_some_iff] at read
      rcases read with ⟨code, coded, ⟨units, final⟩, others, same⟩
      cases same
      rcases inductionHypothesis others with ⟨body, token⟩
      have plain := hexCode_plain coded
      simp only [List.forall_mem_cons] at plain
      rcases plain with ⟨first, second, third, fourth, _⟩
      refine ⟨'\\' :: 'u' :: a :: b :: c :: d :: body, ?_, ?_, ?_⟩
      · rw [token.whole]
        rfl
      · exact jsonStringToken_escape
          (jsonStringToken_plain first.1 first.2
            (jsonStringToken_plain second.1 second.2
              (jsonStringToken_plain third.1 third.2
                (jsonStringToken_plain fourth.1 fourth.2 token.scanned))))
      · rw [readUnits_code, coded, token.read]
        rfl
  | case4 letter later noCode noQuote inductionHypothesis =>
      rw [readUnits_short noCode] at read
      simp only [Option.bind_eq_bind, Option.bind_eq_some_iff] at read
      rcases read with ⟨character, short, ⟨units, final⟩, others, same⟩
      cases same
      rcases inductionHypothesis others with ⟨body, token⟩
      refine ⟨'\\' :: letter :: body, ?_,
        jsonStringToken_escape token.scanned, ?_⟩
      · rw [token.whole]
        rfl
      · have noLetter : letter ≠ 'u' := by
          rintro rfl
          cases short
        rw [readUnits_short (fun _ _ _ _ _ letter _ => noLetter letter),
          short, token.read]
        rfl
  | case5 noQuote =>
      rw [readUnits.eq_def] at read
      cases read
  | case6 first rest noQuote noEscape control =>
      rw [readUnits.eq_def] at read
      simp only [if_neg noQuote, if_neg noEscape, if_pos control] at read
      cases read
  | case7 first rest noQuote noEscape plain inductionHypothesis =>
      rw [readUnits_plain noQuote noEscape plain] at read
      simp only [Option.bind_eq_bind, Option.bind_eq_some_iff] at read
      rcases read with ⟨⟨units, final⟩, others, same⟩
      cases same
      rcases inductionHypothesis others with ⟨body, token⟩
      refine ⟨first :: body, ?_,
        jsonStringToken_plain noQuote noEscape token.scanned, ?_⟩
      · rw [token.whole]
        rfl
      · rw [readUnits_plain noQuote noEscape plain, token.read]
        rfl

theorem Token.parsed {characters body after : List Char}
    {points : List CodeUnit} (token : Token characters body after points) :
    jsonParse number ('"' :: body) = some (.text (literalUnits points)) := by
  have spaces : skipSpace ('"' :: body) = '"' :: body := rfl
  rw [jsonParse, spaces, parseValue, if_pos rfl, token.read]
  rfl

/-! ## Number tokens -/

/-- A number token is not empty and stands in front of what follows it. -/
theorem numberToken_whole {characters token after : List Char}
    (found : numberToken characters = some (token, after)) :
    characters = token ++ after ∧ token ≠ [] := by
  unfold numberToken at found
  dsimp only at found
  split at found
  · rename_i rest
    have whole := numeral_whole rest
    split at found
    · cases found
    · cases found
      refine ⟨?_, by simp⟩
      simp only [List.cons_append, List.nil_append, whole]
  · have whole := numeral_whole characters
    split at found
    · cases found
    · rename_i digits
      cases found
      refine ⟨?_, ?_⟩
      · simp only [List.nil_append, whole]
      · simp [digits]

/-! ## Stretches of a scan -/

/-- The scan from here on ends, and with this result. -/
def Scans (host : Host) (number : String → Double)
    (sets : List (List Units)) (characters : List Char) (outside : Bool) :
    Prop :=
  ∀ steps, characters.length < steps →
    scanFrom host number steps sets characters = some (.returned outside)

/-- The scan comes from one place in a text to a later one, or it ends in
between because something is outside the profile. -/
structure Passes (host : Host) (number : String → Double)
    (sets : List (List Units)) (characters : List Char)
    (laterSets : List (List Units)) (later : List Char) (outside : Bool) :
    Prop where
  refuses : outside = true → Scans host number sets characters true
  passes :
    outside = false →
      ∀ result, Scans host number laterSets later result →
        Scans host number sets characters result

theorem Passes.refl (sets : List (List Units)) (characters : List Char) :
    Passes host number sets characters sets characters false :=
  ⟨nofun, fun _ _ scans => scans⟩

theorem Passes.trans {first second third : List (List Units)}
    {start middle final : List Char} {early late : Bool}
    (one : Passes host number first start second middle early)
    (two : Passes host number second middle third final late) :
    Passes host number first start third final (early || late) := by
  cases early with
  | true => exact ⟨fun _ => one.refuses rfl, nofun⟩
  | false =>
      exact ⟨fun outside => one.passes rfl _ (two.refuses outside),
        fun inside result scans =>
          one.passes rfl _ (two.passes inside result scans)⟩

/-- A stretch with nothing to refuse in front of another. -/
theorem Passes.before {first second third : List (List Units)}
    {start middle final : List Char} {outside : Bool}
    (one : Passes host number first start second middle false)
    (two : Passes host number second middle third final outside) :
    Passes host number first start third final outside :=
  one.trans two

/-- A stretch with nothing to refuse behind another. -/
theorem Passes.behind {first second third : List (List Units)}
    {start middle final : List Char} {outside : Bool}
    (one : Passes host number first start second middle outside)
    (two : Passes host number second middle third final false) :
    Passes host number first start third final outside := by
  have both := one.trans two
  rwa [Bool.or_false] at both

/-- One turn of the scan's loop that goes on. -/
theorem passes_turn {sets laterSets : List (List Units)} {character : Char}
    {rest later : List Char} (shorter : later.length ≤ rest.length)
    (turn : ∀ steps, rest.length < steps →
      scanFrom host number (steps + 1) sets (character :: rest) =
        scanFrom host number steps laterSets later) :
    Passes host number sets (character :: rest) laterSets later false := by
  refine ⟨nofun, fun _ result scans steps enough => ?_⟩
  cases steps with
  | zero => exact absurd enough (Nat.not_lt_zero _)
  | succ steps =>
      have more : rest.length < steps := Nat.lt_of_succ_lt_succ enough
      rw [turn steps more]
      exact scans steps (Nat.lt_of_le_of_lt shorter more)

/-- A turn of the scan's loop that refuses. -/
theorem passes_refusal {sets laterSets : List (List Units)} {character : Char}
    {rest later : List Char}
    (turn : ∀ steps, rest.length < steps →
      scanFrom host number (steps + 1) sets (character :: rest) =
        some (.returned true)) :
    Passes host number sets (character :: rest) laterSets later true := by
  refine ⟨fun _ steps enough => ?_, nofun⟩
  cases steps with
  | zero => exact absurd enough (Nat.not_lt_zero _)
  | succ steps => exact turn steps (Nat.lt_of_succ_lt_succ enough)

/-- A character that begins no token and closes no object. -/
def isSeparator (character : Char) : Bool :=
  character != '"' && character != '{' && character != '}' &&
    !(character = '-' || isDigit character)

theorem passes_separator {sets : List (List Units)} {character : Char}
    {rest : List Char} (separates : isSeparator character = true) :
    Passes host number sets (character :: rest) sets rest false := by
  simp only [isSeparator, Bool.and_eq_true, bne_iff_ne,
    Bool.not_eq_true'] at separates
  rcases separates with ⟨⟨⟨noQuote, noOpen⟩, noClose⟩, noNumber⟩
  refine passes_turn (Nat.le_refl _) fun steps _ => ?_
  rw [scanFrom, if_neg noQuote, if_neg noOpen, if_neg noClose, noNumber]
  rfl

theorem passes_open {sets : List (List Units)} {rest : List Char} :
    Passes host number sets ('{' :: rest) ([] :: sets) rest false :=
  passes_turn (Nat.le_refl _) fun _ _ => rfl

theorem passes_close {members : List Units} {sets : List (List Units)}
    {rest : List Char} :
    Passes host number (members :: sets) ('}' :: rest) sets rest false :=
  passes_turn (Nat.le_refl _) fun _ _ => rfl

theorem isSeparator_of_isSpace {character : Char}
    (space : isSpace character = true) : isSeparator character = true := by
  simp only [isSpace, Bool.or_eq_true, decide_eq_true_eq] at space
  rcases space with ((rfl | rfl) | rfl) | rfl <;> rfl

theorem passes_space (sets : List (List Units)) (characters : List Char) :
    Passes host number sets characters sets (skipSpace characters) false := by
  induction characters with
  | nil => exact Passes.refl sets []
  | cons first rest inductionHypothesis =>
      cases space : isSpace first with
      | true =>
          have skipped : skipSpace (first :: rest) = skipSpace rest := by
            rw [skipSpace, List.dropWhile_cons, if_pos space]
            rfl
          rw [skipped]
          exact (passes_separator (isSeparator_of_isSpace space)).trans
            inductionHypothesis
      | false =>
          have kept : skipSpace (first :: rest) = first :: rest := by
            rw [skipSpace, List.dropWhile_cons, space]
            rfl
          rw [kept]
          exact Passes.refl sets _

/-- A string that names no member. -/
theorem passes_text {sets : List (List Units)}
    {characters body after : List Char} {points : List CodeUnit}
    (token : Token characters body after points)
    (value : startsMember after = false) :
    Passes host number sets ('"' :: characters) sets after
      (stringOutsideCanonicalProfile host (literalUnits points)) := by
  have shorter : after.length ≤ characters.length := by
    rw [token.whole, List.length_append]
    omega
  have turn (steps : Nat) (enough : characters.length < steps) :
      scanFrom host number (steps + 1) sets ('"' :: characters) =
        if stringOutsideCanonicalProfile host (literalUnits points) then
          some (.returned true)
        else scanFrom host number steps sets after := by
    rw [scanFrom, if_pos rfl, token.scanned steps enough]
    simp only [Option.bind_eq_bind, Option.bind_some, token.parsed, value,
      Bool.false_eq_true, if_false]
  cases outside : stringOutsideCanonicalProfile host (literalUnits points) with
  | true =>
      refine passes_refusal fun steps enough => ?_
      rw [turn steps enough, if_pos outside]
  | false =>
      refine passes_turn shorter fun steps enough => ?_
      rw [turn steps enough, outside]
      rfl

/-- A string that names a member of the innermost object. -/
theorem passes_key {members : List Units} {sets : List (List Units)}
    {characters body after : List Char} {points : List CodeUnit}
    (token : Token characters body after points)
    (names : startsMember after = true) :
    Passes host number (members :: sets) ('"' :: characters)
      ((literalUnits points :: members) :: sets) after
      (stringOutsideCanonicalProfile host (literalUnits points) ||
        (keyOutsideCanonicalProfile host (literalUnits points) ||
          decide (literalUnits points ∈ members))) := by
  have shorter : after.length ≤ characters.length := by
    rw [token.whole, List.length_append]
    omega
  have turn (steps : Nat) (enough : characters.length < steps) :
      scanFrom host number (steps + 1) (members :: sets)
          ('"' :: characters) =
        if stringOutsideCanonicalProfile host (literalUnits points) ||
            (keyOutsideCanonicalProfile host (literalUnits points) ||
              decide (literalUnits points ∈ members)) then
          some (.returned true)
        else
          scanFrom host number steps
            ((literalUnits points :: members) :: sets) after := by
    rw [scanFrom, if_pos rfl, token.scanned steps enough]
    simp only [Option.bind_eq_bind, Option.bind_some, token.parsed, names,
      if_true]
    cases stringOutsideCanonicalProfile host (literalUnits points) <;> rfl
  cases outside :
      stringOutsideCanonicalProfile host (literalUnits points) ||
        (keyOutsideCanonicalProfile host (literalUnits points) ||
          decide (literalUnits points ∈ members)) with
  | true =>
      refine passes_refusal fun steps enough => ?_
      rw [turn steps enough, if_pos outside]
  | false =>
      refine passes_turn shorter fun steps enough => ?_
      rw [turn steps enough, outside]
      rfl

theorem passes_number {sets : List (List Units)} {character : Char}
    {rest token after : List Char}
    (begins : (character = '-' || isDigit character) = true)
    (found : numberToken (character :: rest) = some (token, after)) :
    Passes host number sets (character :: rest) sets after
      (numberOutsideCanonicalProfile token) := by
  have marked (special : Char)
      (mark : (special = '-' || isDigit special) = false) :
      character ≠ special := by
    rintro rfl
    rw [mark] at begins
    cases begins
  have shorter : after.length ≤ rest.length := by
    rcases numberToken_whole found with ⟨whole, nonempty⟩
    have positive := List.length_pos_of_ne_nil nonempty
    have lengths := congrArg List.length whole
    simp only [List.length_cons, List.length_append] at lengths
    omega
  have turn (steps : Nat) :
      scanFrom host number (steps + 1) sets (character :: rest) =
        if numberOutsideCanonicalProfile token then some (.returned true)
        else scanFrom host number steps sets after := by
    rw [scanFrom, if_neg (marked '"' rfl), if_neg (marked '{' rfl),
      if_neg (marked '}' rfl), if_pos begins, found]
  cases outside : numberOutsideCanonicalProfile token with
  | true =>
      refine passes_refusal fun steps _ => ?_
      rw [turn steps, if_pos outside]
  | false =>
      refine passes_turn shorter fun steps _ => ?_
      rw [turn steps, outside]
      rfl

/-! ## Numerals of the value -/

mutual

/-- What of a JSON value is outside the canonical profile. -/
def outsideProfile (host : Host) : Json → Bool
  | .null => false
  | .bool _ => false
  | .integer _ magnitude => decide (maxSafeNumber < magnitude)
  | .real _ => true
  | .text units => stringOutsideCanonicalProfile host units
  | .array items => itemsOutside host items
  | .object members => membersOutside host [] members

def itemsOutside (host : Host) : List Json → Bool
  | [] => false
  | item :: rest => outsideProfile host item || itemsOutside host rest

/-- Of the members of an object that follow the members already `seen`. -/
def membersOutside (host : Host) : List Units → Json.Members → Bool
  | _, [] => false
  | seen, (name, value) :: rest =>
      (stringOutsideCanonicalProfile host name ||
          (keyOutsideCanonicalProfile host name || decide (name ∈ seen))) ||
        (outsideProfile host value || membersOutside host (name :: seen) rest)

end

theorem integerDigits_isDigit {characters : List Char} :
    ∀ digit ∈ (integerDigits characters).1, isDigit digit = true := by
  unfold integerDigits
  split
  · intro digit member
    rw [List.mem_singleton.1 member]
    rfl
  · intro digit member
    exact List.all_eq_true.1 List.all_takeWhile digit member

theorem fraction_mark (characters : List Char) :
    (fraction characters).1 = [] ∨ '.' ∈ (fraction characters).1 := by
  unfold fraction
  split
  · split
    · exact .inl rfl
    · exact .inr List.mem_cons_self
  · exact .inl rfl

theorem exponent_mark (characters : List Char) :
    (exponent characters).1 = [] ∨
      'e' ∈ (exponent characters).1 ∨ 'E' ∈ (exponent characters).1 := by
  unfold exponent
  split
  · dsimp only
    split
    · rename_i marked
      rcases marked.1 with rfl | rfl
      · exact .inr (.inl List.mem_cons_self)
      · exact .inr (.inr List.mem_cons_self)
    · exact .inl rfl
  · exact .inl rfl

/-- A token with a mark of a fraction or an exponent is refused. -/
theorem numberOutside_of_mem {token : List Char} {mark : Char}
    (marks : mark = '.' ∨ mark = 'e' ∨ mark = 'E') (member : mark ∈ token) :
    numberOutsideCanonicalProfile token = true := by
  have some_mark : (token.any fun character =>
      character = '.' || character = 'e' || character = 'E') = true := by
    rw [List.any_eq_true]
    refine ⟨mark, member, ?_⟩
    rcases marks with rfl | rfl | rfl <;> rfl
  rw [numberOutsideCanonicalProfile, if_pos some_mark]

/-- Of a sign and digits, the magnitude decides. -/
theorem numberOutside_digits {negative : Bool} {digits : List Char}
    (each : ∀ digit ∈ digits, isDigit digit = true) (some_digit : digits ≠ []) :
    numberOutsideCanonicalProfile
        ((if negative then ['-'] else []) ++ digits) =
      decide (maxSafeNumber < Nat.ofDigitChars 10 digits 0) := by
  have plain (mark : Char) (other : isDigit mark = false) : mark ∉ digits := by
    intro member
    rw [each mark member] at other
    cases other
  have unmarked : (((if negative then ['-'] else []) ++ digits).any
      fun character =>
        character = '.' || character = 'e' || character = 'E') = false := by
    have digitsOnly : (digits.any fun character =>
        character = '.' || character = 'e' || character = 'E') = false := by
      rw [List.any_eq_false]
      intro character member marked
      simp only [Bool.or_eq_true, decide_eq_true_eq] at marked
      rcases marked with (rfl | rfl) | rfl
      · exact plain '.' rfl member
      · exact plain 'e' rfl member
      · exact plain 'E' rfl member
    cases negative with
    | true => exact digitsOnly
    | false => exact digitsOnly
  have value : bigInt ((if negative then ['-'] else []) ++ digits) =
      signed negative (Nat.ofDigitChars 10 digits 0) := by
    cases negative with
    | true => rfl
    | false =>
        cases digits with
        | nil => exact absurd rfl some_digit
        | cons first rest =>
            have noMinus : first ≠ '-' := by
              rintro rfl
              exact plain '-' rfl List.mem_cons_self
            simp only [Bool.false_eq_true, if_false, List.nil_append, signed]
            unfold bigInt
            split
            · rename_i same
              exact absurd (List.cons.inj same).1 noMinus
            · rfl
  rw [numberOutsideCanonicalProfile, unmarked, value]
  rw [Bool.eq_iff_iff]
  cases negative <;> simp [signed]

theorem numberToken_of_digits (negative : Bool) {characters : List Char}
    (digits : (integerDigits characters).1 ≠ []) :
    numberToken ((if negative then ['-'] else []) ++ characters) =
      some ((if negative then ['-'] else []) ++
        (integerDigits characters).1 ++
        (fraction (integerDigits characters).2).1 ++
        (exponent (fraction (integerDigits characters).2).2).1,
        (exponent (fraction (integerDigits characters).2).2).2) := by
  unfold numberToken
  cases negative with
  | true => exact if_neg digits
  | false =>
      simp only [Bool.false_eq_true, if_false, List.nil_append]
      split
      · rename_i rest
        exact absurd rfl digits
      · exact if_neg digits

theorem numberToken_begins {first : Char} {rest token after : List Char}
    (found : numberToken (first :: rest) = some (token, after)) :
    (first = '-' || isDigit first) = true := by
  unfold numberToken at found
  dsimp only at found
  split at found
  · rename_i same
    cases same
    rfl
  · split at found
    · cases found
    · rename_i digits
      rw [Bool.or_eq_true]
      right
      unfold integerDigits at digits
      split at digits
      · rename_i same
        cases same
        rfl
      · rw [List.takeWhile_cons] at digits
        split at digits
        · assumption
        · exact absurd rfl digits

/-- A numeral of the value is the token that the scan finds. -/
theorem parseNumeral_token (host : Host) {negative : Bool}
    {characters rest : List Char} {value : Json}
    (parsed : parseNumeral number negative characters = some (value, rest)) :
    ∃ token,
      numberToken ((if negative then ['-'] else []) ++ characters) =
          some (token, rest) ∧
        numberOutsideCanonicalProfile token = outsideProfile host value := by
  unfold parseNumeral at parsed
  dsimp only at parsed
  split at parsed
  · cases parsed
  · rename_i digits
    have found := numberToken_of_digits negative digits
    split at parsed
    · rename_i bare
      cases parsed
      refine ⟨_, found, ?_⟩
      rw [bare.1, bare.2, List.append_nil, List.append_nil,
        numberOutside_digits integerDigits_isDigit digits, outsideProfile]
    · rename_i marked
      cases parsed
      refine ⟨_, found, ?_⟩
      rw [outsideProfile]
      rcases fraction_mark (integerDigits characters).2 with bare | point
      · rcases exponent_mark (fraction (integerDigits characters).2).2 with
          none | lower | upper
        · exact absurd ⟨bare, none⟩ marked
        · exact numberOutside_of_mem (.inr (.inl rfl))
            (List.mem_append_right _ lower)
        · exact numberOutside_of_mem (.inr (.inr rfl))
            (List.mem_append_right _ upper)
      · exact numberOutside_of_mem (.inl rfl)
          (List.mem_append_left _ (List.mem_append_right _ point))

/-! ## The scan of a value -/

theorem startsMember_skipSpace (characters : List Char) :
    startsMember (skipSpace characters) = startsMember characters := by
  induction characters with
  | nil => rfl
  | cons first rest inductionHypothesis =>
      cases space : isSpace first with
      | true =>
          have wider : isScriptSpace first = true := by
            simp [isScriptSpace, space]
          have skipped : skipSpace (first :: rest) = skipSpace rest := by
            rw [skipSpace, List.dropWhile_cons, if_pos space]
            rfl
          rw [skipped, inductionHypothesis]
          unfold startsMember
          rw [List.dropWhile_cons, if_pos wider]
      | false =>
          have kept : skipSpace (first :: rest) = first :: rest := by
            rw [skipSpace, List.dropWhile_cons, space]
            rfl
          rw [kept]

theorem startsMember_of_skipSpace {characters : List Char} {first : Char}
    {rest : List Char} (follows : skipSpace characters = first :: rest)
    (ends : first = ',' ∨ first = ']' ∨ first = '}') :
    startsMember characters = false := by
  rw [← startsMember_skipSpace, follows]
  rcases ends with rfl | rfl | rfl <;> rfl

/-- White space and one separator. -/
theorem passes_mark {sets : List (List Units)} {characters rest : List Char}
    {mark : Char} (follows : skipSpace characters = mark :: rest)
    (separates : isSeparator mark = true) :
    Passes host number sets characters sets rest false := by
  have spaces : Passes host number sets characters sets
      (skipSpace characters) false := passes_space sets characters
  rw [follows] at spaces
  exact spaces.before (passes_separator separates)

/-- A literal or a number. -/
theorem passes_plain {sets : List (List Units)} {characters rest : List Char}
    {value : Json}
    (parsed : parsePlain number characters = some (value, rest)) :
    Passes host number sets characters sets rest
      (outsideProfile host value) := by
  unfold parsePlain at parsed
  split at parsed
  · cases parsed
    exact (passes_separator rfl).before <| (passes_separator rfl).before <|
      (passes_separator rfl).before (passes_separator rfl)
  · cases parsed
    exact (passes_separator rfl).before <| (passes_separator rfl).before <|
      (passes_separator rfl).before (passes_separator rfl)
  · cases parsed
    exact (passes_separator rfl).before <| (passes_separator rfl).before <|
      (passes_separator rfl).before <| (passes_separator rfl).before
        (passes_separator rfl)
  · rcases parseNumeral_token host parsed with ⟨token, found, same⟩
    rw [← same]
    exact passes_number rfl found
  · rcases parseNumeral_token host parsed with ⟨token, found, same⟩
    rw [← same]
    cases characters with
    | nil => cases found
    | cons first later => exact passes_number (numberToken_begins found) found

mutual

theorem passes_value : ∀ (fuel : Nat) {sets : List (List Units)}
    {characters rest : List Char} {value : Json},
    parseValue number fuel characters = some (value, rest) →
      startsMember rest = false →
      Passes host number sets characters sets rest
        (outsideProfile host value)
  | 0, _, _, _, _, parsed, _ => by cases parsed
  | _ + 1, _, [], _, _, parsed, _ => by cases parsed
  | fuel + 1, sets, first :: others, rest, value, parsed, ends => by
      rw [parseValue] at parsed
      split at parsed
      · rename_i quote
        subst quote
        simp only [Option.bind_eq_bind, Option.bind_eq_some_iff] at parsed
        rcases parsed with ⟨⟨points, later⟩, read, same⟩
        cases same
        rcases token_of_readUnits read with ⟨body, token⟩
        exact passes_text token ends
      split at parsed
      · rename_i bracket
        subst bracket
        split at parsed
        · rename_i later closes
          cases parsed
          exact (passes_separator rfl).before (passes_mark closes rfl)
        · simp only [Option.bind_eq_bind, Option.bind_eq_some_iff] at parsed
          rcases parsed with ⟨⟨items, later⟩, listed, same⟩
          cases same
          exact (passes_separator rfl).before <|
            (passes_space sets others).before (passes_items fuel listed)
      split at parsed
      · rename_i brace
        subst brace
        have opened : Passes host number sets ('{' :: others) ([] :: sets)
            (skipSpace others) false :=
          passes_open.before (passes_space _ others)
        split at parsed
        · rename_i later closes
          cases parsed
          rw [closes] at opened
          exact opened.before passes_close
        · simp only [Option.bind_eq_bind, Option.bind_eq_some_iff] at parsed
          rcases parsed with ⟨⟨members, later⟩, listed, same⟩
          cases same
          exact opened.before (passes_members fuel listed)
      · exact passes_plain parsed

theorem passes_items : ∀ (fuel : Nat) {sets : List (List Units)}
    {characters rest : List Char} {items : List Json},
    parseItems number fuel characters = some (items, rest) →
      Passes host number sets characters sets rest (itemsOutside host items)
  | 0, _, _, _, _, parsed => by cases parsed
  | fuel + 1, sets, characters, rest, items, parsed => by
      rw [parseItems] at parsed
      simp only [Option.bind_eq_bind, Option.bind_eq_some_iff] at parsed
      rcases parsed with ⟨⟨item, after⟩, first, parsed⟩
      dsimp only at parsed
      split at parsed
      · rename_i later closes
        cases parsed
        have one : Passes host number sets characters sets after
            (outsideProfile host item) :=
          passes_value fuel first
            (startsMember_of_skipSpace closes (.inr (.inl rfl)))
        rw [itemsOutside, itemsOutside, Bool.or_false]
        exact one.behind (passes_mark closes rfl)
      · rename_i later comma
        simp only [Option.bind_eq_some_iff] at parsed
        rcases parsed with ⟨⟨others, final⟩, listed, same⟩
        cases same
        have one : Passes host number sets characters sets after
            (outsideProfile host item) :=
          passes_value fuel first
            (startsMember_of_skipSpace comma (.inl rfl))
        have between : Passes host number sets after sets
            (skipSpace later) false :=
          (passes_mark comma rfl).before (passes_space sets later)
        exact (one.behind between).trans (passes_items fuel listed)
      · cases parsed

theorem passes_members : ∀ (fuel : Nat) {seen : List Units}
    {sets : List (List Units)} {characters rest : List Char}
    {members : Json.Members},
    parseMembers number fuel characters = some (members, rest) →
      Passes host number (seen :: sets) characters sets rest
        (membersOutside host seen members)
  | 0, _, _, _, _, _, parsed => by cases parsed
  | _ + 1, _, _, [], _, _, parsed => by cases parsed
  | fuel + 1, seen, sets, first :: others, rest, members, parsed => by
      rw [parseMembers] at parsed
      split at parsed
      · rename_i quote
        subst quote
        simp only [Option.bind_eq_bind, Option.bind_eq_some_iff] at parsed
        rcases parsed with ⟨⟨points, after⟩, read, parsed⟩
        dsimp only at parsed
        split at parsed
        · rename_i later colon
          simp only [Option.bind_eq_some_iff] at parsed
          rcases parsed with ⟨⟨item, follows⟩, valued, parsed⟩
          dsimp only at parsed
          rcases token_of_readUnits read with ⟨body, token⟩
          have names : startsMember after = true := by
            rw [← startsMember_skipSpace, colon]
            rfl
          have key : Passes host number (seen :: sets) ('"' :: others)
              ((literalUnits points :: seen) :: sets) after _ :=
            passes_key token names
          have between : Passes host number
              ((literalUnits points :: seen) :: sets) after
              ((literalUnits points :: seen) :: sets) (skipSpace later)
              false :=
            (passes_mark colon rfl).before (passes_space _ later)
          have one (ends : startsMember follows = false) :
              Passes host number ((literalUnits points :: seen) :: sets)
                (skipSpace later) ((literalUnits points :: seen) :: sets)
                follows (outsideProfile host item) :=
            passes_value fuel valued ends
          have spaces : Passes host number
              ((literalUnits points :: seen) :: sets) follows
              ((literalUnits points :: seen) :: sets) (skipSpace follows)
              false :=
            passes_space _ follows
          split at parsed
          · rename_i final closes
            cases parsed
            have ends := startsMember_of_skipSpace closes (.inr (.inr rfl))
            rw [closes] at spaces
            rw [membersOutside, membersOutside, Bool.or_false]
            exact (key.behind between).trans
              ((one ends).behind (spaces.before passes_close))
          · rename_i final comma
            simp only [Option.bind_eq_some_iff] at parsed
            rcases parsed with ⟨⟨more, last⟩, listed, same⟩
            cases same
            have ends := startsMember_of_skipSpace comma (.inl rfl)
            rw [comma] at spaces
            have next := spaces.before <|
              (passes_separator rfl).before (passes_space _ final)
            exact (key.behind between).trans
              (((one ends).behind next).trans (passes_members fuel listed))
          · cases parsed
        · cases parsed
      · cases parsed

end

/-- On a JSON text the scan ends, and it finds what the value has outside the
profile. -/
theorem scans_of_jsonParse {raw : List Char} {value : Json}
    (parsed : jsonParse number raw = some value) :
    Scans host number [] raw (outsideProfile host value) := by
  simp only [jsonParse, Option.bind_eq_bind, Option.bind_eq_some_iff] at parsed
  rcases parsed with ⟨⟨found, rest⟩, read, parsed⟩
  dsimp only at parsed
  split at parsed
  · rename_i ends
    cases parsed
    have noMember : startsMember rest = false := by
      rw [← startsMember_skipSpace, ends]
      rfl
    have whole : Passes host number [] raw [] (skipSpace rest)
        (outsideProfile host value) :=
      (passes_space [] raw).before <|
        (passes_value _ read noMember).behind (passes_space [] rest)
    rw [ends] at whole
    have finished : Scans host number [] [] false := by
      intro steps enough
      cases steps with
      | zero => exact absurd enough (Nat.not_lt_zero _)
      | succ steps => rfl
    cases outside : outsideProfile host value with
    | true => exact whole.refuses outside
    | false => exact whole.passes outside false finished
  · cases parsed

/-! ## The reader's steps -/

theorem readUnits_shorter {characters rest : List Char}
    {points : List CodeUnit}
    (read : readUnits characters = some (points, rest)) :
    rest.length < characters.length := by
  rcases token_of_readUnits read with ⟨body, token⟩
  cases body with
  | nil => cases token.read
  | cons first others =>
      rw [token.whole, List.length_append, List.length_cons]
      omega

theorem skipSpace_length (characters : List Char) :
    (skipSpace characters).length ≤ characters.length :=
  (List.dropWhile_suffix isSpace).length_le

theorem parsePlain_shorter {characters rest : List Char} {value : Json}
    (parsed : parsePlain number characters = some (value, rest)) :
    rest.length < characters.length := by
  have numeral {negative : Bool} {unsigned : List Char}
      (found : parseNumeral number negative unsigned = some (value, rest)) :
      rest.length < unsigned.length := by
    have whole := congrArg List.length (numeral_whole unsigned)
    unfold parseNumeral at found
    dsimp only at found
    split at found
    · cases found
    · rename_i digits
      have positive := List.length_pos_of_ne_nil digits
      simp only [List.length_append] at whole
      split at found <;> cases found <;> omega
  unfold parsePlain at parsed
  split at parsed
  · cases parsed
    simp only [List.length_cons]
    omega
  · cases parsed
    simp only [List.length_cons]
    omega
  · cases parsed
    simp only [List.length_cons]
    omega
  · exact Nat.lt_succ_of_lt (numeral parsed)
  · exact numeral parsed

mutual

/-- A value takes no more steps than it has characters. -/
theorem parseValue_enough : ∀ (fuel : Nat) {characters rest : List Char}
    {value : Json},
    parseValue number fuel characters = some (value, rest) →
      rest.length < characters.length ∧
        ∀ other, characters.length ≤ other + rest.length →
          parseValue number other characters = some (value, rest)
  | 0, _, _, _, parsed => by cases parsed
  | _ + 1, [], _, _, parsed => by cases parsed
  | fuel + 1, first :: others, rest, value, parsed => by
      have spaces := skipSpace_length others
      have step (shorter : rest.length ≤ others.length)
          (again : ∀ other, others.length ≤ other + rest.length →
            parseValue number (other + 1) (first :: others) =
              some (value, rest)) :
          rest.length < (first :: others).length ∧
            ∀ other, (first :: others).length ≤ other + rest.length →
              parseValue number other (first :: others) =
                some (value, rest) := by
        rw [List.length_cons]
        refine ⟨by omega, fun other enough => ?_⟩
        cases other with
        | zero => omega
        | succ other => exact again other (by omega)
      rw [parseValue] at parsed
      split at parsed
      · rename_i quote
        simp only [Option.bind_eq_bind, Option.bind_eq_some_iff] at parsed
        rcases parsed with ⟨⟨points, later⟩, read, same⟩
        cases same
        refine step (readUnits_shorter read).le fun other _ => ?_
        rw [parseValue, if_pos quote, read]
        rfl
      rename_i noQuote
      split at parsed
      · rename_i bracket
        split at parsed
        · rename_i later closes
          cases parsed
          rw [closes, List.length_cons] at spaces
          refine step (by omega) fun other _ => ?_
          rw [parseValue, if_neg noQuote, if_pos bracket, closes]
          rfl
        · rename_i opened
          simp only [Option.bind_eq_bind, Option.bind_eq_some_iff] at parsed
          rcases parsed with ⟨⟨items, later⟩, listed, same⟩
          simp only [Option.some.injEq, Prod.mk.injEq] at same
          rcases same with ⟨rfl, rfl⟩
          rcases parseItems_enough fuel listed with ⟨shorter, again⟩
          refine step (by omega) fun other enough => ?_
          rw [parseValue, if_neg noQuote, if_pos bracket]
          split
          · rename_i closes
            exact (opened _ closes).elim
          · rw [again other (by omega)]
            rfl
      rename_i noBracket
      split at parsed
      · rename_i brace
        split at parsed
        · rename_i later closes
          cases parsed
          rw [closes, List.length_cons] at spaces
          refine step (by omega) fun other _ => ?_
          rw [parseValue, if_neg noQuote, if_neg noBracket, if_pos brace,
            closes]
          rfl
        · rename_i opened
          simp only [Option.bind_eq_bind, Option.bind_eq_some_iff] at parsed
          rcases parsed with ⟨⟨members, later⟩, listed, same⟩
          simp only [Option.some.injEq, Prod.mk.injEq] at same
          rcases same with ⟨rfl, rfl⟩
          rcases parseMembers_enough fuel listed with ⟨shorter, again⟩
          refine step (by omega) fun other enough => ?_
          rw [parseValue, if_neg noQuote, if_neg noBracket, if_pos brace]
          split
          · rename_i closes
            exact (opened _ closes).elim
          · rw [again other (by omega)]
            rfl
      · rename_i noBrace
        have shorter := parsePlain_shorter parsed
        rw [List.length_cons] at shorter
        refine step (by omega) fun other _ => ?_
        rw [parseValue, if_neg noQuote, if_neg noBracket, if_neg noBrace,
          parsed]

theorem parseItems_enough : ∀ (fuel : Nat) {characters rest : List Char}
    {items : List Json},
    parseItems number fuel characters = some (items, rest) →
      rest.length < characters.length ∧
        ∀ other, characters.length ≤ other + rest.length →
          parseItems number other characters = some (items, rest)
  | 0, _, _, _, parsed => by cases parsed
  | fuel + 1, characters, rest, items, parsed => by
      rw [parseItems] at parsed
      simp only [Option.bind_eq_bind, Option.bind_eq_some_iff] at parsed
      rcases parsed with ⟨⟨item, after⟩, first, parsed⟩
      dsimp only at parsed
      rcases parseValue_enough fuel first with ⟨one, firstAgain⟩
      have spaces := skipSpace_length after
      split at parsed
      · rename_i later closes
        cases parsed
        rw [closes, List.length_cons] at spaces
        refine ⟨by omega, fun other enough => ?_⟩
        cases other with
        | zero => omega
        | succ other =>
            rw [parseItems, firstAgain other (by omega)]
            simp only [Option.bind_eq_bind, Option.bind_some]
            rw [closes]
            rfl
      · rename_i later comma
        simp only [Option.bind_eq_some_iff] at parsed
        rcases parsed with ⟨⟨others, final⟩, listed, same⟩
        simp only [Option.some.injEq, Prod.mk.injEq] at same
        rcases same with ⟨rfl, rfl⟩
        rcases parseItems_enough fuel listed with ⟨shorter, again⟩
        have between := skipSpace_length later
        rw [comma, List.length_cons] at spaces
        refine ⟨by omega, fun other enough => ?_⟩
        cases other with
        | zero => omega
        | succ other =>
            rw [parseItems, firstAgain other (by omega)]
            simp only [Option.bind_eq_bind, Option.bind_some]
            rw [comma]
            simp only [again other (by omega), Option.bind_some]
      · cases parsed

theorem parseMembers_enough : ∀ (fuel : Nat) {characters rest : List Char}
    {members : Json.Members},
    parseMembers number fuel characters = some (members, rest) →
      rest.length < characters.length ∧
        ∀ other, characters.length ≤ other + rest.length →
          parseMembers number other characters = some (members, rest)
  | 0, _, _, _, parsed => by cases parsed
  | _ + 1, [], _, _, parsed => by cases parsed
  | fuel + 1, first :: others, rest, members, parsed => by
      rw [parseMembers] at parsed
      split at parsed
      · rename_i quote
        simp only [Option.bind_eq_bind, Option.bind_eq_some_iff] at parsed
        rcases parsed with ⟨⟨points, after⟩, read, parsed⟩
        dsimp only at parsed
        have named := readUnits_shorter read
        have spaces := skipSpace_length after
        split at parsed
        · rename_i later colon
          simp only [Option.bind_eq_some_iff] at parsed
          rcases parsed with ⟨⟨item, follows⟩, valued, parsed⟩
          dsimp only at parsed
          rcases parseValue_enough fuel valued with ⟨one, valueAgain⟩
          have between := skipSpace_length later
          have behind := skipSpace_length follows
          rw [colon, List.length_cons] at spaces
          split at parsed
          · rename_i final closes
            cases parsed
            rw [closes, List.length_cons] at behind
            rw [List.length_cons]
            refine ⟨by omega, fun other enough => ?_⟩
            cases other with
            | zero => omega
            | succ other =>
                rw [parseMembers, if_pos quote, read]
                simp only [Option.bind_eq_bind, Option.bind_some]
                rw [colon]
                simp only [valueAgain other (by omega), Option.bind_some]
                rw [closes]
                rfl
          · rename_i final comma
            simp only [Option.bind_eq_some_iff] at parsed
            rcases parsed with ⟨⟨more, last⟩, listed, same⟩
            simp only [Option.some.injEq, Prod.mk.injEq] at same
            rcases same with ⟨rfl, rfl⟩
            rcases parseMembers_enough fuel listed with ⟨shorter, again⟩
            have next := skipSpace_length final
            rw [comma, List.length_cons] at behind
            rw [List.length_cons]
            refine ⟨by omega, fun other enough => ?_⟩
            cases other with
            | zero => omega
            | succ other =>
                rw [parseMembers, if_pos quote, read]
                simp only [Option.bind_eq_bind, Option.bind_some]
                rw [colon]
                simp only [valueAgain other (by omega), Option.bind_some]
                rw [comma]
                simp only [again other (by omega), Option.bind_some]
          · cases parsed
        · cases parsed
      · cases parsed

end

/-- `JSON.parse` reads every text that can be read in some number of steps. -/
theorem jsonParse_complete {fuel : Nat} {text rest : List Char} {value : Json}
    (parsed : parseValue number fuel (skipSpace text) = some (value, rest))
    (ends : skipSpace rest = []) : jsonParse number text = some value := by
  have spaces := skipSpace_length text
  have enough := (parseValue_enough fuel parsed).2 (text.length + 1)
    (by omega)
  rw [jsonParse, enough]
  exact if_pos ends

/-- What the decoder makes of a text. -/
def decoded (host : Host) (number : String → Double) (raw : List Char) :
    DecodeResult :=
  match jsonParse number raw with
  | none => .malformedJson
  | some value =>
      if outsideProfile host value then .canonicalProfileRefused
      else .ok (evaluate value)

/-- The decoder ends on every text, within the text's length. -/
theorem decodeCanonicalJson_eq {steps : Nat} {raw : List Char}
    (enough : raw.length < steps) :
    decodeCanonicalJson host number steps raw =
      some (decoded host number raw) := by
  unfold decodeCanonicalJson decoded
  cases parsed : jsonParse number raw with
  | none => rfl
  | some value =>
      have scans : scanFrom host number steps [] raw = _ :=
        scans_of_jsonParse parsed steps enough
      dsimp only
      rw [scans]
      cases outsideProfile host value <;> rfl

theorem decoded_eq_ok {raw : List Char} {found : ScriptValue} :
    decoded host number raw = .ok found ↔
      ∃ value, jsonParse number raw = some value ∧
        outsideProfile host value = false ∧ evaluate value = found := by
  unfold decoded
  cases jsonParse number raw with
  | none => simp
  | some value => cases outside : outsideProfile host value <;> simp [outside]

end AerialRescue.Dashboard.CanonicalDecoding
