import AerialRescue.Dashboard.CanonicalDecoding
import Mathlib.Algebra.Group.Nat.Defs

/-!
# One canonical decoder in two languages

`decode` of the Python contracts and `decodeCanonicalJson` of the browser, over
one text.  Both read the same JSON texts with their languages' readers, except
that Python's also reads `NaN` and the infinities, refuses a long numeral and
runs out of stack on a deep nesting.  What is left is one profile, and the
values that come out are the same ones in two languages.
-/

namespace AerialRescue.Dashboard.DecodingParity

open AerialRescue.Lib.Binary64
open AerialRescue.Lib.Guard
open AerialRescue.Contracts
open AerialRescue.Contracts.Canonical
open AerialRescue.Contracts.CanonicalForm
open AerialRescue.Contracts.JsonText
open AerialRescue.Contracts.SharedJson
open AerialRescue.Dashboard.CanonicalDecoding
open AerialRescue.Dashboard.CanonicalText
open AerialRescue.Dashboard.JsonParse

/-- `decode` of a `str`.  `stack` tells of a text whether the reader and the
encoder end within the interpreter's stack. -/
def decodeText (host : Host) (stack : List Char → Bool) (text : List Char) :
    Except DecodeFailure Value :=
  if stack text then
    match loads text with
    | .error .malformed => .error (.canonicalization .malformedText)
    | .error .duplicateKey => .error (.canonicalization .duplicateKey)
    | .error .loneSurrogate => .error (.canonicalization .loneSurrogate)
    | .error .integerDigits => .error .value
    | .ok value =>
        match canonicalBytes host value with
        | .ok _ => .ok value
        | .error refusal => .error (.canonicalization refusal)
  else .error (.canonicalization .malformedText)

mutual

/-- A script's value and Python's stand for the same thing.  A number is the
integer it stands for, so that the script's `-0` is zero. -/
def Same : ScriptValue → Value → Prop
  | .null, .null => True
  | .bool left, .bool right => left = right
  | .number left, .int right => left.integer? = some right
  | .string left, .text right => left = utf16 right
  | .array left, .array right => SameItems left right
  | .object left, .object right => SameMembers left right
  | _, _ => False

def SameItems : List ScriptValue → List Value → Prop
  | [], [] => True
  | left :: lefts, right :: rights => Same left right ∧ SameItems lefts rights
  | _, _ => False

def SameMembers : Properties → Value.Members → Prop
  | [], [] => True
  | (name, left) :: lefts, (key, right) :: rights =>
      name = utf16 key ∧ Same left right ∧ SameMembers lefts rights
  | _, _ => False

end

variable {host : Host} {number : String → Double}

/-! ## The texts of literals -/

/-- A surrogate that an escape named has a surrogate's code. -/
def Surrogates (points : List CodeUnit) : Prop :=
  ∀ code, CodeUnit.surrogate code ∈ points → 0xD800 ≤ code ∧ code ≤ 0xDFFF

theorem Surrogates.tail {first : CodeUnit} {rest : List CodeUnit}
    (ranged : Surrogates (first :: rest)) : Surrogates rest :=
  fun code member => ranged code (List.mem_cons_of_mem _ member)

theorem Surrogates.cons {first : CodeUnit} {rest : List CodeUnit}
    (here : ∀ code, first = .surrogate code →
      0xD800 ≤ code ∧ code ≤ 0xDFFF)
    (ranged : Surrogates rest) : Surrogates (first :: rest) := by
  intro code member
  rcases List.mem_cons.1 member with same | later
  · exact here code same.symm
  · exact ranged code later

theorem codeUnit_ranged {number code : Nat}
    (named : codeUnit number = .surrogate code) :
    0xD800 ≤ code ∧ code ≤ 0xDFFF := by
  unfold codeUnit at named
  split at named
  · cases named
    assumption
  · cases named

theorem surrogates_of_readUnits {characters rest : List Char}
    {points : List CodeUnit}
    (read : readUnits characters = some (points, rest)) :
    Surrogates points := by
  induction characters using readUnits.induct generalizing points rest with
  | case1 =>
      rw [readUnits.eq_def] at read
      cases read
  | case2 _ =>
      rw [readUnits.eq_def] at read
      cases read
      intro unit member
      cases member
  | case3 a b c d later noQuote inductionHypothesis =>
      rw [readUnits_code] at read
      simp only [Option.bind_eq_bind, Option.bind_eq_some_iff] at read
      rcases read with ⟨code, _, ⟨units, final⟩, others, same⟩
      cases same
      exact (inductionHypothesis others).cons fun _ => codeUnit_ranged
  | case4 letter later noCode noQuote inductionHypothesis =>
      rw [readUnits_short noCode] at read
      simp only [Option.bind_eq_bind, Option.bind_eq_some_iff] at read
      rcases read with ⟨character, _, ⟨units, final⟩, others, same⟩
      cases same
      exact (inductionHypothesis others).cons (by simp)
  | case5 noQuote =>
      rw [readUnits.eq_def] at read
      cases read
  | case6 first later noQuote noEscape control =>
      rw [readUnits.eq_def] at read
      simp only [if_neg noQuote, if_neg noEscape, if_pos control] at read
      cases read
  | case7 first later noQuote noEscape plain inductionHypothesis =>
      rw [readUnits_plain noQuote noEscape plain] at read
      simp only [Option.bind_eq_bind, Option.bind_eq_some_iff] at read
      rcases read with ⟨⟨units, final⟩, others, same⟩
      cases same
      exact (inductionHypothesis others).cons (by simp)

theorem toNat_surrogate {code : Nat}
    (ranged : 0xD800 ≤ code ∧ code ≤ 0xDFFF) :
    (UInt16.ofNat code).toNat = code := by
  rw [UInt16.toNat_ofNat']
  omega

theorem codeUnit_surrogate {code : Nat}
    (ranged : 0xD800 ≤ code ∧ code ≤ 0xDFFF) :
    codeUnit (UInt16.ofNat code).toNat = .surrogate code := by
  rw [toNat_surrogate ranged, codeUnit, if_pos ranged]

/-- A character does not begin with the second half of a pair. -/
theorem isPair_unitsOf (high : UInt16) (character : Char) (rest : Units) :
    ∃ first others, unitsOf character ++ rest = first :: others ∧
      isPair high first = false := by
  have valid := char_not_surrogate character
  unfold unitsOf
  split
  · refine ⟨_, _, rfl, ?_⟩
    have unit : (UInt16.ofNat character.toNat).toNat = character.toNat := by
      rw [UInt16.toNat_ofNat']
      omega
    simp only [isPair, unit, Bool.and_eq_false_iff, decide_eq_false_iff_not]
    omega
  · refine ⟨_, _, rfl, ?_⟩
    have unit : (UInt16.ofNat
        (0xD800 + (character.toNat - 0x10000) / 1024)).toNat =
          0xD800 + (character.toNat - 0x10000) / 1024 := by
      rw [UInt16.toNat_ofNat']
      omega
    simp only [isPair, unit, Bool.and_eq_false_iff, decide_eq_false_iff_not]
    omega

/-- A surrogate that no partner follows stays one. -/
theorem codePoints_lone {code : Nat} {units : Units}
    (ranged : 0xD800 ≤ code ∧ code ≤ 0xDFFF)
    (lone : ∀ first others, units = first :: others →
      isPair (UInt16.ofNat code) first = false) :
    codePoints (UInt16.ofNat code :: units) =
      .surrogate code :: codePoints units := by
  cases units with
  | nil =>
      have unit := codeUnit_surrogate ranged
      simp only [codePoints, unit]
  | cons first others =>
      rw [codePoints, lone first others rfl, codeUnit_surrogate ranged]
      rfl

theorem scalars_scalar (character : Char) (points : List CodeUnit) :
    (scalars (.scalar character :: points)).toList =
      character :: (scalars points).toList := by
  simp [scalars]

theorem scalars_surrogate (code : Nat) (points : List CodeUnit) :
    scalars (.surrogate code :: points) = scalars points := by
  simp [scalars]

/-- Python joins the surrogates of a literal as the browser's code units are
joined. -/
theorem joinUnits_eq {points : List CodeUnit} (ranged : Surrogates points) :
    (joinUnits points).1 =
        (scalars (codePoints (literalUnits points))).toList ∧
      (joinUnits points).2 =
        !(codePoints (literalUnits points)).any isSurrogate := by
  induction points using joinUnits.induct with
  | case1 => exact ⟨rfl, rfl⟩
  | case2 character rest characters paired joined inductionHypothesis =>
      rcases inductionHypothesis ranged.tail with ⟨text, found⟩
      have units : literalUnits (.scalar character :: rest) =
          unitsOf character ++ literalUnits rest := rfl
      rw [joinUnits, units, codePoints_unitsOf, scalars_scalar]
      exact ⟨congrArg _ text, found⟩
  | case3 high low rest pair characters paired joined inductionHypothesis =>
      rcases inductionHypothesis ranged.tail.tail with ⟨text, found⟩
      have highRange := ranged high List.mem_cons_self
      have lowRange := ranged.tail low List.mem_cons_self
      have units : literalUnits (.surrogate high :: .surrogate low :: rest) =
          UInt16.ofNat high :: UInt16.ofNat low :: literalUnits rest := rfl
      have isPaired :
          isPair (UInt16.ofNat high) (UInt16.ofNat low) = true := by
        simp only [isPair, toNat_surrogate highRange,
          toNat_surrogate lowRange, Bool.and_eq_true, decide_eq_true_eq]
        omega
      rw [joinUnits, if_pos pair, units, codePoints, if_pos isPaired,
        toNat_surrogate highRange, toNat_surrogate lowRange, scalars_scalar]
      exact ⟨congrArg _ text, found⟩
  | case4 high low rest single inductionHypothesis =>
      rcases inductionHypothesis ranged.tail with ⟨text, found⟩
      have highRange := ranged high List.mem_cons_self
      have lowRange := ranged.tail low List.mem_cons_self
      have units : literalUnits (.surrogate high :: .surrogate low :: rest) =
          UInt16.ofNat high :: literalUnits (.surrogate low :: rest) := rfl
      have lone : ∀ first others,
          literalUnits (.surrogate low :: rest) = first :: others →
            isPair (UInt16.ofNat high) first = false := by
        intro first others same
        have head : first = UInt16.ofNat low := (List.cons.inj same).1.symm
        rw [head]
        simp only [isPair, toNat_surrogate highRange,
          toNat_surrogate lowRange, Bool.and_eq_false_iff,
          decide_eq_false_iff_not]
        omega
      rw [joinUnits, if_neg single, units, codePoints_lone highRange lone,
        scalars_surrogate]
      exact ⟨text, rfl⟩
  | case5 code rest noneFollows inductionHypothesis =>
      rcases inductionHypothesis ranged.tail with ⟨text, found⟩
      have codeRange := ranged code List.mem_cons_self
      have units : literalUnits (.surrogate code :: rest) =
          UInt16.ofNat code :: literalUnits rest := rfl
      have lone : ∀ first others, literalUnits rest = first :: others →
          isPair (UInt16.ofNat code) first = false := by
        intro first others same
        cases rest with
        | nil => cases same
        | cons point later =>
            cases point with
            | surrogate low => exact (noneFollows low later rfl).elim
            | scalar character =>
                rcases isPair_unitsOf (UInt16.ofNat code) character
                  (literalUnits later) with ⟨head, tail, split, single⟩
                have begins : literalUnits (.scalar character :: later) =
                    unitsOf character ++ literalUnits later := rfl
                rw [begins, split] at same
                rw [← (List.cons.inj same).1]
                exact single
      have joined : joinUnits (.surrogate code :: rest) =
          ((joinUnits rest).1, false) := by
        rw [joinUnits.eq_def]
        split
        · rename_i same
          cases same
        · rename_i same
          cases same
        · rename_i same
          cases same
          exact (noneFollows _ _ rfl).elim
        · rename_i same
          cases same
          rfl
      rw [joined, units, codePoints_lone codeRange lone, scalars_surrogate]
      exact ⟨text, rfl⟩

/-- The characters of code units without surrogates. -/
def textOf (units : Units) : String :=
  scalars (codePoints units)

/-- Python reads a string whose surrogates are paired, and as its
characters. -/
theorem readString_eq_ok {characters rest : List Char} {text : String} :
    readString characters = .ok ⟨text, true, rest⟩ ↔
      ∃ points, readUnits characters = some (points, rest) ∧
        (codePoints (literalUnits points)).any isSurrogate = false ∧
        text = textOf (literalUnits points) := by
  simp only [readString, bind_eq_ok, present_eq_ok, pure_eq_ok,
    Read.mk.injEq]
  constructor
  · rintro ⟨⟨points, later⟩, read, value, paired, rfl⟩
    rcases joinUnits_eq (surrogates_of_readUnits read) with ⟨joined, whole⟩
    refine ⟨points, read, ?_, ?_⟩
    · dsimp only at paired
      rw [paired] at whole
      simpa using whole.symm
    · dsimp only at value
      rw [← value, joined, String.ofList_toList]
      rfl
  · rintro ⟨points, read, whole, rfl⟩
    rcases joinUnits_eq (surrogates_of_readUnits read) with ⟨joined, paired⟩
    refine ⟨(points, rest), read, ?_, ?_, rfl⟩
    · dsimp only
      rw [joined, String.ofList_toList]
      rfl
    · dsimp only
      rw [paired, whole]
      rfl

theorem encodeString_isOk {text : String} :
    (∃ encoded, encodeString host text = .ok encoded) ↔
      (host.nfc text).utf8ByteSize ≤ maxStringBytes := by
  unfold encodeString
  dsimp only
  split
  · rename_i long
    exact iff_of_false (fun ⟨_, same⟩ => by cases same) (by omega)
  · rename_i short
    exact iff_of_true ⟨_, rfl⟩ (by omega)

/-- Both languages put the same strings into the profile. -/
theorem stringOutside_eq_false {units : Units} :
    stringOutsideCanonicalProfile host units = false ↔
      (codePoints units).any isSurrogate = false ∧
        ∃ encoded, encodeString host (textOf units) = .ok encoded := by
  have size :
      (utf8 (host.nfc (scalars (codePoints units))).toList).length =
        (host.nfc (textOf units)).utf8ByteSize := utf8_length _
  rw [encodeString_isOk, stringOutsideCanonicalProfile, Bool.or_eq_false_iff,
    decide_eq_false_iff_not, size, Nat.not_lt]
  rfl

theorem unitsOf_small {unit : UInt16} {character : Char}
    (point : codeUnit unit.toNat = .scalar character) :
    unitsOf character = [unit] := by
  have same := unit_of_codeUnit point
  have small : character.toNat < 0x10000 := by
    have bounded := unit.toNat_lt
    unfold codeUnit at point
    split at point
    · cases point
    · rename_i scalar
      have valid : unit.toNat.isValidChar := by
        by_cases low : unit.toNat < 0xD800
        · exact .inl low
        · right
          omega
      rw [← CodeUnit.scalar.inj point, toNat_ofNat_of_isValidChar valid]
      exact bounded
  rw [unitsOf, if_pos small, ← same]

theorem unitsOf_pair {first second : UInt16}
    (pair : isPair first second = true) :
    unitsOf (Char.ofNat (pairNumber first.toNat second.toNat)) =
      [first, second] := by
  simp only [isPair, Bool.and_eq_true, decide_eq_true_eq] at pair
  have valid : (pairNumber first.toNat second.toNat).isValidChar := by
    right
    unfold pairNumber
    omega
  have large : ¬(pairNumber first.toNat second.toNat) < 0x10000 := by
    unfold pairNumber
    omega
  have high : 0xD800 +
      (pairNumber first.toNat second.toNat - 0x10000) / 1024 =
        first.toNat := by
    unfold pairNumber
    omega
  have low : 0xDC00 +
      (pairNumber first.toNat second.toNat - 0x10000) % 1024 =
        second.toNat := by
    unfold pairNumber
    omega
  rw [unitsOf, toNat_ofNat_of_isValidChar valid, if_neg large, high, low,
    UInt16.ofNat_toNat, UInt16.ofNat_toNat]

/-- Code units without surrogates are those of their characters. -/
theorem utf16_textOf (units : Units)
    (whole : (codePoints units).any isSurrogate = false) :
    utf16 (textOf units) = units := by
  unfold utf16 textOf
  induction units using codePoints.induct with
  | case1 => rfl
  | case2 last =>
      cases point : codeUnit last.toNat with
      | surrogate code =>
          rw [codePoints, point] at whole
          cases whole
      | scalar character =>
          rw [codePoints, point, scalars_scalar, List.flatMap_cons,
            unitsOf_small point]
          rfl
  | case3 first second rest pair inductionHypothesis =>
      rw [codePoints, if_pos pair] at whole ⊢
      rw [scalars_scalar, List.flatMap_cons, unitsOf_pair pair,
        inductionHypothesis whole]
      rfl
  | case4 first second rest single inductionHypothesis =>
      rw [codePoints, if_neg single] at whole ⊢
      cases point : codeUnit first.toNat with
      | surrogate code =>
          rw [point] at whole
          cases whole
      | scalar character =>
          rw [point] at whole
          rw [scalars_scalar, List.flatMap_cons, unitsOf_small point,
            inductionHypothesis whole]
          rfl

/-! ## Keys -/

/-- Both languages admit the same names of members. -/
theorem keyOutside_eq_false {name : Units} :
    (stringOutsideCanonicalProfile host name = false ∧
        keyOutsideCanonicalProfile host name = false) ↔
      (codePoints name).any isSurrogate = false ∧
        CanonicalKey (textOf name) ∧
        ∃ encoded, encodeString host (textOf name) = .ok encoded := by
  have valid : (keyOutsideCanonicalProfile host name = false) ↔
      validatedKey name = .ok () ∧
        stringOutsideCanonicalProfile host name = false := by
    simp only [keyOutsideCanonicalProfile, Bool.or_eq_false_iff,
      decide_eq_false_iff_not, Nat.not_lt, Bool.not_eq_false', validatedKey,
      bind_eq_ok, ensure_eq_ok, exists_const]
  rw [valid, stringOutside_eq_false, validatedKey_ok]
  constructor
  · rintro ⟨⟨whole, encoded⟩, ⟨text, canonical, rfl⟩, _⟩
    have same : textOf (asciiUnits text) = text :=
      keyText_asciiUnits canonical
    rw [same] at encoded ⊢
    exact ⟨whole, canonical, encoded⟩
  · rintro ⟨whole, canonical, encoded⟩
    have units := utf16_textOf name whole
    have points := codePoints_utf16 (textOf name)
    rw [units] at points
    exact ⟨⟨whole, encoded⟩, ⟨textOf name, canonical,
      (codePoints_eq_iff canonical.ascii).1 points⟩, whole, encoded⟩

/-! ## Values -/

mutual

/-- Python's value of a JSON value inside the profile. -/
def pythonValue : Json → Value
  | .null => .null
  | .bool value => .bool value
  | .integer negative magnitude => .int (signed negative magnitude)
  | .real _ => .float ""
  | .text units => .text (textOf units)
  | .array items => .array (pythonItems items)
  | .object members => .object (pythonMembers members)

def pythonItems : List Json → List Value
  | [] => []
  | item :: rest => pythonValue item :: pythonItems rest

def pythonMembers : Json.Members → Value.Members
  | [] => []
  | (name, value) :: rest =>
      (textOf name, pythonValue value) :: pythonMembers rest

end

/-- `canonical_bytes` returns. -/
def Encodes (host : Host) (value : Value) : Prop :=
  ∃ text, encode host value = .ok text

theorem not_encodes_float {repr : String} :
    ¬Encodes host (.float repr) := by
  rintro ⟨text, encoded⟩
  cases encoded

/-! ## Numerals -/

theorem nonzero_digit {digit : Char} (isDigit : isDigit digit = true)
    (nonzero : digit ≠ '0') : 1 ≤ digit.toNat - '0'.toNat := by
  simp only [Canonical.isDigit, Bool.and_eq_true, decide_eq_true_eq,
    Char.le_def, UInt32.le_iff_toNat_le] at isDigit
  have other : digit.toNat ≠ '0'.toNat := fun same =>
    nonzero (Char.toNat_inj.1 same)
  have above : '0'.toNat ≤ digit.toNat := isDigit.1
  omega

theorem length_of_power {digits : List Char} {first : Char}
    (small : 10 ^ digits.length ≤ maxSafeNumber) :
    (first :: digits).length ≤ maxIntegerDigits := by
  have short : digits.length < 16 := by
    by_contra long
    have power := Nat.pow_le_pow_right (by decide : 0 < 10)
      (Nat.le_of_not_lt long)
    exact absurd (power.trans small) (by decide)
  rw [List.length_cons, maxIntegerDigits]
  omega

/-- The digits of a small numeral are few, as it has no zero in front. -/
theorem integerDigits_length {characters : List Char}
    (small :
      Nat.ofDigitChars 10 (integerDigits characters).1 0 ≤ maxSafeNumber) :
    (integerDigits characters).1.length ≤ maxIntegerDigits := by
  unfold integerDigits at small ⊢
  split
  · exact (by decide : 1 ≤ maxIntegerDigits)
  · rename_i noZero
    split at small
    · rename_i rest
      exact (noZero rest rfl).elim
    · cases characters with
      | nil => exact Nat.zero_le _
      | cons first rest =>
          rw [List.takeWhile_cons] at small ⊢
          split
          · rename_i digit
            rw [if_pos digit, Nat.ofDigitChars_cons,
              Nat.ofDigitChars_eq_ofDigitChars_zero] at small
            have positive := nonzero_digit digit fun same =>
              noZero rest (congrArg (· :: rest) same)
            have power := Nat.mul_le_mul_left
              (10 ^ (rest.takeWhile isDigit).length) positive
            rw [Nat.mul_zero, Nat.zero_add] at small
            exact length_of_power (by omega)
          · exact Nat.zero_le _

theorem encodes_int {value : Int} :
    Encodes host (.int value) ↔ value.natAbs ≤ maxSafeNumber := by
  unfold Encodes
  rw [encode, encodeInteger]
  split
  · rename_i large
    refine iff_of_false (fun ⟨_, same⟩ => by cases same) ?_
    unfold maxSafeInteger at large
    unfold maxSafeNumber
    omega
  · rename_i small
    refine iff_of_true ⟨_, rfl⟩ ?_
    unfold maxSafeInteger at small
    unfold maxSafeNumber
    omega

theorem readNumeral_parsed {negative : Bool} {characters rest : List Char}
    {value : Value} {paired : Bool}
    (read : readNumeral negative characters = .ok ⟨value, paired, rest⟩)
    (encodes : Encodes host value) :
    ∃ tree, parseNumeral number negative characters = some (tree, rest) ∧
      outsideProfile host tree = false ∧ value = pythonValue tree := by
  simp only [readNumeral, bind_eq_ok, ensure_eq_ok, exists_const] at read
  rcases read with ⟨digits, read⟩
  split at read
  · rename_i bare
    simp only [bind_eq_ok, ensure_eq_ok, exists_const, pure_eq_ok,
      Read.mk.injEq] at read
    rcases read with ⟨_, rfl, _, rfl⟩
    refine ⟨.integer negative
      (Nat.ofDigitChars 10 (integerDigits characters).1 0), ?_, ?_, rfl⟩
    · unfold parseNumeral
      dsimp only
      rw [if_neg digits, if_pos bare]
    · have bounded := encodes_int.1 encodes
      rw [outsideProfile, decide_eq_false_iff_not, Nat.not_lt]
      rw [← signed_natAbs negative
        (Nat.ofDigitChars 10 (integerDigits characters).1 0)]
      exact bounded
  · rw [pure_eq_ok] at read
    cases read
    exact absurd encodes not_encodes_float

theorem readNumeral_of_parsed {negative : Bool} {characters rest : List Char}
    {tree : Json}
    (parsed : parseNumeral number negative characters = some (tree, rest))
    (inside : outsideProfile host tree = false) :
    readNumeral negative characters = .ok ⟨pythonValue tree, true, rest⟩ := by
  unfold parseNumeral at parsed
  dsimp only at parsed
  split at parsed
  · cases parsed
  · rename_i digits
    split at parsed
    · rename_i bare
      cases parsed
      rw [outsideProfile, decide_eq_false_iff_not, Nat.not_lt] at inside
      have short := integerDigits_length inside
      simp only [readNumeral, bind_eq_ok, ensure_eq_ok, exists_const]
      refine ⟨digits, ?_⟩
      rw [if_pos bare]
      simp only [bind_eq_ok, ensure_eq_ok, exists_const, pure_eq_ok]
      exact ⟨short, rfl⟩
    · cases parsed
      cases inside

theorem readPlain_parsed {characters rest : List Char} {value : Value}
    {paired : Bool}
    (read : readPlain characters = .ok ⟨value, paired, rest⟩)
    (encodes : Encodes host value) :
    ∃ tree, parsePlain number characters = some (tree, rest) ∧
      outsideProfile host tree = false ∧ value = pythonValue tree := by
  unfold readPlain at read
  split at read
  · cases read
    exact ⟨.null, rfl, rfl, rfl⟩
  · cases read
    exact ⟨.bool true, rfl, rfl, rfl⟩
  · cases read
    exact ⟨.bool false, rfl, rfl, rfl⟩
  · cases read
    exact absurd encodes not_encodes_float
  · cases read
    exact absurd encodes not_encodes_float
  · cases read
    exact absurd encodes not_encodes_float
  · exact readNumeral_parsed read encodes
  · rename_i noNull noTrue noFalse noNaN noInfinity noNegative noMinus
    rcases readNumeral_parsed read encodes with ⟨tree, parsed, rest⟩
    refine ⟨tree, ?_, rest⟩
    rw [← parsed]
    unfold parsePlain
    split
    · exact (noNull _ rfl).elim
    · exact (noTrue _ rfl).elim
    · exact (noFalse _ rfl).elim
    · exact (noMinus _ rfl).elim
    · rfl

theorem readPlain_of_parsed {characters rest : List Char} {tree : Json}
    (parsed : parsePlain number characters = some (tree, rest))
    (inside : outsideProfile host tree = false) :
    readPlain characters = .ok ⟨pythonValue tree, true, rest⟩ := by
  unfold parsePlain at parsed
  split at parsed
  · cases parsed
    rfl
  · cases parsed
    rfl
  · cases parsed
    rfl
  · rename_i later
    rw [← readNumeral_of_parsed parsed inside]
    unfold readPlain
    split
    · rename_i same
      cases same
    · rename_i same
      cases same
    · rename_i same
      cases same
    · rename_i same
      cases same
    · rename_i same
      cases same
    · rename_i same
      cases same
      cases parsed
    · rename_i same
      cases same
      rfl
    · rename_i noMinus
      exact (noMinus _ rfl).elim
  · rename_i noNull noTrue noFalse noMinus
    rw [← readNumeral_of_parsed parsed inside]
    unfold readPlain
    split
    · exact (noNull _ rfl).elim
    · exact (noTrue _ rfl).elim
    · exact (noFalse _ rfl).elim
    · cases parsed
    · cases parsed
    · exact (noMinus _ rfl).elim
    · exact (noMinus _ rfl).elim
    · rfl

/-! ## Arrays and objects in the profile -/

/-- A validator that accepts every item accepts the list. -/
theorem mapM_ok_of_forall {ε α β : Type} {validate : α → Except ε β}
    {items : List α}
    (each : ∀ item ∈ items, ∃ result, validate item = .ok result) :
    ∃ results, items.mapM validate = .ok results := by
  induction items with
  | nil => exact ⟨[], rfl⟩
  | cons first rest inductionHypothesis =>
      rcases List.forall_mem_cons.1 each with ⟨⟨result, accepted⟩, later⟩
      rcases inductionHypothesis later with ⟨results, others⟩
      refine ⟨result :: results, ?_⟩
      rw [List.mapM_cons, accepted, others]
      rfl

/-- The encoder accepts a member. -/
def EncodesMember (host : Host) (member : String × Value) : Prop :=
  CanonicalKey member.1 ∧
    (∃ name, encodeString host member.1 = .ok name) ∧
    Encodes host member.2

theorem encodesItems_iff {items : List Value} :
    (∃ parts, encodeItems host items = .ok parts) ↔
      ∀ item ∈ items, Encodes host item := by
  induction items with
  | nil => exact iff_of_true ⟨_, rfl⟩ nofun
  | cons first rest inductionHypothesis =>
      rw [List.forall_mem_cons, ← inductionHypothesis]
      simp only [encodeItems, bind_eq_ok, pure_eq_ok]
      constructor
      · rintro ⟨_, part, encoded, parts, others, _⟩
        exact ⟨⟨part, encoded⟩, parts, others⟩
      · rintro ⟨⟨part, encoded⟩, parts, others⟩
        exact ⟨_, part, encoded, parts, others, rfl⟩

theorem encodes_array {items : List Value} :
    Encodes host (.array items) ↔ ∀ item ∈ items, Encodes host item := by
  rw [← encodesItems_iff]
  simp only [Encodes, encode, bind_eq_ok, pure_eq_ok]
  constructor
  · rintro ⟨_, parts, encoded, _⟩
    exact ⟨parts, encoded⟩
  · rintro ⟨parts, encoded⟩
    exact ⟨_, parts, encoded, rfl⟩

theorem encodes_object {members : Value.Members} :
    Encodes host (.object members) ↔
      ∀ member ∈ members, EncodesMember host member := by
  simp only [Encodes, encode, encodeSorted, bind_eq_ok, pure_eq_ok]
  constructor
  · rintro ⟨_, keys, formed, parts, joined, _⟩ member among
    have listed : (member.1, encode host member.2) ∈
        encodeMembers host members := mem_encodeMembers among
    have sorted :=
      (List.mem_insertionSort fun left right => left.1 ≤ right.1).2 listed
    rcases mapM_ok_of_mem formed listed with ⟨key, canonical⟩
    rcases mapM_ok_of_mem joined sorted with ⟨part, encoded⟩
    simp only [bind_eq_ok] at encoded
    rcases encoded with ⟨name, named, item, held, _⟩
    exact ⟨canonicalKey_isOk.1 (isOk_eq_true.2 ⟨key, canonical⟩),
      ⟨name, named⟩, item, held⟩
  · intro each
    have keyed : ∃ keys,
        (encodeMembers host members).mapM
          (fun member => canonicalKey member.1) = .ok keys := by
      refine mapM_ok_of_forall fun member among => ?_
      rw [encodeMembers_eq_map] at among
      rcases List.mem_map.1 among with ⟨held, listed, rfl⟩
      exact isOk_eq_true.1 (canonicalKey_isOk.2 (each held listed).1)
    rcases keyed with ⟨keys, formed⟩
    have joined : ∃ parts,
        ((encodeMembers host members).insertionSort
          fun left right => left.1 ≤ right.1).mapM (fun member => (do
            let name ← encodeString host member.1
            let item ← member.2
            pure (name ++ [':'] ++ item) : Except Refusal (List Char))) =
          .ok parts := by
      refine mapM_ok_of_forall fun member among => ?_
      rw [List.mem_insertionSort, encodeMembers_eq_map] at among
      rcases List.mem_map.1 among with ⟨held, listed, rfl⟩
      rcases each held listed with ⟨_, ⟨name, named⟩, item, encoded⟩
      simp only [bind_eq_ok, pure_eq_ok]
      exact ⟨_, name, named, item, encoded, rfl⟩
    rcases joined with ⟨parts, joined⟩
    exact ⟨_, keys, formed, parts, joined, rfl⟩

theorem itemsOutside_eq_false {items : List Json} :
    itemsOutside host items = false ↔
      ∀ item ∈ items, outsideProfile host item = false := by
  induction items with
  | nil => exact iff_of_true rfl nofun
  | cons first rest inductionHypothesis =>
      rw [itemsOutside, Bool.or_eq_false_iff, inductionHypothesis,
        List.forall_mem_cons]

/-- A member is inside the profile, whatever else the object has. -/
def MemberInside (host : Host) (member : Units × Json) : Prop :=
  stringOutsideCanonicalProfile host member.1 = false ∧
    keyOutsideCanonicalProfile host member.1 = false ∧
    outsideProfile host member.2 = false

theorem membersOutside_eq_false {members : Json.Members} {seen : List Units} :
    membersOutside host seen members = false ↔
      (∀ member ∈ members, MemberInside host member) ∧
        (members.map Prod.fst).Nodup ∧
        ∀ name ∈ members.map Prod.fst, name ∉ seen := by
  induction members generalizing seen with
  | nil => exact iff_of_true rfl ⟨nofun, List.nodup_nil, nofun⟩
  | cons first rest inductionHypothesis =>
      simp only [membersOutside, Bool.or_eq_false_iff,
        decide_eq_false_iff_not, inductionHypothesis, List.forall_mem_cons,
        List.map_cons, List.nodup_cons, MemberInside]
      constructor
      · rintro ⟨⟨text, key, fresh⟩, value, each, distinct, apart⟩
        refine ⟨⟨⟨text, key, value⟩, each⟩, ⟨fun again => ?_, distinct⟩, fresh,
          fun name listed known =>
            apart name listed (List.mem_cons_of_mem _ known)⟩
        exact apart first.1 again List.mem_cons_self
      · rintro ⟨⟨⟨text, key, value⟩, each⟩, ⟨single, distinct⟩, fresh, apart⟩
        refine ⟨⟨text, key, fresh⟩, value, each, distinct,
          fun name listed known => ?_⟩
        rcases List.mem_cons.1 known with rfl | earlier
        · exact single listed
        · exact apart name listed earlier

/-- The texts of canonical names differ when the names do. -/
theorem nodup_pythonMembers {members : Json.Members}
    (whole : ∀ member ∈ members,
      (codePoints member.1).any isSurrogate = false) :
    (Value.keys (pythonMembers members)).Nodup ↔
      (members.map Prod.fst).Nodup := by
  have keys : Value.keys (pythonMembers members) =
      (members.map Prod.fst).map textOf := by
    clear whole
    induction members with
    | nil => rfl
    | cons first rest inductionHypothesis =>
        rw [pythonMembers, List.map_cons, List.map_cons,
          ← inductionHypothesis]
        rfl
  rw [keys]
  refine ⟨fun distinct => distinct.of_map textOf, fun distinct =>
    distinct.map_on ?_⟩
  intro left first right second same
  rcases List.mem_map.1 first with ⟨one, oneListed, rfl⟩
  rcases List.mem_map.1 second with ⟨two, twoListed, rfl⟩
  rw [← utf16_textOf one.1 (whole one oneListed), same,
    utf16_textOf two.1 (whole two twoListed)]

/-! ## Python's value of a JSON value -/

theorem MemberInside.whole {member : Units × Json}
    (inside : MemberInside host member) :
    (codePoints member.1).any isSurrogate = false :=
  (stringOutside_eq_false.1 inside.1).1

mutual

/-- What is inside the profile is encoded. -/
theorem encodes_pythonValue : ∀ tree, outsideProfile host tree = false →
    Encodes host (pythonValue tree)
  | .null, _ => ⟨_, rfl⟩
  | .bool true, _ => ⟨_, rfl⟩
  | .bool false, _ => ⟨_, rfl⟩
  | .integer negative magnitude, inside => by
      rw [outsideProfile, decide_eq_false_iff_not, Nat.not_lt] at inside
      rw [pythonValue, encodes_int, signed_natAbs]
      exact inside
  | .real _, inside => by cases inside
  | .text units, inside => by
      rw [outsideProfile, stringOutside_eq_false] at inside
      exact inside.2
  | .array items, inside => by
      rw [pythonValue, encodes_array]
      exact encodes_pythonItems items inside
  | .object members, inside => by
      rw [outsideProfile, membersOutside_eq_false] at inside
      rw [pythonValue, encodes_object]
      exact encodes_pythonMembers members inside.1

theorem encodes_pythonItems : ∀ items, itemsOutside host items = false →
    ∀ item ∈ pythonItems items, Encodes host item
  | [], _, _, listed => by cases listed
  | first :: rest, inside, item, listed => by
      rw [itemsOutside, Bool.or_eq_false_iff] at inside
      rcases List.mem_cons.1 listed with rfl | later
      · exact encodes_pythonValue first inside.1
      · exact encodes_pythonItems rest inside.2 item later

theorem encodes_pythonMembers : ∀ members : Json.Members,
    (∀ member ∈ members, MemberInside host member) →
      ∀ member ∈ pythonMembers members, EncodesMember host member
  | [], _, _, listed => by cases listed
  | (name, value) :: rest, inside, member, listed => by
      rcases List.forall_mem_cons.1 inside with ⟨here, others⟩
      rcases List.mem_cons.1 listed with rfl | later
      · have key := keyOutside_eq_false.1 ⟨here.1, here.2.1⟩
        exact ⟨key.2.1, key.2.2, encodes_pythonValue value here.2.2⟩
      · exact encodes_pythonMembers rest others member later

end

/-- Members that are inside one by one are inside in an object that repeats
none. -/
theorem object_inside {members : Json.Members}
    (inside : ∀ member ∈ members, MemberInside host member) :
    outsideProfile host (.object members) = false ↔
      (Value.keys (pythonMembers members)).Nodup := by
  rw [nodup_pythonMembers fun member listed => (inside member listed).whole,
    outsideProfile, membersOutside_eq_false]
  exact ⟨fun held => held.2.1, fun distinct => ⟨inside, distinct, nofun⟩⟩

/-! ## The two readers -/

mutual

/-- What Python reads into its profile, the browser reads and finds inside. -/
theorem parseValue_of_read : ∀ (fuel : Nat) {characters rest : List Char}
    {value : Value}, readValue fuel characters = .ok ⟨value, true, rest⟩ →
      Encodes host value →
      ∃ tree, parseValue number fuel characters = some (tree, rest) ∧
        outsideProfile host tree = false ∧ value = pythonValue tree
  | 0, _, _, _, read, _ => by cases read
  | _ + 1, [], _, _, read, _ => by cases read
  | fuel + 1, first :: others, rest, value, read, encodes => by
      rw [readValue] at read
      split at read
      · rename_i quote
        simp only [bind_eq_ok, pure_eq_ok, Read.mk.injEq] at read
        rcases read with ⟨⟨text, paired, later⟩, literal, rfl, same, rfl⟩
        dsimp only at same
        subst same
        rcases readString_eq_ok.1 literal with ⟨points, units, whole, spelled⟩
        refine ⟨.text (literalUnits points), ?_, ?_, ?_⟩
        · rw [parseValue, if_pos quote, units]
          rfl
        · rw [outsideProfile, stringOutside_eq_false, ← spelled]
          exact ⟨whole, encodes⟩
        · rw [pythonValue, ← spelled]
      rename_i noQuote
      split at read
      · rename_i bracket
        split at read
        · rename_i later closes
          cases read
          refine ⟨.array [], ?_, rfl, rfl⟩
          rw [parseValue, if_neg noQuote, if_pos bracket, closes]
          rfl
        · rename_i opened
          simp only [bind_eq_ok, pure_eq_ok, Read.mk.injEq] at read
          rcases read with ⟨⟨items, paired, later⟩, listed, rfl, same, rfl⟩
          dsimp only at same
          subst same
          rcases parseItems_of_read fuel listed (encodes_array.1 encodes) with
            ⟨trees, parsed, inside, rfl⟩
          refine ⟨.array trees, ?_, inside, rfl⟩
          rw [parseValue, if_neg noQuote, if_pos bracket]
          split
          · rename_i closes
            exact (opened _ closes).elim
          · rw [parsed]
            rfl
      rename_i noBracket
      split at read
      · rename_i brace
        split at read
        · rename_i later closes
          cases read
          refine ⟨.object [], ?_, rfl, rfl⟩
          rw [parseValue, if_neg noQuote, if_neg noBracket, if_pos brace,
            closes]
          rfl
        · rename_i opened
          simp only [bind_eq_ok, ensure_eq_ok, exists_const, pure_eq_ok,
            Read.mk.injEq] at read
          rcases read with
            ⟨⟨members, paired, later⟩, listed, distinct, rfl, same, rfl⟩
          dsimp only at same distinct
          subst same
          rcases parseMembers_of_read fuel listed
            (encodes_object.1 encodes) with ⟨trees, parsed, inside, rfl⟩
          refine ⟨.object trees, ?_, (object_inside inside).2 distinct, rfl⟩
          rw [parseValue, if_neg noQuote, if_neg noBracket, if_pos brace]
          split
          · rename_i closes
            exact (opened _ closes).elim
          · rw [parsed]
            rfl
      · rename_i noBrace
        rw [parseValue, if_neg noQuote, if_neg noBracket, if_neg noBrace]
        exact readPlain_parsed read encodes

theorem parseItems_of_read : ∀ (fuel : Nat) {characters rest : List Char}
    {items : List Value}, readItems fuel characters = .ok ⟨items, true, rest⟩ →
      (∀ item ∈ items, Encodes host item) →
      ∃ trees, parseItems number fuel characters = some (trees, rest) ∧
        itemsOutside host trees = false ∧ items = pythonItems trees
  | 0, _, _, _, read, _ => by cases read
  | fuel + 1, characters, rest, items, read, encodes => by
      simp only [readItems, bind_eq_ok] at read
      rcases read with ⟨⟨item, itemPaired, after⟩, first, read⟩
      dsimp only at read
      rw [parseItems]
      split at read
      · rename_i later closes
        cases read
        rcases parseValue_of_read fuel first
          (encodes item List.mem_cons_self) with ⟨tree, parsed, inside, rfl⟩
        refine ⟨[tree], ?_, ?_, rfl⟩
        · rw [parsed]
          dsimp only [Option.bind_eq_bind, Option.bind_some]
          rw [closes]
          rfl
        · rw [itemsOutside, inside]
          rfl
      · rename_i later comma
        simp only [bind_eq_ok, pure_eq_ok, Read.mk.injEq,
          Bool.and_eq_true] at read
        rcases read with ⟨⟨others, paired, final⟩, listed, rfl, both, rfl⟩
        dsimp only at both
        rcases both with ⟨rfl, rfl⟩
        rcases List.forall_mem_cons.1 encodes with ⟨here, rest⟩
        rcases parseValue_of_read fuel first here with
          ⟨tree, parsed, inside, rfl⟩
        rcases parseItems_of_read fuel listed rest with
          ⟨trees, more, allInside, rfl⟩
        refine ⟨tree :: trees, ?_, ?_, rfl⟩
        · rw [parsed]
          dsimp only [Option.bind_eq_bind, Option.bind_some]
          rw [comma]
          change (do
            let (others, final) ← parseItems number fuel (skipSpace later)
            some (tree :: others, final)) = _
          rw [more]
          rfl
        · rw [itemsOutside, inside, allInside]
          rfl
      · cases read

theorem parseMembers_of_read : ∀ (fuel : Nat) {characters rest : List Char}
    {members : Value.Members},
    readMembers fuel characters = .ok ⟨members, true, rest⟩ →
      (∀ member ∈ members, EncodesMember host member) →
      ∃ trees, parseMembers number fuel characters = some (trees, rest) ∧
        (∀ member ∈ trees, MemberInside host member) ∧
        members = pythonMembers trees
  | 0, _, _, _, read, _ => by cases read
  | _ + 1, [], _, _, read, _ => by cases read
  | fuel + 1, first :: others, rest, members, read, encodes => by
      simp only [readMembers, bind_eq_ok, ensure_eq_ok, exists_const] at read
      rcases read with ⟨quote, ⟨key, keyPaired, after⟩, literal, read⟩
      dsimp only at read
      rw [parseMembers, if_pos quote]
      split at read
      · rename_i later colon
        simp only [bind_eq_ok] at read
        rcases read with ⟨⟨item, itemPaired, follows⟩, valued, read⟩
        dsimp only at read
        have parts (paired : keyPaired = true) (valuePaired : itemPaired = true)
            (here : EncodesMember host (key, item)) :
            ∃ points tree, readUnits others = some (points, after) ∧
              parseValue number fuel (skipSpace later) =
                some (tree, follows) ∧
              MemberInside host (literalUnits points, tree) ∧
              key = textOf (literalUnits points) ∧
              item = pythonValue tree := by
          subst paired valuePaired
          rcases readString_eq_ok.1 literal with
            ⟨points, units, whole, spelled⟩
          rcases parseValue_of_read fuel valued here.2.2 with
            ⟨tree, parsed, inside, made⟩
          have name := keyOutside_eq_false.2
            ⟨whole, spelled ▸ here.1, spelled ▸ here.2.1⟩
          exact ⟨points, tree, units, parsed, ⟨name.1, name.2, inside⟩,
            spelled, made⟩
        split at read
        · rename_i final closes
          simp only [pure_eq_ok, Read.mk.injEq, Bool.and_eq_true] at read
          rcases read with ⟨rfl, both, rfl⟩
          rcases parts both.1 both.2 (encodes _ List.mem_cons_self) with
            ⟨points, tree, units, parsed, inside, rfl, rfl⟩
          refine ⟨[(literalUnits points, tree)], ?_, ?_, rfl⟩
          · rw [units]
            dsimp only [Option.bind_eq_bind, Option.bind_some]
            rw [colon]
            simp only [parsed, Option.bind_some]
            rw [closes]
            rfl
          · intro member listed
            rw [List.mem_singleton.1 listed]
            exact inside
        · rename_i final comma
          simp only [bind_eq_ok, pure_eq_ok, Read.mk.injEq,
            Bool.and_eq_true] at read
          rcases read with ⟨⟨more, paired, last⟩, listed, rfl, both, rfl⟩
          dsimp only at both
          rcases both with ⟨both, rfl⟩
          rcases List.forall_mem_cons.1 encodes with ⟨here, rest⟩
          rcases parts both.1 both.2 here with
            ⟨points, tree, units, parsed, inside, rfl, rfl⟩
          rcases parseMembers_of_read fuel listed rest with
            ⟨trees, moreParsed, allInside, rfl⟩
          refine ⟨(literalUnits points, tree) :: trees, ?_,
            List.forall_mem_cons.2 ⟨inside, allInside⟩, rfl⟩
          rw [units]
          dsimp only [Option.bind_eq_bind, Option.bind_some]
          rw [colon]
          simp only [parsed, Option.bind_some]
          rw [comma]
          simp only [moreParsed, Option.bind_some]
        · cases read
      · cases read

end

/-- Both readers read a string inside the profile. -/
theorem readString_of_units {characters rest : List Char}
    {points : List CodeUnit}
    (units : readUnits characters = some (points, rest))
    (inside :
      stringOutsideCanonicalProfile host (literalUnits points) = false) :
    readString characters =
      .ok ⟨textOf (literalUnits points), true, rest⟩ :=
  readString_eq_ok.2
    ⟨points, units, (stringOutside_eq_false.1 inside).1, rfl⟩

mutual

/-- What the browser finds inside the profile, Python reads. -/
theorem readValue_of_parse : ∀ (fuel : Nat) {characters rest : List Char}
    {tree : Json}, parseValue number fuel characters = some (tree, rest) →
      outsideProfile host tree = false →
      readValue fuel characters = .ok ⟨pythonValue tree, true, rest⟩
  | 0, _, _, _, parsed, _ => by cases parsed
  | _ + 1, [], _, _, parsed, _ => by cases parsed
  | fuel + 1, first :: others, rest, tree, parsed, inside => by
      rw [parseValue] at parsed
      split at parsed
      · rename_i quote
        simp only [Option.bind_eq_bind, Option.bind_eq_some_iff] at parsed
        rcases parsed with ⟨⟨points, later⟩, units, same⟩
        cases same
        rw [readValue, if_pos quote, readString_of_units units inside]
        rfl
      rename_i noQuote
      split at parsed
      · rename_i bracket
        split at parsed
        · rename_i later closes
          cases parsed
          rw [readValue, if_neg noQuote, if_pos bracket, closes]
          rfl
        · rename_i opened
          simp only [Option.bind_eq_bind, Option.bind_eq_some_iff] at parsed
          rcases parsed with ⟨⟨trees, later⟩, listed, same⟩
          cases same
          rw [readValue, if_neg noQuote, if_pos bracket]
          split
          · rename_i closes
            exact (opened _ closes).elim
          · rw [readItems_of_parse fuel listed inside]
            rfl
      rename_i noBracket
      split at parsed
      · rename_i brace
        split at parsed
        · rename_i later closes
          cases parsed
          rw [readValue, if_neg noQuote, if_neg noBracket, if_pos brace,
            closes]
          rfl
        · rename_i opened
          simp only [Option.bind_eq_bind, Option.bind_eq_some_iff] at parsed
          rcases parsed with ⟨⟨trees, later⟩, listed, same⟩
          cases same
          have each := membersOutside_eq_false.1 inside
          rw [readValue, if_neg noQuote, if_neg noBracket, if_pos brace]
          split
          · rename_i closes
            exact (opened _ closes).elim
          · have distinct := (object_inside each.1).1 inside
            rw [readMembers_of_parse fuel listed each.1]
            simp only [bind_eq_ok, ensure_eq_ok, exists_const, pure_eq_ok,
              Except.ok.injEq, exists_eq_left']
            exact ⟨distinct, rfl⟩
      · rename_i noBrace
        rw [readValue, if_neg noQuote, if_neg noBracket, if_neg noBrace]
        exact readPlain_of_parsed parsed inside

theorem readItems_of_parse : ∀ (fuel : Nat) {characters rest : List Char}
    {trees : List Json},
    parseItems number fuel characters = some (trees, rest) →
      itemsOutside host trees = false →
      readItems fuel characters = .ok ⟨pythonItems trees, true, rest⟩
  | 0, _, _, _, parsed, _ => by cases parsed
  | fuel + 1, characters, rest, trees, parsed, inside => by
      simp only [parseItems, Option.bind_eq_bind,
        Option.bind_eq_some_iff] at parsed
      rcases parsed with ⟨⟨tree, after⟩, first, parsed⟩
      dsimp only at parsed
      rw [readItems]
      split at parsed
      · rename_i later closes
        cases parsed
        rw [itemsOutside, itemsOutside, Bool.or_false] at inside
        rw [readValue_of_parse fuel first inside]
        simp only [bind, Except.bind]
        rw [closes]
        rfl
      · rename_i later comma
        simp only [Option.bind_eq_some_iff] at parsed
        rcases parsed with ⟨⟨others, final⟩, listed, same⟩
        cases same
        rw [itemsOutside, Bool.or_eq_false_iff] at inside
        rw [readValue_of_parse fuel first inside.1]
        simp only [bind, Except.bind]
        rw [comma]
        simp only [readItems_of_parse fuel listed inside.2]
        rfl
      · cases parsed

theorem readMembers_of_parse : ∀ (fuel : Nat) {characters rest : List Char}
    {trees : Json.Members},
    parseMembers number fuel characters = some (trees, rest) →
      (∀ member ∈ trees, MemberInside host member) →
      readMembers fuel characters = .ok ⟨pythonMembers trees, true, rest⟩
  | 0, _, _, _, parsed, _ => by cases parsed
  | _ + 1, [], _, _, parsed, _ => by cases parsed
  | fuel + 1, first :: others, rest, trees, parsed, inside => by
      rw [parseMembers] at parsed
      rw [readMembers]
      split at parsed
      · rename_i quote
        simp only [Option.bind_eq_bind, Option.bind_eq_some_iff] at parsed
        rcases parsed with ⟨⟨points, after⟩, units, parsed⟩
        dsimp only at parsed
        split at parsed
        · rename_i later colon
          simp only [Option.bind_eq_some_iff] at parsed
          rcases parsed with ⟨⟨tree, follows⟩, valued, parsed⟩
          dsimp only at parsed
          split at parsed
          · rename_i final closes
            cases parsed
            have here := inside _ List.mem_cons_self
            rw [ensure_of quote, readString_of_units units here.1]
            simp only [bind, Except.bind]
            rw [colon]
            simp only [readValue_of_parse fuel valued here.2.2]
            rw [closes]
            rfl
          · rename_i final comma
            simp only [Option.bind_eq_some_iff] at parsed
            rcases parsed with ⟨⟨more, last⟩, listed, same⟩
            cases same
            rcases List.forall_mem_cons.1 inside with ⟨here, allInside⟩
            rw [ensure_of quote, readString_of_units units here.1]
            simp only [bind, Except.bind]
            rw [colon]
            simp only [readValue_of_parse fuel valued here.2.2]
            rw [comma]
            simp only [readMembers_of_parse fuel listed allInside]
            rfl
          · cases parsed
        · cases parsed
      · cases parsed

end

/-! ## The decoders -/

/-- Python loads a text into its profile when the browser parses it into its
own. -/
theorem loads_iff {text : List Char} {value : Value} :
    (loads text = .ok value ∧ Encodes host value) ↔
      ∃ tree, jsonParse number text = some tree ∧
        outsideProfile host tree = false ∧ value = pythonValue tree := by
  simp only [loads, jsonParse, bind_eq_ok, ensure_eq_ok, exists_const,
    pure_eq_ok, Option.bind_eq_bind, Option.bind_eq_some_iff]
  constructor
  · rintro ⟨⟨⟨found, paired, rest⟩, read, ends, whole, rfl⟩, encodes⟩
    dsimp only at ends whole encodes
    subst whole
    rcases parseValue_of_read _ read encodes with ⟨tree, parsed, inside, rfl⟩
    exact ⟨tree, ⟨_, parsed, if_pos ends⟩, inside, rfl⟩
  · rintro ⟨tree, ⟨⟨found, rest⟩, parsed, ends⟩, inside, rfl⟩
    dsimp only at ends
    split at ends
    · rename_i finished
      cases ends
      have read := readValue_of_parse _ parsed inside
      exact ⟨⟨_, read, finished, rfl, rfl⟩, encodes_pythonValue tree inside⟩
    · cases ends

theorem decodeText_eq_ok {stack : List Char → Bool} {text : List Char}
    {value : Value} :
    decodeText host stack text = .ok value ↔
      stack text = true ∧ loads text = .ok value ∧ Encodes host value := by
  unfold decodeText
  split
  · rename_i holds
    simp only [holds, true_and]
    cases loaded : loads text with
    | error failure => cases failure <;> simp
    | ok found =>
        have bytes : (∃ octets, canonicalBytes host found = .ok octets) ↔
            Encodes host found := by
          simp only [canonicalBytes, Encodes, bind_eq_ok, pure_eq_ok]
          constructor
          · rintro ⟨_, text, encoded, _⟩
            exact ⟨text, encoded⟩
          · rintro ⟨text, encoded⟩
            exact ⟨_, text, encoded, rfl⟩
        dsimp only
        cases canonical : canonicalBytes host found with
        | error refusal =>
            refine iff_of_false (by simp) ?_
            rintro ⟨same, encodes⟩
            cases same
            rcases bytes.2 encodes with ⟨octets, accepted⟩
            rw [canonical] at accepted
            cases accepted
        | ok octets =>
            dsimp only
            constructor
            · intro same
              cases same
              exact ⟨rfl, bytes.1 ⟨octets, canonical⟩⟩
            · rintro ⟨same, _⟩
              cases same
              rfl
  · rename_i exhausted
    exact iff_of_false (by simp) fun held => exhausted held.1

/-! ## The values -/

theorem setProperty_absent {name : Units} {value : ScriptValue}
    {properties : Properties} (absent : name ∉ properties.map Prod.fst) :
    setProperty name value properties = properties ++ [(name, value)] := by
  induction properties with
  | nil => rfl
  | cons first rest inductionHypothesis =>
      rw [List.map_cons, List.mem_cons, not_or] at absent
      rw [setProperty, if_neg (Ne.symm absent.1),
        inductionHypothesis absent.2]
      rfl

/-- Members of different names are the properties of their object. -/
theorem fromEntries_distinct {members : Properties}
    (distinct : (members.map Prod.fst).Nodup) :
    fromEntries members = members := by
  have gathered : ∀ (later held : Properties),
      ((held ++ later).map Prod.fst).Nodup →
        later.foldl (fun properties member =>
          setProperty member.1 member.2 properties) held =
          held ++ later := by
    intro later
    induction later with
    | nil =>
        intro held _
        rw [List.append_nil]
        rfl
    | cons first rest inductionHypothesis =>
        intro held apart
        have absent : first.1 ∉ held.map Prod.fst := by
          rw [List.map_append, List.nodup_append] at apart
          exact fun listed =>
            apart.2.2 first.1 listed first.1 List.mem_cons_self rfl
        rw [List.foldl_cons, setProperty_absent absent,
          inductionHypothesis _ (by rwa [List.append_assoc]),
          List.append_assoc]
        rfl
  exact gathered members [] distinct

theorem names_evaluateMembers (members : Json.Members) :
    (evaluateMembers members).map Prod.fst = members.map Prod.fst := by
  induction members with
  | nil => rfl
  | cons first rest inductionHypothesis =>
      rw [evaluateMembers, List.map_cons, inductionHypothesis]
      rfl

mutual

/-- The two languages' values of a JSON value inside the profile are the
same. -/
theorem same_value : ∀ tree, outsideProfile host tree = false →
    Same (evaluate tree) (pythonValue tree)
  | .null, _ => trivial
  | .bool _, _ => rfl
  | .integer negative magnitude, inside => by
      rw [outsideProfile, decide_eq_false_iff_not, Nat.not_lt] at inside
      exact integer?_ofInteger (Nat.lt_of_le_of_lt inside (by decide))
  | .real _, inside => by cases inside
  | .text units, inside => by
      rw [outsideProfile, stringOutside_eq_false] at inside
      exact (utf16_textOf units inside.1).symm
  | .array items, inside => same_items items inside
  | .object members, inside => by
      rw [outsideProfile, membersOutside_eq_false] at inside
      rw [evaluate, pythonValue, Same,
        fromEntries_distinct
          (by rw [names_evaluateMembers]; exact inside.2.1)]
      exact same_members members inside.1

theorem same_items : ∀ items, itemsOutside host items = false →
    SameItems (evaluateItems items) (pythonItems items)
  | [], _ => trivial
  | first :: rest, inside => by
      rw [itemsOutside, Bool.or_eq_false_iff] at inside
      exact ⟨same_value first inside.1, same_items rest inside.2⟩

theorem same_members : ∀ members : Json.Members,
    (∀ member ∈ members, MemberInside host member) →
      SameMembers (evaluateMembers members) (pythonMembers members)
  | [], _ => trivial
  | (name, value) :: rest, inside => by
      rcases List.forall_mem_cons.1 inside with ⟨here, others⟩
      exact ⟨(utf16_textOf name here.whole).symm,
        same_value value here.2.2, same_members rest others⟩

end

/-! ## Deep nesting -/

/-- Arrays nested in one another around a text. -/
def nested : Nat → List Char → List Char
  | 0, rest => rest
  | depth + 1, rest => '[' :: nested depth (']' :: rest)

/-- The value of arrays nested in one another. -/
def nestedArrays : Nat → Json
  | 0 => .array []
  | depth + 1 => .array [nestedArrays depth]

/-- The interpreter's default limit, where each opening bracket is a call. -/
def defaultStack (text : List Char) : Bool :=
  decide (text.count '[' + text.count '{' ≤ 1000)

theorem nested_length (depth : Nat) (rest : List Char) :
    (nested depth rest).length = 2 * depth + rest.length := by
  induction depth generalizing rest with
  | zero => simp [nested]
  | succ depth inductionHypothesis =>
      rw [nested, List.length_cons, inductionHypothesis, List.length_cons]
      omega

theorem nested_count (depth : Nat) (rest : List Char) :
    (nested depth rest).count '[' = depth + rest.count '[' := by
  induction depth generalizing rest with
  | zero => simp [nested]
  | succ depth inductionHypothesis =>
      rw [nested, List.count_cons_self, inductionHypothesis,
        List.count_cons_of_ne (by decide)]
      omega

theorem parseValue_nested (depth : Nat) :
    ∀ (fuel : Nat) (rest : List Char), 2 * depth + 1 ≤ fuel →
      parseValue number fuel (nested (depth + 1) rest) =
        some (nestedArrays depth, rest) := by
  induction depth with
  | zero =>
      intro fuel rest enough
      cases fuel with
      | zero => exact absurd enough (by decide)
      | succ fuel => rfl
  | succ depth inductionHypothesis =>
      intro fuel rest enough
      rcases fuel with _ | _ | fuel
      · exact absurd enough (Nat.not_succ_le_zero _)
      · exact absurd enough (by omega)
      have inner := inductionHypothesis fuel (']' :: rest) (by omega)
      have items : parseItems number (fuel + 1)
          (nested (depth + 1) (']' :: rest)) =
            some ([nestedArrays depth], rest) := by
        rw [parseItems, inner]
        rfl
      change (do
        let (items, later) ← parseItems number (fuel + 1)
          (nested (depth + 1) (']' :: rest))
        some (Json.array items, later)) = _
      rw [items]
      rfl

theorem nestedArrays_inside (depth : Nat) :
    outsideProfile host (nestedArrays depth) = false := by
  induction depth with
  | zero => rfl
  | succ depth inductionHypothesis =>
      rw [nestedArrays, outsideProfile, itemsOutside, inductionHypothesis]
      rfl

/-- The browser accepts arrays nested to any depth. -/
theorem decoded_nested (depth : Nat) :
    decoded host number (nested (depth + 1) []) =
      .ok (evaluate (nestedArrays depth)) := by
  refine decoded_eq_ok.2 ⟨nestedArrays depth, ?_,
    nestedArrays_inside depth, rfl⟩
  have spaces : skipSpace (nested (depth + 1) []) = nested (depth + 1) [] :=
    rfl
  rw [jsonParse, spaces, parseValue_nested depth _ _
    (by rw [nested_length, List.length_nil]; omega)]
  rfl

/-! ## Agreement -/

/--
The scan ends on every JSON text, and the decoder on every text.  What Python
accepts the browser accepts; what the browser accepts Python accepts unless
its stack runs out; and the two values are the same.
-/
theorem decoders_agree (host : Host) (number : String → Double)
    (stack : List Char → Bool) (text : List Char) :
    (∀ value, jsonParse number text = some value →
      ∃ outside, ∀ steps, text.length < steps →
        scanFrom host number steps [] text = some (.returned outside)) ∧
    (∃ result, result ≠ .thrown ∧
      ∀ steps, text.length < steps →
        decodeCanonicalJson host number steps text = some result) ∧
    (∀ value, decodeText host stack text = .ok value →
      ∃ found, Same found value ∧
        ∀ steps, text.length < steps →
          decodeCanonicalJson host number steps text = some (.ok found)) ∧
    (stack text = true →
      ∀ steps found, text.length < steps →
        decodeCanonicalJson host number steps text = some (.ok found) →
          ∃ value, Same found value ∧
            decodeText host stack text = .ok value) := by
  refine ⟨fun value parsed => ⟨_, scans_of_jsonParse parsed⟩,
    ⟨decoded host number text, ?_, fun steps => decodeCanonicalJson_eq⟩,
    fun value accepted => ?_, fun holds steps found enough accepted => ?_⟩
  · unfold decoded
    split
    · nofun
    · split <;> nofun
  · rcases loads_iff.1 (decodeText_eq_ok.1 accepted).2 with
      ⟨tree, parsed, inside, rfl⟩
    refine ⟨evaluate tree, same_value tree inside, fun steps enough => ?_⟩
    rw [decodeCanonicalJson_eq enough,
      decoded_eq_ok.2 ⟨tree, parsed, inside, rfl⟩]
  · rw [decodeCanonicalJson_eq enough, Option.some.injEq,
      decoded_eq_ok] at accepted
    rcases accepted with ⟨tree, parsed, inside, rfl⟩
    exact ⟨pythonValue tree, same_value tree inside,
      decodeText_eq_ok.2 ⟨holds, loads_iff.2 ⟨tree, parsed, inside, rfl⟩⟩⟩

/-- A hundred thousand nested arrays are refused on one side only. -/
theorem deepNesting_disagrees :
    (∃ found, ∀ steps, (nested 100000 []).length < steps →
      decodeCanonicalJson plainHost (fun _ => .infinite false) steps
        (nested 100000 []) = some (.ok found)) ∧
      ∀ value,
        decodeText plainHost defaultStack (nested 100000 []) ≠ .ok value := by
  refine ⟨⟨evaluate (nestedArrays 99999), fun steps enough => ?_⟩,
    fun value accepted => ?_⟩
  · rw [decodeCanonicalJson_eq enough, decoded_nested 99999]
  · have holds := (decodeText_eq_ok.1 accepted).1
    rw [defaultStack, nested_count, decide_eq_true_eq] at holds
    omega

end AerialRescue.Dashboard.DecodingParity
