import AerialRescue.Contracts.Instant
import Mathlib.Algebra.Group.Nat.Defs
import Mathlib.Data.List.Induction

/-!
# The instant codec

The calendar fields of an instant are written in decimals of a fixed width, so
the text of an instant determines its fields, and the order of two texts is the
order of their fields.
-/

namespace AerialRescue.Contracts.Instant

open AerialRescue.Lib.Guard
open AerialRescue.Contracts.Canonical

/-! ## Decimals of a fixed width -/

theorem isDigit_iff {character : Char} :
    isDigit character = true ↔
      48 ≤ character.toNat ∧ character.toNat ≤ 57 := by
  simp only [isDigit, Bool.and_eq_true, decide_eq_true_eq, Char.le_def,
    UInt32.le_iff_toNat_le]
  rfl

theorem digitValue_le {character : Char} (digit : isDigit character = true) :
    digitValue character ≤ 9 := by
  have bounds := isDigit_iff.1 digit
  unfold digitValue
  omega

theorem digitChar_toNat {value : Nat} (small : value < 10) :
    (digitChar value).toNat = 48 + value := by
  have decimal : value ∈ List.range 10 := List.mem_range.2 small
  revert value
  decide

theorem isDigit_digitChar {value : Nat} (small : value < 10) :
    isDigit (digitChar value) = true := by
  rw [isDigit_iff, digitChar_toNat small]
  omega

@[simp]
theorem digitValue_digitChar {value : Nat} (small : value < 10) :
    digitValue (digitChar value) = value := by
  rw [digitValue, digitChar_toNat small]
  omega

@[simp]
theorem digitChar_digitValue {character : Char}
    (digit : isDigit character = true) :
    digitChar (digitValue character) = character := by
  have bounds := isDigit_iff.1 digit
  apply Char.toNat_inj.1
  rw [digitChar_toNat (by have := digitValue_le digit; omega), digitValue]
  omega

@[simp]
theorem digitsValue_append_singleton (characters : List Char)
    (last : Char) :
    digitsValue (characters ++ [last]) =
      digitsValue characters * 10 + digitValue last := by
  rw [digitsValue, List.foldl_append]
  rfl

@[simp]
theorem padded_length (width value : Nat) :
    (padded width value).length = width := by
  induction width generalizing value with
  | zero => rfl
  | succ width inductionHypothesis =>
      rw [padded, List.length_append, inductionHypothesis]
      rfl

theorem padded_digits (width value : Nat) :
    (padded width value).all isDigit = true := by
  induction width generalizing value with
  | zero => rfl
  | succ width inductionHypothesis =>
      rw [padded, List.all_append, inductionHypothesis, List.all_cons,
        isDigit_digitChar (Nat.mod_lt _ (by omega))]
      rfl

/-- A value that fits its width is read back from its digits. -/
theorem digitsValue_padded {width value : Nat} (fits : value < 10 ^ width) :
    digitsValue (padded width value) = value := by
  induction width generalizing value with
  | zero =>
      rw [Nat.pow_zero, Nat.lt_one_iff] at fits
      rw [fits]
      rfl
  | succ width inductionHypothesis =>
      rw [Nat.pow_succ] at fits
      rw [padded, digitsValue_append_singleton,
        inductionHypothesis (by omega),
        digitValue_digitChar (Nat.mod_lt _ (by omega))]
      omega

/-- Digits are the decimal of their value in their own width. -/
theorem padded_digitsValue {characters : List Char}
    (digits : characters.all isDigit = true) :
    padded characters.length (digitsValue characters) = characters := by
  induction characters using List.reverseRecOn with
  | nil => rfl
  | append_singleton front last inductionHypothesis =>
      simp only [List.all_append, List.all_cons, List.all_nil, Bool.and_true,
        Bool.and_eq_true] at digits
      have small := digitValue_le digits.2
      rw [List.length_append, List.length_singleton, padded,
        digitsValue_append_singleton,
        show (digitsValue front * 10 + digitValue last) / 10 =
          digitsValue front by omega,
        show (digitsValue front * 10 + digitValue last) % 10 =
          digitValue last by omega,
        inductionHypothesis digits.1, digitChar_digitValue digits.2]

theorem digitsValue_lt {characters : List Char}
    (digits : characters.all isDigit = true) :
    digitsValue characters < 10 ^ characters.length := by
  induction characters using List.reverseRecOn with
  | nil => exact Nat.one_pos
  | append_singleton front last inductionHypothesis =>
      simp only [List.all_append, List.all_cons, List.all_nil, Bool.and_true,
        Bool.and_eq_true] at digits
      have small := digitValue_le digits.2
      have before := inductionHypothesis digits.1
      rw [digitsValue_append_singleton, List.length_append,
        List.length_singleton, Nat.pow_succ]
      omega

theorem padded_inj {width value other : Nat} (fits : value < 10 ^ width)
    (otherFits : other < 10 ^ width)
    (same : padded width value = padded width other) : value = other := by
  rw [← digitsValue_padded fits, same, digitsValue_padded otherFits]

/-! ## The order of texts -/

/-- After parts of one length, the later parts only decide between equals. -/
theorem append_lt_append {first second : List Char}
    (aligned : first.length = second.length) (later after : List Char) :
    first ++ later < second ++ after ↔
      first < second ∨ first = second ∧ later < after := by
  induction first generalizing second with
  | nil =>
      rw [List.eq_nil_of_length_eq_zero aligned.symm]
      simp
  | cons character rest inductionHypothesis =>
      cases second with
      | nil => cases aligned
      | cons other tail =>
          rw [List.cons_append, List.cons_append, List.cons_lt_cons_iff,
            List.cons_lt_cons_iff,
            inductionHypothesis (Nat.succ.inj aligned), List.cons.injEq]
          tauto

/-- Decimals of one width are ordered as their values. -/
theorem padded_lt_padded {width value other : Nat}
    (fits : value < 10 ^ width) (otherFits : other < 10 ^ width) :
    padded width value < padded width other ↔ value < other := by
  induction width generalizing value other with
  | zero =>
      rw [Nat.pow_zero, Nat.lt_one_iff] at fits otherFits
      rw [fits, otherFits]
      simp
  | succ width inductionHypothesis =>
      rw [Nat.pow_succ] at fits otherFits
      have digit := Nat.mod_lt value (by omega : 10 > 0)
      have otherDigit := Nat.mod_lt other (by omega : 10 > 0)
      have last : [digitChar (value % 10)] < [digitChar (other % 10)] ↔
          value % 10 < other % 10 := by
        rw [List.cons_lt_cons_iff, Char.lt_def, UInt32.lt_iff_toNat_lt]
        change (digitChar (value % 10)).toNat <
          (digitChar (other % 10)).toNat ∨ _ ↔ _
        rw [digitChar_toNat digit, digitChar_toNat otherDigit]
        simp
      have same : padded width (value / 10) = padded width (other / 10) ↔
          value / 10 = other / 10 :=
        ⟨padded_inj (by omega) (by omega), congrArg _⟩
      rw [padded, padded,
        append_lt_append (by rw [padded_length, padded_length]),
        inductionHypothesis (by omega) (by omega), last, same]
      omega

/-! ## The fields of a text -/

/-- The seven groups of the canonical spelling, where they stand in it. -/
theorem instantGroups_eq_some
    {characters years months days hours minutes seconds fraction : List Char} :
    instantGroups characters =
        some (years, months, days, hours, minutes, seconds, fraction) ↔
      (years.length = 4 ∧ months.length = 2 ∧ days.length = 2 ∧
        hours.length = 2 ∧ minutes.length = 2 ∧ seconds.length = 2 ∧
        fraction.length = 3) ∧
      characters =
        years ++ ['-'] ++ months ++ ['-'] ++ days ++ ['T'] ++ hours ++
          [':'] ++ minutes ++ [':'] ++ seconds ++ ['.'] ++ fraction ++
          ['Z'] := by
  constructor
  · intro grouped
    unfold instantGroups at grouped
    split at grouped
    · cases grouped
      exact ⟨⟨rfl, rfl, rfl, rfl, rfl, rfl, rfl⟩, rfl⟩
    · cases grouped
  · rintro ⟨⟨year, month, day, hour, minute, second, millisecond⟩, rfl⟩
    rcases List.length_eq_two.1 month with ⟨m1, m2, rfl⟩
    rcases List.length_eq_two.1 day with ⟨d1, d2, rfl⟩
    rcases List.length_eq_two.1 hour with ⟨h1, h2, rfl⟩
    rcases List.length_eq_two.1 minute with ⟨n1, n2, rfl⟩
    rcases List.length_eq_two.1 second with ⟨s1, s2, rfl⟩
    rcases List.length_eq_three.1 millisecond with ⟨f1, f2, f3, rfl⟩
    cases years with
    | nil => cases year
    | cons y1 rest =>
        rcases List.length_eq_three.1 (Nat.succ.inj year) with
          ⟨y2, y3, y4, rfl⟩
        rfl

theorem validFields_iff
    {year month day hour minute second microsecond : Nat} :
    validFields year month day hour minute second microsecond = true ↔
      (1 ≤ year ∧ year ≤ 9999) ∧ (1 ≤ month ∧ month ≤ 12) ∧
        (1 ≤ day ∧ day ≤ daysInMonth year month) ∧ hour < 24 ∧
        minute < 60 ∧ second < 60 ∧ microsecond < 1000000 := by
  simp only [validFields, Bool.and_eq_true, decide_eq_true_eq, and_assoc]

theorem daysInMonth_le (year month : Nat) : daysInMonth year month ≤ 31 := by
  unfold daysInMonth
  split_ifs <;> omega

/-- The characters of a formatted instant. -/
theorem formatInstant_toList (value : DateTime) :
    (formatInstant value).toList =
      padded 4 value.year ++ ['-'] ++ padded 2 value.month ++ ['-'] ++
        padded 2 value.day ++ ['T'] ++ padded 2 value.hour ++ [':'] ++
        padded 2 value.minute ++ [':'] ++ padded 2 value.second ++ ['.'] ++
        padded 3 (value.microsecond / 1000) ++ ['Z'] :=
  String.toList_ofList

/-- The texts that are accepted are the spellings of whole milliseconds. -/
theorem parseInstant_eq_ok {text : String} {value : DateTime} :
    parseInstant text = .ok value ↔
      formatInstant value = text ∧ value.microsecond % 1000 = 0 := by
  constructor
  · intro parsed
    simp only [parseInstant, bind_eq_ok, present_eq_ok, ensure_eq_ok,
      exists_const] at parsed
    rcases parsed with
      ⟨⟨years, months, days, hours, minutes, seconds, fraction⟩, grouped,
        digits, _, named⟩
    rcases instantGroups_eq_some.1 grouped with ⟨lengths, spelled⟩
    simp only [List.all_append, Bool.and_eq_true] at digits
    split at named
    · cases named
      refine ⟨String.toList_inj.1 ?_, Nat.mul_mod_left _ _⟩
      rw [formatInstant_toList, spelled]
      dsimp only
      rw [Nat.mul_div_cancel _ (by omega)]
      have year := padded_digitsValue digits.1.1.1.1.1.1
      have month := padded_digitsValue digits.1.1.1.1.1.2
      have day := padded_digitsValue digits.1.1.1.1.2
      have hour := padded_digitsValue digits.1.1.1.2
      have minute := padded_digitsValue digits.1.1.2
      have second := padded_digitsValue digits.1.2
      have millisecond := padded_digitsValue digits.2
      rw [lengths.1] at year
      rw [lengths.2.1] at month
      rw [lengths.2.2.1] at day
      rw [lengths.2.2.2.1] at hour
      rw [lengths.2.2.2.2.1] at minute
      rw [lengths.2.2.2.2.2.1] at second
      rw [lengths.2.2.2.2.2.2] at millisecond
      rw [year, month, day, hour, minute, second, millisecond]
    · cases named
  · rintro ⟨rfl, whole⟩
    rcases validFields_iff.1 value.valid with
      ⟨year, month, day, hour, minute, second, micro⟩
    have days := daysInMonth_le value.year value.month
    have millisecond : value.microsecond / 1000 * 1000 =
        value.microsecond := by omega
    rw [parseInstant, formatInstant_toList, instantGroups_eq_some.2
      ⟨⟨padded_length _ _, padded_length _ _, padded_length _ _,
        padded_length _ _, padded_length _ _, padded_length _ _,
        padded_length _ _⟩, rfl⟩]
    simp only [bind_eq_ok, present_eq_ok, ensure_eq_ok, exists_const,
      List.all_append]
    refine ⟨_, rfl, ?_, ?_, ?_⟩
    · simp only [padded_digits, Bool.and_self]
    · rw [digitsValue_padded (by omega), digitsValue_padded (by omega),
        digitsValue_padded (by omega), digitsValue_padded (by omega),
        digitsValue_padded (by omega), digitsValue_padded (by omega)]
      omega
    · simp only [digitsValue_padded (by omega : value.year < 10 ^ 4),
        digitsValue_padded (by omega : value.month < 10 ^ 2),
        digitsValue_padded (by omega : value.day < 10 ^ 2),
        digitsValue_padded (by omega : value.hour < 10 ^ 2),
        digitsValue_padded (by omega : value.minute < 10 ^ 2),
        digitsValue_padded (by omega : value.second < 10 ^ 2),
        digitsValue_padded
          (by omega : value.microsecond / 1000 < 10 ^ 3),
        millisecond, value.valid, dite_true]
      rfl

/-! ## The pattern -/

/-- A character of a range of characters. -/
def within (first last character : Char) : Bool :=
  first ≤ character && character ≤ last

/-- `0[1-9]|1[0-2]` -/
def monthPattern (tens ones : Char) : Bool :=
  tens = '0' && within '1' '9' ones || tens = '1' && within '0' '2' ones

/-- `0[1-9]|[12][0-9]|3[01]` -/
def dayPattern (tens ones : Char) : Bool :=
  tens = '0' && within '1' '9' ones ||
    within '1' '2' tens && within '0' '9' ones ||
    tens = '3' && within '0' '1' ones

/-- `[01][0-9]|2[0-3]` -/
def hourPattern (tens ones : Char) : Bool :=
  within '0' '1' tens && within '0' '9' ones ||
    tens = '2' && within '0' '3' ones

/-- `[0-5][0-9]` -/
def sixtyPattern (tens ones : Char) : Bool :=
  within '0' '5' tens && within '0' '9' ones

/-- `INSTANT_PATTERN`, matched against a whole text. -/
def instantPattern : List Char → Bool
  | [y1, y2, y3, y4, '-', m1, m2, '-', d1, d2, 'T', h1, h2, ':', n1, n2,
      ':', s1, s2, '.', f1, f2, f3, 'Z'] =>
      [y1, y2, y3, y4] ≠ ['0', '0', '0', '0'] &&
        [y1, y2, y3, y4].all (within '0' '9') && monthPattern m1 m2 &&
        dayPattern d1 d2 && hourPattern h1 h2 && sixtyPattern n1 n2 &&
        sixtyPattern s1 s2 && [f1, f2, f3].all (within '0' '9')
  | _ => false

theorem within_iff {first last character : Char} :
    within first last character = true ↔
      first.toNat ≤ character.toNat ∧ character.toNat ≤ last.toNat := by
  simp only [within, Bool.and_eq_true, decide_eq_true_eq, Char.le_def,
    UInt32.le_iff_toNat_le]
  rfl

theorem eq_iff_toNat {character other : Char} :
    character = other ↔ character.toNat = other.toNat :=
  Char.toNat_inj.symm

theorem digitsValue_pair (tens ones : Char) :
    digitsValue [tens, ones] = digitValue tens * 10 + digitValue ones := by
  rw [digitsValue, List.foldl_cons, List.foldl_cons, List.foldl_nil,
    Nat.zero_mul, Nat.zero_add]

theorem monthPattern_iff {tens ones : Char} :
    monthPattern tens ones = true ↔
      (isDigit tens = true ∧ isDigit ones = true) ∧
        1 ≤ digitsValue [tens, ones] ∧ digitsValue [tens, ones] ≤ 12 := by
  rw [digitsValue_pair, isDigit_iff, isDigit_iff]
  simp only [monthPattern, Bool.or_eq_true, Bool.and_eq_true,
    decide_eq_true_eq, within_iff, eq_iff_toNat, digitValue,
    Char.reduceToNat]
  omega

theorem dayPattern_iff {tens ones : Char} :
    dayPattern tens ones = true ↔
      (isDigit tens = true ∧ isDigit ones = true) ∧
        1 ≤ digitsValue [tens, ones] ∧ digitsValue [tens, ones] ≤ 31 := by
  rw [digitsValue_pair, isDigit_iff, isDigit_iff]
  simp only [dayPattern, Bool.or_eq_true, Bool.and_eq_true,
    decide_eq_true_eq, within_iff, eq_iff_toNat, digitValue,
    Char.reduceToNat]
  omega

theorem hourPattern_iff {tens ones : Char} :
    hourPattern tens ones = true ↔
      (isDigit tens = true ∧ isDigit ones = true) ∧
        digitsValue [tens, ones] ≤ 23 := by
  rw [digitsValue_pair, isDigit_iff, isDigit_iff]
  simp only [hourPattern, Bool.or_eq_true, Bool.and_eq_true,
    decide_eq_true_eq, within_iff, eq_iff_toNat, digitValue,
    Char.reduceToNat]
  omega

theorem sixtyPattern_iff {tens ones : Char} :
    sixtyPattern tens ones = true ↔
      (isDigit tens = true ∧ isDigit ones = true) ∧
        digitsValue [tens, ones] ≤ 59 := by
  rw [digitsValue_pair, isDigit_iff, isDigit_iff]
  simp only [sixtyPattern, Bool.and_eq_true, within_iff, digitValue,
    Char.reduceToNat]
  omega

/-- Only the year 0000 has the value zero. -/
theorem digitsValue_eq_zero {characters : List Char}
    (digits : characters.all isDigit = true) :
    digitsValue characters = 0 ↔
      characters = List.replicate characters.length '0' := by
  constructor
  · intro zero
    have spelled := padded_digitsValue digits
    rw [zero] at spelled
    have zeros (width : Nat) : padded width 0 = List.replicate width '0' := by
      induction width with
      | zero => rfl
      | succ width inductionHypothesis =>
          rw [padded, Nat.zero_div, inductionHypothesis,
            List.replicate_succ']
          rfl
    rw [← zeros, spelled]
  · intro spelled
    have zeros (width : Nat) :
        digitsValue (List.replicate width '0') = 0 := by
      induction width with
      | zero => rfl
      | succ width inductionHypothesis =>
          rw [List.replicate_succ', digitsValue_append_singleton,
            inductionHypothesis]
          rfl
    rw [spelled, zeros]

/-- The date that the digits of a text name is one of the calendar. -/
def NamesRealDate (characters : List Char) : Prop :=
  let year := digitsValue (characters.take 4)
  let month := digitsValue ((characters.drop 5).take 2)
  let day := digitsValue ((characters.drop 8).take 2)
  1 ≤ month ∧ month ≤ 12 ∧ 1 ≤ day ∧ day ≤ daysInMonth year month

/-- Which texts are accepted, by the groups of their characters. -/
theorem parseInstant_groups {text : String} :
    (∃ value, parseInstant text = .ok value) ↔
      ∃ years months days hours minutes seconds fraction,
        instantGroups text.toList =
            some (years, months, days, hours, minutes, seconds, fraction) ∧
          (years ++ months ++ days ++ hours ++ minutes ++ seconds ++
            fraction).all isDigit = true ∧
          digitsValue years ≠ 0 ∧
          (1 ≤ digitsValue months ∧ digitsValue months ≤ 12) ∧
          (1 ≤ digitsValue days ∧ digitsValue days ≤ 31 ∧
            digitsValue days ≤
              daysInMonth (digitsValue years) (digitsValue months)) ∧
          digitsValue hours ≤ 23 ∧ digitsValue minutes ≤ 59 ∧
          digitsValue seconds ≤ 59 := by
  simp only [parseInstant, bind_eq_ok, present_eq_ok, ensure_eq_ok,
    exists_const]
  constructor
  · rintro ⟨value,
      ⟨years, months, days, hours, minutes, seconds, fraction⟩, grouped,
      digits, bounds, named⟩
    dsimp only at named bounds
    split at named
    · next valid =>
        have fields := validFields_iff.1 valid
        have longest := daysInMonth_le (digitsValue years)
          (digitsValue months)
        exact ⟨years, months, days, hours, minutes, seconds, fraction,
          grouped, digits, by omega, by omega, by omega, by omega, by omega,
          by omega⟩
    · cases named
  · rintro ⟨years, months, days, hours, minutes, seconds, fraction, grouped,
      digits, year, month, day, hour, minute, second⟩
    have lengths := (instantGroups_eq_some.1 grouped).1
    have groupDigits := digits
    simp only [List.all_append, Bool.and_eq_true] at groupDigits
    have yearSmall := digitsValue_lt groupDigits.1.1.1.1.1.1
    have fractionSmall := digitsValue_lt groupDigits.2
    rw [lengths.1] at yearSmall
    rw [lengths.2.2.2.2.2.2] at fractionSmall
    have valid : validFields (digitsValue years) (digitsValue months)
        (digitsValue days) (digitsValue hours) (digitsValue minutes)
        (digitsValue seconds) (digitsValue fraction * 1000) = true :=
      validFields_iff.2 (by omega)
    exact ⟨_, _, grouped, digits,
      ⟨year, month.1, month.2, day.1, day.2.1, hour, minute, second⟩,
      dif_pos valid⟩

/-- A text is accepted when it has the pattern and names a real date. -/
theorem parseInstant_accepts (text : String) :
    (∃ value, parseInstant text = .ok value) ↔
      instantPattern text.toList = true ∧ NamesRealDate text.toList := by
  rw [parseInstant_groups]
  constructor
  · rintro ⟨years, months, days, hours, minutes, seconds, fraction, grouped,
      digits, year, month, day, hour, minute, second⟩
    unfold instantGroups at grouped
    split at grouped
    · next spelled =>
        cases grouped
        rw [spelled]
        simp only [List.all_append, List.all_cons, List.all_nil,
          Bool.and_true, Bool.and_eq_true] at digits
        rw [Ne, digitsValue_eq_zero (by simp [digits])] at year
        refine ⟨?_, month.1, month.2, day.1, day.2.2⟩
        simp only [instantPattern, Bool.and_eq_true]
        refine ⟨⟨⟨⟨⟨⟨⟨decide_eq_true year, ?_⟩, ?_⟩, ?_⟩, ?_⟩, ?_⟩, ?_⟩, ?_⟩
        · change List.all _ isDigit = true
          simp [digits]
        · exact monthPattern_iff.2 ⟨by simp [digits], month⟩
        · exact dayPattern_iff.2 ⟨by simp [digits], day.1, day.2.1⟩
        · exact hourPattern_iff.2 ⟨by simp [digits], hour⟩
        · exact sixtyPattern_iff.2 ⟨by simp [digits], minute⟩
        · exact sixtyPattern_iff.2 ⟨by simp [digits], second⟩
        · change List.all _ isDigit = true
          simp [digits]
    · cases grouped
  · rintro ⟨pattern, month, monthAtMost, day, dayAtMost⟩
    unfold instantPattern at pattern
    split at pattern
    · next spelled =>
        rw [spelled] at month monthAtMost day dayAtMost ⊢
        simp only [Bool.and_eq_true] at pattern
        rcases pattern with ⟨⟨⟨⟨⟨⟨⟨year, years⟩, months⟩, days⟩, hours⟩,
          minutes⟩, seconds⟩, fraction⟩
        have months := monthPattern_iff.1 months
        have days := dayPattern_iff.1 days
        have hours := hourPattern_iff.1 hours
        have minutes := sixtyPattern_iff.1 minutes
        have seconds := sixtyPattern_iff.1 seconds
        refine ⟨_, _, _, _, _, _, _, rfl, ?_, ?_, months.2,
          ⟨days.2.1, days.2.2, dayAtMost⟩, hours.2, minutes.2, seconds.2⟩
        · change List.all _ isDigit = true at years fraction
          simp only [List.all_append, Bool.and_eq_true]
          exact ⟨⟨⟨⟨⟨⟨years, by simp [months]⟩, by simp [days]⟩,
            by simp [hours]⟩, by simp [minutes]⟩, by simp [seconds]⟩,
            fraction⟩
        · rw [Ne, digitsValue_eq_zero years]
          exact of_decide_eq_true year
    · cases pattern

/-! ## `datetime` values -/

/-- A `datetime`: its fields, and its time zone with the offset it reports. -/
structure Datetime where
  fields : DateTime
  tzinfo : Option (Option Duration)

/-- Why a `datetime` has no canonical spelling. -/
inductive FormatRefusal where
  | naive
  | notUtc
deriving DecidableEq

/-- `naive.replace(tzinfo=UTC)` -/
def DateTime.inUtc (value : DateTime) : Datetime :=
  { fields := value, tzinfo := some (some 0) }

/-- `parse_instant`, with the time zone of its result. -/
def parseAware (text : String) : Except InstantRefusal Datetime :=
  (parseInstant text).map DateTime.inUtc

/-- `format_instant`, with the checks of the time zone. -/
def formatAware (value : Datetime) : Except FormatRefusal String :=
  match value.tzinfo with
  | none => .error .naive
  | some offset => do
      ensure (offset = some 0) .notUtc
      pure (formatInstant value.fields)

/-- The same fields with the microseconds floored to a whole millisecond. -/
def DateTime.floored (value : DateTime) : DateTime :=
  { value with
    microsecond := value.microsecond / 1000 * 1000
    valid := by
      have fields := validFields_iff.1 value.valid
      exact validFields_iff.2 (by omega) }

theorem formatAware_eq_ok {value : Datetime} {text : String} :
    formatAware value = .ok text ↔
      value.tzinfo = some (some 0) ∧ formatInstant value.fields = text := by
  unfold formatAware
  split
  · next naive =>
      rw [naive]
      exact iff_of_false nofun fun both => nomatch both.1
  · next offset aware =>
      simp only [bind_eq_ok, ensure_eq_ok, exists_const, pure_eq_ok, aware,
        Option.some.injEq]

/-- Flooring an instant does not change its spelling. -/
theorem formatInstant_floored (value : DateTime) :
    formatInstant value.floored = formatInstant value := by
  apply String.toList_inj.1
  rw [formatInstant_toList, formatInstant_toList]
  simp only [DateTime.floored, Nat.mul_div_cancel _ (by omega : 0 < 1000)]

theorem parseInstant_formatInstant (value : DateTime) :
    parseInstant (formatInstant value) = .ok value.floored :=
  parseInstant_eq_ok.2
    ⟨formatInstant_floored value, Nat.mul_mod_left _ _⟩

end AerialRescue.Contracts.Instant
