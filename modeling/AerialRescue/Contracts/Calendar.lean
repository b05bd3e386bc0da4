import AerialRescue.Contracts.InstantCodec

/-!
# The order of instants

The count of microseconds orders the calendar fields one after another, the
year first, so the canonical texts of two instants are ordered as the instants
are.
-/

namespace AerialRescue.Contracts.Instant

/-! ## Years and months -/

/-- The number of days of a year. -/
def daysInYear (year : Nat) : Nat :=
  if isLeap year then 366 else 365

/-- A quotient grows by one at each multiple of its divisor. -/
theorem succ_div (past divisor : Nat) :
    (past + 1) / divisor =
      past / divisor + if (past + 1) % divisor = 0 then 1 else 0 := by
  rw [Nat.succ_div]
  simp only [Nat.dvd_iff_mod_eq_zero]

theorem daysBeforeYear_succ {year : Nat} (positive : 1 ≤ year) :
    daysBeforeYear (year + 1) = daysBeforeYear year + daysInYear year := by
  obtain ⟨past, rfl⟩ : ∃ past, year = past + 1 := ⟨year - 1, by omega⟩
  have century : (past + 1) % 100 = 0 → (past + 1) % 4 = 0 := by omega
  have fourth : (past + 1) % 400 = 0 → (past + 1) % 100 = 0 := by omega
  have skipped : (past + 1) / 100 ≤ (past + 1) / 4 :=
    Nat.div_le_div_left (by omega) (by omega)
  have skippedBefore : past / 100 ≤ past / 4 :=
    Nat.div_le_div_left (by omega) (by omega)
  have years := succ_div past 4
  have centuries := succ_div past 100
  have fourths := succ_div past 400
  simp only [daysBeforeYear, daysInYear, isLeap, Bool.and_eq_true,
    Bool.or_eq_true, decide_eq_true_eq, bne_iff_ne, Nat.add_sub_cancel]
  generalize (past + 1) % 4 = four at *
  generalize (past + 1) % 100 = hundred at *
  generalize (past + 1) % 400 = fourHundred at *
  generalize past / 4 = a at *
  generalize past / 100 = b at *
  generalize past / 400 = c at *
  generalize (past + 1) / 4 = a' at *
  generalize (past + 1) / 100 = b' at *
  generalize (past + 1) / 400 = c' at *
  split_ifs at * <;> omega

theorem daysBeforeYear_mono {earlier later : Nat} (positive : 1 ≤ earlier)
    (ordered : earlier ≤ later) :
    daysBeforeYear earlier ≤ daysBeforeYear later := by
  induction later, ordered using Nat.le_induction with
  | base => exact Nat.le_refl _
  | succ later ordered inductionHypothesis =>
      rw [daysBeforeYear_succ (by omega)]
      omega

theorem daysBeforeMonth_succ (year : Nat) {month : Nat}
    (positive : 1 ≤ month) :
    daysBeforeMonth year (month + 1) =
      daysBeforeMonth year month + daysInMonth year month := by
  unfold daysBeforeMonth
  rw [Nat.add_sub_cancel, show month = month - 1 + 1 by omega,
    List.range_succ, List.foldl_append, Nat.add_sub_cancel]
  rfl

theorem daysBeforeMonth_mono (year : Nat) {earlier later : Nat}
    (positive : 1 ≤ earlier) (ordered : earlier ≤ later) :
    daysBeforeMonth year earlier ≤ daysBeforeMonth year later := by
  induction later, ordered using Nat.le_induction with
  | base => exact Nat.le_refl _
  | succ later ordered inductionHypothesis =>
      rw [daysBeforeMonth_succ year (by omega)]
      omega

theorem daysBeforeMonth_year (year : Nat) :
    daysBeforeMonth year 13 = daysInYear year := by
  unfold daysInYear
  cases leap : isLeap year <;>
    simp [daysBeforeMonth, daysInMonth, leap, List.range_succ]

/-! ## Days -/

/-- Days between the first of January of the year 1 and a date. -/
def dayNumber (year month day : Nat) : Nat :=
  daysBeforeYear year + daysBeforeMonth year month + (day - 1)

/-- A date of a year and month of the calendar. -/
def IsDate (year month day : Nat) : Prop :=
  1 ≤ year ∧ (1 ≤ month ∧ month ≤ 12) ∧
    1 ≤ day ∧ day ≤ daysInMonth year month

theorem dayNumber_lt_month {year month day : Nat}
    (date : IsDate year month day) :
    dayNumber year month day <
      daysBeforeYear year + daysBeforeMonth year (month + 1) := by
  rcases date with ⟨_, ⟨month, _⟩, day, dayAtMost⟩
  rw [daysBeforeMonth_succ year month]
  unfold dayNumber
  omega

theorem dayNumber_lt_year {year month day : Nat}
    (date : IsDate year month day) :
    dayNumber year month day < daysBeforeYear (year + 1) := by
  rw [daysBeforeYear_succ date.1, ← daysBeforeMonth_year]
  have within := daysBeforeMonth_mono year
    (by omega : 1 ≤ month + 1) (by have := date.2.1.2; omega : month + 1 ≤ 13)
  have before := dayNumber_lt_month date
  omega

/-- Dates are ordered by the year, then the month, then the day. -/
theorem dayNumber_lt_iff {year month day otherYear otherMonth otherDay : Nat}
    (date : IsDate year month day)
    (other : IsDate otherYear otherMonth otherDay) :
    dayNumber year month day < dayNumber otherYear otherMonth otherDay ↔
      year < otherYear ∨ year = otherYear ∧
        (month < otherMonth ∨ month = otherMonth ∧ day < otherDay) := by
  have later {year month day otherYear otherMonth otherDay : Nat}
      (date : IsDate year month day)
      (earlier : year < otherYear ∨ year = otherYear ∧
        (month < otherMonth ∨ month = otherMonth ∧ day < otherDay)) :
      dayNumber year month day < dayNumber otherYear otherMonth otherDay := by
    rcases earlier with year | ⟨rfl, month | ⟨rfl, day⟩⟩
    · have started := daysBeforeYear_mono (by omega) (Nat.add_one_le_of_lt year)
      have ended := dayNumber_lt_year date
      have within : daysBeforeYear otherYear ≤
          dayNumber otherYear otherMonth otherDay := by
        unfold dayNumber
        omega
      omega
    · have started := daysBeforeMonth_mono year (by omega)
        (Nat.add_one_le_of_lt month)
      have ended := dayNumber_lt_month date
      have within : daysBeforeYear year + daysBeforeMonth year otherMonth ≤
          dayNumber year otherMonth otherDay := by
        unfold dayNumber
        omega
      omega
    · have positive := date.2.2.1
      unfold dayNumber
      omega
  refine ⟨fun before => ?_, later date⟩
  by_contra notEarlier
  have fields : otherYear < year ∨ otherYear = year ∧
        (otherMonth < month ∨ otherMonth = month ∧ otherDay < day) ∨
      year = otherYear ∧ month = otherMonth ∧ day = otherDay := by
    omega
  rcases fields with after | after | ⟨rfl, rfl, rfl⟩
  · exact absurd (later other (Or.inl after)) (Nat.lt_asymm before)
  · exact absurd (later other (Or.inr after)) (Nat.lt_asymm before)
  · exact absurd before (Nat.lt_irrefl _)

/-! ## Instants -/

/-- The fields of one instant come before those of another. -/
def DateTime.Precedes (value other : DateTime) : Prop :=
  value.year < other.year ∨ value.year = other.year ∧
    (value.month < other.month ∨ value.month = other.month ∧
      (value.day < other.day ∨ value.day = other.day ∧
        (value.hour < other.hour ∨ value.hour = other.hour ∧
          (value.minute < other.minute ∨ value.minute = other.minute ∧
            (value.second < other.second ∨ value.second = other.second ∧
              value.microsecond < other.microsecond)))))

theorem DateTime.isDate (value : DateTime) :
    IsDate value.year value.month value.day := by
  have fields := validFields_iff.1 value.valid
  exact ⟨fields.1.1, fields.2.1, fields.2.2.1⟩

/-- The count of microseconds orders instants by their fields. -/
theorem microseconds_lt_iff {value other : DateTime} :
    value.microseconds < other.microseconds ↔ value.Precedes other := by
  have fields := (validFields_iff.1 value.valid).2.2.2
  have otherFields := (validFields_iff.1 other.valid).2.2.2
  have dates := dayNumber_lt_iff value.isDate other.isDate
  have dates' := dayNumber_lt_iff other.isDate value.isDate
  have count (value : DateTime) : value.microseconds =
      (((dayNumber value.year value.month value.day * 24 + value.hour) *
        3600 + value.minute * 60 + value.second) * 1000000 +
          value.microsecond : Nat) :=
    rfl
  rw [count, count, DateTime.Precedes]
  omega

/-! ## Texts -/

/-- A field decides the order of texts before anything written after it. -/
theorem field_lt {width value other : Nat} (fits : value < 10 ^ width)
    (otherFits : other < 10 ^ width) (separator : Char)
    (later after : List Char) :
    padded width value ++ separator :: later <
        padded width other ++ separator :: after ↔
      value < other ∨ value = other ∧ later < after := by
  have same : padded width value = padded width other ↔ value = other :=
    ⟨padded_inj fits otherFits, congrArg _⟩
  rw [append_lt_append (by rw [padded_length, padded_length]),
    padded_lt_padded fits otherFits, same, List.cons_lt_cons_iff]
  simp only [Char.lt_irrefl, false_or, true_and]

/-- Whole milliseconds are spelled in the order of their fields. -/
theorem formatInstant_lt_iff {value other : DateTime}
    (whole : value.microsecond % 1000 = 0)
    (otherWhole : other.microsecond % 1000 = 0) :
    formatInstant value < formatInstant other ↔ value.Precedes other := by
  have fields := validFields_iff.1 value.valid
  have otherFields := validFields_iff.1 other.valid
  have days := daysInMonth_le value.year value.month
  have otherDays := daysInMonth_le other.year other.month
  rw [String.lt_iff, formatInstant_toList, formatInstant_toList,
    DateTime.Precedes]
  simp only [List.append_assoc, List.cons_append, List.nil_append]
  rw [field_lt (by omega) (by omega), field_lt (by omega) (by omega),
    field_lt (by omega) (by omega), field_lt (by omega) (by omega),
    field_lt (by omega) (by omega), field_lt (by omega) (by omega),
    field_lt (by omega) (by omega)]
  simp only [List.lt_irrefl, and_false, or_false]
  omega

theorem parseAware_eq_ok {text : String} {value : Datetime} :
    parseAware text = .ok value ↔
      value.tzinfo = some (some 0) ∧ parseInstant text = .ok value.fields := by
  unfold parseAware
  cases parsed : parseInstant text with
  | error refusal =>
      refine iff_of_false nofun fun both => ?_
      cases both.2
  | ok fields =>
      change Except.ok fields.inUtc = _ ↔ _
      rw [Except.ok.injEq, Except.ok.injEq]
      constructor
      · rintro rfl
        exact ⟨rfl, rfl⟩
      · rcases value with ⟨otherFields, tzinfo⟩
        rintro ⟨rfl, rfl⟩
        rfl

/-- A `datetime` one hour east of Greenwich has no canonical spelling. -/
theorem eastern_refused :
    ∃ value : Datetime, value.tzinfo = some (some 3600000000) ∧
      formatAware value = .error .notUtc ∧
      ¬∃ text result, formatAware value = .ok text ∧
        parseAware text = .ok result := by
  refine ⟨{ fields := ⟨2026, 1, 1, 0, 0, 0, 0, rfl⟩, tzinfo := _ }, rfl, rfl,
    ?_⟩
  rintro ⟨text, result, formatted, _⟩
  cases formatted

/--
The canonical instants are the texts of the pattern that name a real date;
each is the spelling of what it parses to; a `datetime` is spelled exactly when
its offset is zero, and its spelling parses to it floored to the millisecond;
and the texts of two instants are ordered as the instants are.
-/
theorem instant_codec :
    (∀ text, (∃ value, parseAware text = .ok value) ↔
      instantPattern text.toList = true ∧ NamesRealDate text.toList) ∧
    (∀ text value, parseAware text = .ok value →
      formatAware value = .ok text) ∧
    (∀ value, (∃ text, formatAware value = .ok text) ↔
      value.tzinfo = some (some 0)) ∧
    (∀ value text, formatAware value = .ok text →
      parseAware text = .ok value.fields.floored.inUtc) ∧
    (∀ text other value otherValue, parseAware text = .ok value →
      parseAware other = .ok otherValue →
        (text < other ↔
          value.fields.microseconds < otherValue.fields.microseconds)) := by
  refine ⟨fun text => ?_, fun text value parsed => ?_, fun value => ?_,
    fun value text formatted => ?_,
    fun text other value otherValue parsed otherParsed => ?_⟩
  · rw [← parseInstant_accepts]
    constructor
    · rintro ⟨value, parsed⟩
      exact ⟨value.fields, (parseAware_eq_ok.1 parsed).2⟩
    · rintro ⟨fields, parsed⟩
      exact ⟨fields.inUtc, parseAware_eq_ok.2 ⟨rfl, parsed⟩⟩
  · rcases parseAware_eq_ok.1 parsed with ⟨utc, fields⟩
    exact formatAware_eq_ok.2 ⟨utc, (parseInstant_eq_ok.1 fields).1⟩
  · constructor
    · rintro ⟨text, formatted⟩
      exact (formatAware_eq_ok.1 formatted).1
    · exact fun utc => ⟨_, formatAware_eq_ok.2 ⟨utc, rfl⟩⟩
  · rcases formatAware_eq_ok.1 formatted with ⟨_, rfl⟩
    exact parseAware_eq_ok.2 ⟨rfl, parseInstant_formatInstant value.fields⟩
  · rcases parseInstant_eq_ok.1 (parseAware_eq_ok.1 parsed).2 with
      ⟨rfl, whole⟩
    rcases parseInstant_eq_ok.1 (parseAware_eq_ok.1 otherParsed).2 with
      ⟨rfl, otherWhole⟩
    rw [formatInstant_lt_iff whole otherWhole, microseconds_lt_iff]

end AerialRescue.Contracts.Instant
