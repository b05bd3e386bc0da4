import AerialRescue.Contracts.InstantCodec
import AerialRescue.Contracts.ReducerTotality
import AerialRescue.Dashboard.DomainReducer

/-!
# Parity of the event boundaries

The contracts-owned reducer and the browser's check an ordered event before
they fold it.  Where they part is stated exactly: on the assignee of an
unassigned sector, on numerals that are integers to one language only, and on
the data of the kinds that change no state.
-/

namespace AerialRescue.Dashboard.ReducerParity

open AerialRescue.Contracts
open AerialRescue.Contracts.Canonical
open AerialRescue.Contracts.CanonicalForm
open AerialRescue.Contracts.Digest
open AerialRescue.Contracts.DigestSeparation
open AerialRescue.Contracts.Envelopes
open AerialRescue.Contracts.Instant
open AerialRescue.Contracts.Rpc
open AerialRescue.Contracts.SharedJson
open AerialRescue.Contracts.Topics
open AerialRescue.Contracts.View
open AerialRescue.Dashboard.CanonicalText
open AerialRescue.Dashboard.DomainReducer
open AerialRescue.Lib.Binary64
open AerialRescue.Lib.Guard

variable {host : Host} {number : String → Double} {accepts : Value → Bool}

/-! ## Numbers -/

/-- A value is not a numeral with a fraction or an exponent. -/
def NotReal (value : Value) : Prop :=
  ∀ repr, value ≠ .float repr

theorem safeInteger_int (value : Int) :
    safeInteger number (.int value) =
      if value.natAbs ≤ maxSafeNumber then some value else none := by
  unfold safeInteger numberValue
  rw [Option.bind_some]
  by_cases small : value.natAbs < 2 ^ 53
  · rw [integer?_ofInteger small, signed_of_int, Option.filter_some]
    simp
  · have outside : ¬value.natAbs ≤ maxSafeNumber := by
      unfold maxSafeNumber
      omega
    rw [if_neg outside, Option.filter_eq_none_iff]
    intro rounded found
    have large :=
      le_of_integer?_ofInteger (Nat.not_lt.1 small) found
    rw [decide_eq_true_eq]
    unfold maxSafeNumber
    omega

theorem integerInRange_int {value minimum maximum : Int}
    (low : -9007199254740991 ≤ minimum) (high : maximum ≤ 9007199254740991) :
    integerInRange number (.int value) minimum maximum =
      if minimum ≤ value ∧ value ≤ maximum then some value else none := by
  unfold integerInRange
  rw [safeInteger_int]
  by_cases bounds : minimum ≤ value ∧ value ≤ maximum
  · have safe : value.natAbs ≤ maxSafeNumber := by
      unfold maxSafeNumber
      omega
    rw [if_pos safe, if_pos bounds, Option.filter_some]
    simp [bounds]
  · rw [if_neg bounds]
    split
    · simp [Option.filter_some, bounds]
    · rfl

/-- Both languages read the same integers from a value that is no real. -/
theorem integerInRange_eq_some {value : Value} {minimum maximum found : Int}
    (low : -9007199254740991 ≤ minimum) (high : maximum ≤ 9007199254740991)
    (plain : NotReal value) :
    integerInRange number value minimum maximum = some found ↔
      value = .int found ∧ minimum ≤ found ∧ found ≤ maximum := by
  cases value with
  | int held =>
      rw [integerInRange_int low high, Option.ite_none_right_eq_some,
        Option.some.injEq, Value.int.injEq]
      constructor
      · rintro ⟨bounds, rfl⟩
        exact ⟨rfl, bounds⟩
      · rintro ⟨rfl, bounds⟩
        exact ⟨bounds, rfl⟩
  | float repr => exact absurd rfl (plain repr)
  | _ => simp [integerInRange, safeInteger, numberValue]

/-! ## Members and texts -/

@[simp]
theorem identifier_eq_some {value : Value} {found : String} :
    identifier value = some found ↔
      value = .text found ∧ isIdentifier found = true := by
  cases value with
  | text text =>
      simp only [identifier, Option.ite_none_right_eq_some,
        Option.some.injEq, Value.text.injEq]
      constructor
      · rintro ⟨formed, rfl⟩
        exact ⟨rfl, formed⟩
      · rintro ⟨rfl, formed⟩
        exact ⟨formed, rfl⟩
  | _ => simp [identifier]

@[simp]
theorem isText_eq_true {value : Value} {text : String} :
    isText value text = true ↔ value = .text text := by
  cases value <;> simp [isText]

theorem sortedNames_eq_iff {left right : List String} :
    sortedNames left = sortedNames right ↔ left.Perm right := by
  constructor
  · intro same
    have first := List.perm_insertionSort (· ≤ ·) left
    have second := List.perm_insertionSort (· ≤ ·) right
    exact first.symm.trans ((List.Perm.of_eq same).trans second)
  · intro perm
    exact List.Perm.eq_of_pairwise
      (fun _ _ _ _ => String.le_antisymm)
      (List.pairwise_insertionSort (· ≤ ·) left)
      (List.pairwise_insertionSort (· ≤ ·) right)
      (((List.perm_insertionSort _ left).trans perm).trans
        (List.perm_insertionSort _ right).symm)

theorem has_iff {data : Value.Members} {name : String} :
    Value.has name data = true ↔ name ∈ Value.keys data := by
  unfold Value.has
  induction data with
  | nil => simp [Value.member?, Value.keys]
  | cons first rest inductionHypothesis =>
      rw [Value.member?, Value.keys, List.map_cons, List.mem_cons]
      split
      · rename_i same
        simp [same]
      · rename_i other
        rw [inductionHypothesis]
        constructor
        · exact .inr
        · rintro (same | later)
          · exact absurd same.symm other
          · exact later

theorem closedEventData_eq_ok {data : Value.Members}
    {required : List String} :
    closedEventData data required = .ok () ↔
      ∀ name, name ∈ Value.keys data ↔ name ∈ required := by
  unfold closedEventData
  simp only
  split
  · rename_i name others unknown
    have among : name ∈ (Value.keys data).filter fun name =>
        !required.contains name := by
      rw [← List.mem_insertionSort fun left right : String =>
        utf8 left.toList ≤ utf8 right.toList, unknown]
      exact List.mem_cons_self
    rw [List.mem_filter] at among
    simp only [reduceCtorEq, false_iff]
    intro exactly
    have listed := (exactly name).1 among.1
    simp [listed] at among
  · rename_i closed
    have known : ∀ name ∈ Value.keys data, name ∈ required := by
      intro name held
      have empty := List.length_insertionSort
        (fun left right : String =>
          utf8 left.toList ≤ utf8 right.toList)
        ((Value.keys data).filter fun name => !required.contains name)
      rw [closed, List.length_nil, eq_comm, List.length_eq_zero_iff,
        List.filter_eq_nil_iff] at empty
      simpa using empty name held
    split
    · rename_i name missing
      have listed := List.mem_of_find?_eq_some missing
      have absent := List.find?_some missing
      simp only [reduceCtorEq, false_iff]
      intro exactly
      rw [has_iff.2 ((exactly name).2 listed)] at absent
      cases absent
    · rename_i complete
      rw [List.find?_eq_none] at complete
      simp only [true_iff]
      intro name
      refine ⟨known name, fun listed => ?_⟩
      have present := complete name listed
      rw [← has_iff]
      simpa using present

/-- Both languages close the data of an event alike. -/
theorem hasExactMembers_iff {data : Value.Members} {names : List String}
    (distinct : (Value.keys data).Nodup) (different : names.Nodup) :
    hasExactMembers data names = true ↔
      closedEventData data names = .ok () := by
  rw [hasExactMembers, decide_eq_true_eq, sortedNames_eq_iff,
    List.perm_ext_iff_of_nodup distinct different, closedEventData_eq_ok]

/-! ## Instants -/

/-- Both languages accept the same instants. -/
theorem isCanonicalInstant_eq (text : String) :
    isCanonicalInstant text = isInstant text := by
  rw [isCanonicalInstant, isInstant, parseInstant]
  cases formed : instantGroups text.toList with
  | none => rfl
  | some groups =>
      rcases groups with
        ⟨years, months, days, hours, minutes, seconds, fraction⟩
      have lengths := (instantGroups_eq_some.1 formed).1
      rw [Bool.eq_iff_iff, isOk_eq_true]
      simp only [present, bind, Except.bind]
      by_cases digits : (years ++ months ++ days ++ hours ++ minutes ++
          seconds ++ fraction).all isDigit = true
      · have groupDigits := digits
        simp only [List.all_append, Bool.and_eq_true] at groupDigits
        have year := digitsValue_lt groupDigits.1.1.1.1.1.1
        have milliseconds := digitsValue_lt groupDigits.2
        rw [lengths.1] at year
        rw [lengths.2.2.2.2.2.2] at milliseconds
        rw [ensure, if_pos digits, digits]
        have month := daysInMonth_le (digitsValue years) (digitsValue months)
        have accepted :
            validFields (digitsValue years) (digitsValue months)
                (digitsValue days) (digitsValue hours) (digitsValue minutes)
                (digitsValue seconds) (digitsValue fraction * 1000) = true ↔
              1 ≤ digitsValue years ∧ 1 ≤ digitsValue months ∧
                digitsValue months ≤ 12 ∧ 1 ≤ digitsValue days ∧
                digitsValue days ≤
                  daysInMonth (digitsValue years) (digitsValue months) ∧
                digitsValue hours < 24 ∧ digitsValue minutes < 60 ∧
                digitsValue seconds < 60 := by
          simp only [validFields, Bool.and_eq_true, decide_eq_true_eq]
          omega
        simp only [Bool.true_and, Bool.and_eq_true, decide_eq_true_eq,
          ne_eq]
        by_cases valid :
            validFields (digitsValue years) (digitsValue months)
              (digitsValue days) (digitsValue hours) (digitsValue minutes)
              (digitsValue seconds) (digitsValue fraction * 1000) = true
        · have fields := accepted.1 valid
          rw [ensure, if_pos (by omega)]
          simp only [valid, dite_true, pure_eq_ok, exists_eq', iff_true]
          omega
        · have fields := fun held => valid (accepted.2 held)
          refine iff_of_false (fun held => fields (by omega)) ?_
          rintro ⟨found, parsed⟩
          simp only [valid, Bool.false_eq_true, dite_false] at parsed
          split at parsed
          · cases parsed
          · cases parsed
      · rw [ensure, if_neg digits]
        rw [Bool.not_eq_true] at digits
        simp only [digits, Bool.false_and, Bool.false_eq_true, false_iff]
        rintro ⟨found, parsed⟩
        cases parsed

/-! ## Verdicts -/

/-- Two verdicts on one input: the same value, or the same refusal code. -/
inductive SameVerdict {α : Type} :
    Except Problem α → Except ReducerFailure α → Prop where
  | accepted (value : α) : SameVerdict (.ok value) (.ok value)
  | refused {problem : Problem} {failure : ReducerFailure}
      (code : problem.refusal = failure.code) :
      SameVerdict (.error problem) (.error failure)

/-- A failure of the event's envelope or of its data. -/
def EventDataFailure (failure : ReducerFailure) : Prop :=
  failure.code = .eventData

/-- Checks that accept alike and refuse alike give the same verdict. -/
theorem sameVerdict_of_agree {α : Type} {left : Except Problem α}
    {right : Except ReducerFailure α} (agree : Agree left right)
    (problems : FailsOnly Problem.EventData left)
    (failures : FailsOnly EventDataFailure right) :
    SameVerdict left right := by
  cases left with
  | ok value =>
      rw [(agree value).1 rfl]
      exact .accepted value
  | error problem =>
      cases right with
      | ok value => cases (agree value).2 rfl
      | error failure =>
          have first := problems problem rfl
          have second := failures failure rfl
          exact .refused (first.trans second.symm)

theorem exists_unit {holds : Unit → Prop} :
    (∃ value, holds value) ↔ holds () :=
  ⟨fun ⟨_, held⟩ => held, fun held => ⟨(), held⟩⟩

theorem eventClass_text {found expected : EventClass} :
    isText (.text found.text) expected.text = true ↔ found = expected := by
  rw [isText_eq_true, Value.text.injEq]
  constructor
  · intro same
    cases found <;> cases expected <;> simp_all [EventClass.text]
  · rintro rfl
    rfl

theorem missionData_eq_some {data : Value.Members} {event : StateEvent} :
    missionData data = some event ↔
      hasExactMembers data ["lifecycle"] = true ∧
        ∃ lifecycle,
          spelled missionLifecycles MissionLifecycle.text
              (Value.get "lifecycle" data) = some lifecycle ∧
            .missionLifecycle lifecycle = event := by
  simp [missionData, Option.bind_eq_some_iff]

theorem connectivityData_eq_some {data : Value.Members}
    {event : StateEvent} :
    connectivityData data = some event ↔
      hasExactMembers data ["droneId", "connectivity"] = true ∧
        ∃ droneId,
          (Value.get "droneId" data = .text droneId ∧
              isIdentifier droneId = true) ∧
            ∃ link,
              spelled connectivities Connectivity.text
                  (Value.get "connectivity" data) = some link ∧
                .connectivity droneId link = event := by
  simp [connectivityData, Option.bind_eq_some_iff]

/-- A check of the class and then of the data refuses the event's data. -/
theorem classed_eventData {class_ : Prop} [Decidable class_]
    {data : Option StateEvent} {refused : ReducerFailure}
    (code : refused.code = .eventData) :
    FailsOnly EventDataFailure
      (ensure class_ refused >>= fun _ => present data refused) :=
  .bind (.ensure code) fun _ => .present code

theorem mission_sameVerdict {event : DashboardEvent} (document : Value)
    (distinct : (Value.keys event.data).Nodup) :
    SameVerdict (validateMissionEvent event)
      (kindData number accepts "missionLifecycle"
        (.text event.eventClass.text) event.data document) := by
  have exactly := @hasExactMembers_iff _ ["lifecycle"] distinct (by decide)
  refine sameVerdict_of_agree (fun read => ?_)
    (validateMissionEvent_eventData event) (classed_eventData rfl)
  have class_ : isText (.text event.eventClass.text) "MISSION" = true ↔
      event.eventClass = .mission := @eventClass_text _ .mission
  simp only [validateMissionEvent, bind_eq_ok, requireEventClass_eq_ok,
    enumMember_eq_ok, pure_eq_ok, kindData, ensure_eq_ok, present_eq_ok,
    missionData_eq_some, class_, exactly, exists_const, exists_unit]

theorem connectivity_sameVerdict {event : DashboardEvent} (document : Value)
    (distinct : (Value.keys event.data).Nodup) :
    SameVerdict (validateConnectivityEvent event)
      (kindData number accepts "connectivityChanged"
        (.text event.eventClass.text) event.data document) := by
  have exactly :=
    @hasExactMembers_iff _ ["droneId", "connectivity"] distinct (by decide)
  refine sameVerdict_of_agree (fun read => ?_)
    (validateConnectivityEvent_eventData event) (classed_eventData rfl)
  have class_ : isText (.text event.eventClass.text) "CONNECTIVITY" = true ↔
      event.eventClass = .connectivity := @eventClass_text _ .connectivity
  simp only [validateConnectivityEvent, bind_eq_ok, requireEventClass_eq_ok,
    enumMember_eq_ok, eventIdentifier_eq_ok, pure_eq_ok, kindData,
    ensure_eq_ok, present_eq_ok, connectivityData_eq_some, class_, exactly,
    exists_const, exists_unit]

/-! ## Telemetry -/

/-- The members of telemetry that hold an integer. -/
def telemetryNumbers : List String :=
  ["latitudeMicrodegrees", "longitudeMicrodegrees", "batteryPercent",
    "altitudeMetres", "headingDegrees", "groundSpeedCentimetresPerSecond"]

theorem telemetryData_eq_some {data : Value.Members} {event : StateEvent} :
    telemetryData number data = some event ↔
      hasExactMembers data telemetryMembers = true ∧
        ∃ droneId,
          (Value.get "droneId" data = .text droneId ∧
              isIdentifier droneId = true) ∧
            ∃ latitudeMicrodegrees,
              integerInRange number (Value.get "latitudeMicrodegrees" data)
                  (-90000000) 90000000 = some latitudeMicrodegrees ∧
            ∃ longitudeMicrodegrees,
              integerInRange number (Value.get "longitudeMicrodegrees" data)
                  (-180000000) 180000000 = some longitudeMicrodegrees ∧
            ∃ batteryPercent,
              integerInRange number (Value.get "batteryPercent" data) 0
                  100 = some batteryPercent ∧
            ∃ altitudeMetres,
              integerInRange number (Value.get "altitudeMetres" data) (-500)
                  20000 = some altitudeMetres ∧
            ∃ headingDegrees,
              integerInRange number (Value.get "headingDegrees" data) 0
                  359 = some headingDegrees ∧
            ∃ groundSpeedCentimetresPerSecond,
              integerInRange number
                  (Value.get "groundSpeedCentimetresPerSecond" data) 0
                  10000 = some groundSpeedCentimetresPerSecond ∧
                .telemetry droneId
                  { latitudeMicrodegrees, longitudeMicrodegrees,
                    batteryPercent, altitudeMetres, headingDegrees,
                    groundSpeedCentimetresPerSecond } = event := by
  simp [telemetryData, Option.bind_eq_some_iff]

theorem telemetry_sameVerdict {event : DashboardEvent} (document : Value)
    (distinct : (Value.keys event.data).Nodup)
    (plain : ∀ name ∈ telemetryNumbers,
      NotReal (Value.get name event.data)) :
    SameVerdict (validateTelemetryEvent event)
      (kindData number accepts "droneTelemetry"
        (.text event.eventClass.text) event.data document) := by
  have exactly : hasExactMembers event.data telemetryMembers = true ↔
      closedEventData event.data
        ["droneId", "latitudeMicrodegrees", "longitudeMicrodegrees",
          "batteryPercent", "altitudeMetres", "headingDegrees",
          "groundSpeedCentimetresPerSecond"] = .ok () :=
    hasExactMembers_iff distinct (by decide)
  have class_ : isText (.text event.eventClass.text) "TELEMETRY" = true ↔
      event.eventClass = .telemetry := @eventClass_text _ .telemetry
  have reads (name : String) (listed : name ∈ telemetryNumbers)
      (minimum maximum : Int) (low : -9007199254740991 ≤ minimum)
      (high : maximum ≤ 9007199254740991) (found : Int) :=
    @integerInRange_eq_some number _ minimum maximum found low high
      (plain name listed)
  have latitude := reads "latitudeMicrodegrees" (by decide) (-90000000)
    90000000 (by decide) (by decide)
  have longitude := reads "longitudeMicrodegrees" (by decide) (-180000000)
    180000000 (by decide) (by decide)
  have battery := reads "batteryPercent" (by decide) 0 100 (by decide)
    (by decide)
  have altitude := reads "altitudeMetres" (by decide) (-500) 20000
    (by decide) (by decide)
  have heading := reads "headingDegrees" (by decide) 0 359 (by decide)
    (by decide)
  have speed := reads "groundSpeedCentimetresPerSecond" (by decide) 0 10000
    (by decide) (by decide)
  refine sameVerdict_of_agree (fun read => ?_)
    (validateTelemetryEvent_eventData event) (classed_eventData rfl)
  simp only [validateTelemetryEvent, bind_eq_ok, requireEventClass_eq_ok,
    eventIdentifier_eq_ok, boundedInteger_eq_ok, pure_eq_ok, kindData,
    ensure_eq_ok, present_eq_ok, class_, exists_const, exists_unit,
    telemetryData_eq_some, exactly, latitude, longitude, battery, altitude,
    heading, speed]

/-- Python refuses telemetry that holds a real. -/
theorem validateTelemetryEvent_real {event : DashboardEvent} {name : String}
    {repr : String} (listed : name ∈ telemetryNumbers)
    (real : Value.get name event.data = .float repr) :
    ∃ problem, validateTelemetryEvent event = .error problem ∧
      problem.EventData := by
  cases verdict : validateTelemetryEvent event with
  | error problem =>
      exact ⟨problem, rfl, validateTelemetryEvent_eventData event _ verdict⟩
  | ok read =>
      simp only [validateTelemetryEvent, bind_eq_ok,
        boundedInteger_eq_ok] at verdict
      rcases verdict with
        ⟨_, _, _, _, _, _, _, ⟨latitude, _⟩, _, ⟨longitude, _⟩,
          _, ⟨battery, _⟩, _, ⟨altitude, _⟩, _, ⟨heading, _⟩,
          _, ⟨speed, _⟩, _⟩
      simp only [telemetryNumbers, List.mem_cons, List.not_mem_nil,
        or_false] at listed
      rcases listed with rfl | rfl | rfl | rfl | rfl | rfl
      · cases real.symm.trans latitude
      · cases real.symm.trans longitude
      · cases real.symm.trans battery
      · cases real.symm.trans altitude
      · cases real.symm.trans heading
      · cases real.symm.trans speed

/-! ## Kinds that change no state -/

theorem kindData_timeline {kind : String} {expected : EventClass}
    (listed : timelineEventClass kind = some expected)
    (eventClass : Value) (data : Value.Members) (document : Value) :
    kindData number accepts kind eventClass data document = (do
      ensure (accepts (timelineCandidate document) = true)
        (failure .eventData "data" (.object data))
      pure .timeline) := by
  unfold kindData
  split
  · cases listed
  · cases listed
  · cases listed
  · cases listed
  · rfl

theorem timeline_sameVerdict {event : DashboardEvent}
    {expected : EventClass} (document : Value)
    (listed : timelineEventClass event.kind = some expected)
    (bound : event.eventClass = expected ↔
      accepts (timelineCandidate document) = true) :
    SameVerdict (validateTimelineEvent event expected)
      (kindData number accepts event.kind (.text event.eventClass.text)
        event.data document) := by
  rw [kindData_timeline listed]
  refine sameVerdict_of_agree (fun read => ?_)
    (validateTimelineEvent_eventData event expected)
    (.bind (.ensure rfl) fun _ => .ok _)
  simp only [validateTimelineEvent, bind_eq_ok, requireEventClass_eq_ok,
    pure_eq_ok, ensure_eq_ok, bound]

/-! ## Sectors -/

/-- What `_validate_sector_event` reads before the assignee. -/
def sectorHead (event : DashboardEvent) :
    Except Problem (String × SectorState) := do
  requireEventClass event .mission
  closedEventData event.data ["sectorId", "state", "assignedMemberId"]
  let sectorId ← eventIdentifier event.data "sectorId"
  let sectorState ← enumMember sectorStates SectorState.text
    event.data "state"
  pure (sectorId, sectorState)

theorem validateSectorEvent_head (event : DashboardEvent) :
    validateSectorEvent event = (do
      let head ← sectorHead event
      let assignee ← sectorAssignee event.data head.2
      pure (.sectorLifecycle head.1 head.2 assignee)) := by
  unfold validateSectorEvent sectorHead
  simp only [bind_assoc, pure_bind]

theorem sectorHead_eventData (event : DashboardEvent) :
    FailsOnly Problem.EventData (sectorHead event) :=
  .bind (requireEventClass_eventData event .mission) fun _ =>
    .bind (closedEventData_eventData event.data _) fun _ =>
      .bind (eventIdentifier_eventData event.data "sectorId") fun _ =>
        .bind (enumMember_eventData _ _ event.data "state") fun _ => .ok _

/-- The browser reads the same head, and the assignee with it. -/
theorem sectorForm_of_head {event : DashboardEvent} {sectorId : String}
    {sectorState : SectorState} (distinct : (Value.keys event.data).Nodup)
    (head : sectorHead event = .ok (sectorId, sectorState)) :
    sectorForm event.data =
      (assigneeValue (Value.get "assignedMemberId" event.data)).map
        fun assignee => (sectorId, sectorState, assignee) := by
  simp only [sectorHead, bind_eq_ok, eventIdentifier_eq_ok,
    enumMember_eq_ok, pure_eq_ok, Prod.mk.injEq] at head
  rcases head with ⟨_, _, _, closed, _, named, _, spelt, rfl, rfl⟩
  have exactly := (@hasExactMembers_iff _
    ["sectorId", "state", "assignedMemberId"] distinct (by decide)).2 closed
  unfold sectorForm
  rw [exactly, identifier_eq_some.2 named, spelt]
  cases assigneeValue (Value.get "assignedMemberId" event.data) with
  | none => rfl
  | some assignee => rfl

theorem sectorForm_of_refused {event : DashboardEvent} {problem : Problem}
    (distinct : (Value.keys event.data).Nodup)
    (refused : sectorHead event = .error problem)
    (class_ : event.eventClass = .mission) :
    sectorForm event.data = none := by
  cases form : sectorForm event.data with
  | none => rfl
  | some read =>
      simp only [sectorForm, guard, Option.bind_eq_bind,
        Option.bind_eq_some_iff, identifier_eq_some] at form
      rcases form with ⟨_, exactly, sectorId, named, sectorState, spelt, _⟩
      have closed := (@hasExactMembers_iff _
        ["sectorId", "state", "assignedMemberId"] distinct
          (by decide)).1 (by
            by_contra other
            rw [if_neg other] at exactly
            cases exactly)
      have head : sectorHead event = .ok (sectorId, sectorState) := by
        simp only [sectorHead, bind_eq_ok, requireEventClass_eq_ok,
          eventIdentifier_eq_ok, enumMember_eq_ok, pure_eq_ok]
        exact ⟨(), class_, (), closed, sectorId, named, sectorState, spelt,
          rfl⟩
      rw [head] at refused
      cases refused

/-- A sector event that leaves its sector unassigned names an assignee that
is no identifier. -/
def ForeignAssignee (event : DashboardEvent) : Prop :=
  (∃ sectorId, sectorHead event = .ok (sectorId, .unassigned)) ∧
    Value.get "assignedMemberId" event.data ≠ .null ∧
    identifier (Value.get "assignedMemberId" event.data) = none

theorem sectorAssignee_foreign {data : Value.Members}
    (named : Value.get "assignedMemberId" data ≠ .null) :
    sectorAssignee data .unassigned =
      .error ⟨.assignmentForbidden, "assignedMemberId",
        .value (Value.get "assignedMemberId" data)⟩ := by
  unfold sectorAssignee
  split
  · rename_i absent
    exact absurd absent named
  · rw [if_pos rfl]

theorem assigneeValue_named {value : Value} (named : value ≠ .null) :
    assigneeValue value = (identifier value).map some := by
  cases value with
  | null => exact absurd rfl named
  | _ => rfl

/-- Both languages read an assignee alike, unless it is foreign. -/
theorem assignee_sameVerdict {data : Value.Members} {sectorId : String}
    {sectorState : SectorState}
    (form : sectorForm data =
      (assigneeValue (Value.get "assignedMemberId" data)).map
        fun assignee => (sectorId, sectorState, assignee))
    (domestic : ¬(sectorState = .unassigned ∧
      Value.get "assignedMemberId" data ≠ .null ∧
        identifier (Value.get "assignedMemberId" data) = none)) :
    SameVerdict
      (do
        let assignee ← sectorAssignee data sectorState
        pure (.sectorLifecycle sectorId sectorState assignee))
      (sectorData data) := by
  rw [sectorData, form]
  cases read : identifier (Value.get "assignedMemberId" data) with
  | none =>
      by_cases absent : Value.get "assignedMemberId" data = .null
      · rw [absent]
        unfold sectorAssignee
        rw [absent]
        by_cases unassigned : sectorState = .unassigned
        · subst unassigned
          exact .accepted _
        · simp only [ensure, assigneeValue, Option.map_some, present, bind,
            Except.bind, not_false_eq_true, ne_eq, unassigned, if_true,
            and_self, not_true]
          exact .refused rfl
      · have assigned : sectorState ≠ .unassigned := fun unassigned =>
          domestic ⟨unassigned, absent, read⟩
        have refused : ∃ problem,
            eventIdentifier data "assignedMemberId" = .error problem ∧
              problem.EventData := by
          cases verdict : eventIdentifier data "assignedMemberId" with
          | error problem =>
              exact ⟨problem, rfl,
                eventIdentifier_eventData data _ _ verdict⟩
          | ok found =>
              have formed :=
                identifier_eq_some.2 (eventIdentifier_eq_ok.1 verdict)
              rw [read] at formed
              cases formed
        rcases refused with ⟨problem, verdict, code⟩
        rw [assigneeValue_named absent, read]
        unfold sectorAssignee
        split
        · rename_i null
          exact absurd null absent
        · rw [if_neg assigned, verdict]
          exact .refused code
  | some found =>
      have text := identifier_eq_some.1 read
      have verdict : eventIdentifier data "assignedMemberId" = .ok found :=
        eventIdentifier_eq_ok.2 text
      unfold sectorAssignee
      rw [text.1]
      have value : assigneeValue (.text found) = some (some found) := by
        have named : Value.text found ≠ .null := by simp
        rw [assigneeValue_named named, identifier_eq_some.2 ⟨rfl, text.2⟩]
        rfl
      rw [value]
      by_cases unassigned : sectorState = .unassigned
      · subst unassigned
        exact .refused rfl
      · simp only [if_neg unassigned, verdict]
        simp [ensure, unassigned, present, bind, Except.bind, Except.map,
          pure, Except.pure]
        exact .accepted _

theorem sector_sameVerdict {event : DashboardEvent} (document : Value)
    (distinct : (Value.keys event.data).Nodup)
    (domestic : ¬ForeignAssignee event) :
    SameVerdict (validateSectorEvent event)
      (kindData number accepts "sectorLifecycle"
        (.text event.eventClass.text) event.data document) := by
  rw [validateSectorEvent_head]
  have class_ : isText (.text event.eventClass.text) "MISSION" = true ↔
      event.eventClass = .mission := @eventClass_text _ .mission
  simp only [kindData]
  cases head : sectorHead event with
  | error problem =>
      have code := sectorHead_eventData event _ head
      by_cases mission : event.eventClass = .mission
      · rw [ensure, if_pos (class_.2 mission), sectorData,
          sectorForm_of_refused distinct head mission]
        exact .refused code
      · rw [ensure, if_neg fun held => mission (class_.1 held)]
        exact .refused code
  | ok read =>
      have mission : event.eventClass = .mission := by
        simp only [sectorHead, bind_eq_ok, requireEventClass_eq_ok] at head
        exact head.choose_spec.1
      rw [ensure, if_pos (class_.2 mission)]
      refine assignee_sameVerdict (sectorForm_of_head distinct head) ?_
      rintro ⟨unassigned, foreign⟩
      refine domestic ⟨⟨read.1, ?_⟩, foreign⟩
      rw [head, ← unassigned]

/-- On a foreign assignee the reducers refuse with different codes. -/
theorem sector_foreign {event : DashboardEvent} (document : Value)
    (distinct : (Value.keys event.data).Nodup)
    (foreign : ForeignAssignee event) :
    (∃ problem, validateSectorEvent event = .error problem ∧
        problem.refusal = .assignmentForbidden) ∧
      ∃ failure,
        kindData number accepts "sectorLifecycle"
            (.text event.eventClass.text) event.data document =
              .error failure ∧
          failure.code = .eventData := by
  rcases foreign with ⟨⟨sectorId, head⟩, named, other⟩
  have mission : event.eventClass = .mission := by
    simp only [sectorHead, bind_eq_ok, requireEventClass_eq_ok] at head
    exact head.choose_spec.1
  have class_ : isText (.text event.eventClass.text) "MISSION" = true :=
    (@eventClass_text _ .mission).2 mission
  constructor
  · rw [validateSectorEvent_head, head]
    refine ⟨⟨.assignmentForbidden, "assignedMemberId",
      .value (Value.get "assignedMemberId" event.data)⟩, ?_, rfl⟩
    simp only [bind, Except.bind, sectorAssignee_foreign named]
  · refine ⟨failure .eventData "data" (.object event.data), ?_, rfl⟩
    simp only [kindData]
    rw [ensure, if_pos class_, sectorData,
      sectorForm_of_head distinct head, assigneeValue_named named, other]
    rfl

/-! ## The event boundary -/

/-- The document of an ordered event, as the browser receives it. -/
def documentOf (ordered : OrderedDashboardEvent) : Value :=
  .object
    [ ("auditOrdinal", .int ordered.auditOrdinal),
      ("event", eventDocument ordered.event) ]

/-- The event that passes both boundaries, once its data is read. -/
def boundEvent (ordered : OrderedDashboardEvent) (event : StateEvent) :
    BoundEvent :=
  ⟨ordered.auditOrdinal, ordered.event.mission, event⟩

/-- The ordinal, the mission and the instant of an event have their forms. -/
structure Enveloped (ordered : OrderedDashboardEvent) : Prop where
  ordinal :
    1 ≤ ordered.auditOrdinal ∧ ordered.auditOrdinal ≤ maxSafeInteger
  mission : isIdentifier ordered.event.mission = true
  time : isInstant ordered.event.time = true

theorem timelineEventClass_listed {kind : String} {expected : EventClass}
    (listed : timelineEventClass kind = some expected) :
    kind ∈ dashboardEventKinds := by
  unfold timelineEventClass at listed
  split at listed
  iterate 9
    · decide
  · cases listed

/-- Both languages project the same kinds. -/
theorem boundaryValidator_isSome {kind : String} :
    (boundaryValidator kind).isSome = true ↔ kind ∈ dashboardEventKinds := by
  constructor
  · intro chosen
    unfold boundaryValidator at chosen
    split at chosen
    · decide
    · decide
    · decide
    · decide
    · rw [Option.isSome_map] at chosen
      rcases Option.isSome_iff_exists.1 chosen with ⟨expected, listed⟩
      exact timelineEventClass_listed listed
  · intro listed
    simp only [dashboardEventKinds, List.mem_cons, List.not_mem_nil,
      or_false] at listed
    rcases listed with rfl | rfl | rfl | rfl | rfl | rfl | rfl | rfl | rfl |
      rfl | rfl | rfl | rfl <;> rfl

/-- The members of an event's document. -/
def eventMembers (event : DashboardEvent) : Value.Members :=
  [ ("kind", .text event.kind),
    ("eventClass", .text event.eventClass.text),
    ("mission", .text event.mission),
    ("time", .text event.time),
    ("data", .object event.data) ]

theorem commonEvent_eventMembers (event : DashboardEvent) :
    commonEvent (eventDocument event) (eventMembers event) = (do
      let mission ← present (identifier (.text event.mission))
        (failure .eventData "mission" (.text event.mission))
      ensure (isInstant event.time = true)
        (failure .eventData "time" (.text event.time))
      pure mission) := by
  have members : hasExactMembers (eventMembers event)
      ["kind", "eventClass", "mission", "time", "data"] = true := by
    rw [hasExactMembers, decide_eq_true_eq]
    rfl
  rw [← isCanonicalInstant_eq, commonEvent, ensure, if_pos members]
  rfl

/-- What the browser makes of the document of an event. -/
theorem eventData_eventDocument (event : DashboardEvent) :
    eventData number accepts (eventDocument event) = (do
      ensure (event.kind ∈ dashboardEventKinds)
        (failure .unprojected "kind" (.text event.kind))
      let mission ← present (identifier (.text event.mission))
        (failure .eventData "mission" (.text event.mission))
      ensure (isInstant event.time = true)
        (failure .eventData "time" (.text event.time))
      let read ← kindData number accepts event.kind
        (.text event.eventClass.text) event.data (eventDocument event)
      pure (mission, read)) := by
  have common := commonEvent_eventMembers event
  calc eventData number accepts (eventDocument event)
      = (do
          ensure (event.kind ∈ dashboardEventKinds)
            (failure .unprojected "kind" (.text event.kind))
          let mission ← commonEvent (eventDocument event)
            (eventMembers event)
          let read ← kindData number accepts event.kind
            (.text event.eventClass.text) event.data (eventDocument event)
          pure (mission, read)) := rfl
    _ = _ := by simp only [common, bind_assoc, pure_bind]

/-- What the browser's boundary makes of an ordered event's document. -/
theorem orderedEventBoundary_documentOf (ordered : OrderedDashboardEvent) :
    orderedEventBoundary number accepts (documentOf ordered) = (do
      ensure (1 ≤ ordered.auditOrdinal ∧
          ordered.auditOrdinal ≤ maxSafeInteger)
        (failure .eventData "auditOrdinal" (.int ordered.auditOrdinal))
      ensure (ordered.event.kind ∈ dashboardEventKinds)
        (failure .unprojected "kind" (.text ordered.event.kind))
      ensure (isIdentifier ordered.event.mission = true)
        (failure .eventData "mission" (.text ordered.event.mission))
      ensure (isInstant ordered.event.time = true)
        (failure .eventData "time" (.text ordered.event.time))
      let read ← kindData number accepts ordered.event.kind
        (.text ordered.event.eventClass.text) ordered.event.data
        (eventDocument ordered.event)
      pure (boundEvent ordered read)) := by
  have wrapper : hasExactMembers
      [ ("auditOrdinal", .int ordered.auditOrdinal),
        ("event", eventDocument ordered.event) ]
      ["auditOrdinal", "event"] = true := by
    rw [hasExactMembers, decide_eq_true_eq]
    rfl
  have range := @integerInRange_int number ordered.auditOrdinal 1
    maxSafeNumber (by decide) (by decide)
  have safe : (maxSafeNumber : Int) = maxSafeInteger := rfl
  calc orderedEventBoundary number accepts (documentOf ordered)
      = (do
          ensure
            (hasExactMembers
              [ ("auditOrdinal", .int ordered.auditOrdinal),
                ("event", eventDocument ordered.event) ]
              ["auditOrdinal", "event"] = true)
            (failure .eventData "auditOrdinal" (.int ordered.auditOrdinal))
          let auditOrdinal ← present
            (integerInRange number (.int ordered.auditOrdinal) 1
              maxSafeNumber)
            (failure .eventData "auditOrdinal" (.int ordered.auditOrdinal))
          let data ← eventData number accepts (eventDocument ordered.event)
          pure ⟨auditOrdinal, data.1, data.2⟩) := rfl
    _ = _ := by
      have mission : identifier (.text ordered.event.mission) =
          if isIdentifier ordered.event.mission = true then
            some ordered.event.mission else none := rfl
      rw [eventData_eventDocument, range, safe, mission, ensure,
        if_pos wrapper]
      simp only [present_ite, bind_assoc]
      rfl

/-! ## Where the boundaries part -/

/-- Telemetry that the browser alone accepts: a real stands for an integer. -/
def RealTelemetry (number : String → Double) (event : DashboardEvent) :
    Prop :=
  event.kind = "droneTelemetry" ∧ event.eventClass = .telemetry ∧
    (telemetryData number event.data).isSome = true ∧
      ∃ name ∈ telemetryNumbers, ∃ repr,
        Value.get name event.data = .float repr

/-- A sector event that is refused with two different codes. -/
def ForeignSector (event : DashboardEvent) : Prop :=
  event.kind = "sectorLifecycle" ∧ ForeignAssignee event

/-- An event without a change of state that one language alone accepts: one
reads its class, the other the whole of it. -/
def TimelineSplit (accepts : Value → Bool) (event : DashboardEvent) : Prop :=
  ∃ expected, timelineEventClass event.kind = some expected ∧
    ¬(event.eventClass = expected ↔
      accepts (timelineCandidate (eventDocument event)) = true)

/-- The boundaries give different verdicts on an event. -/
structure Divides (number : String → Double) (accepts : Value → Bool)
    (ordered : OrderedDashboardEvent) : Prop where
  enveloped : Enveloped ordered
  split :
    RealTelemetry number ordered.event ∨ ForeignSector ordered.event ∨
      TimelineSplit accepts ordered.event

/-- Two verdicts on one input that differ: one language refuses its data, or
they refuse with different codes. -/
inductive Parted {α β : Type} :
    Except Problem α → Except ReducerFailure β → Prop where
  | browserAccepts {problem : Problem} {value : β}
      (malformed : problem.EventData) : Parted (.error problem) (.ok value)
  | contractsAccept {value : α} {failure : ReducerFailure}
      (malformed : EventDataFailure failure) :
      Parted (.ok value) (.error failure)
  | codes {problem : Problem} {failure : ReducerFailure}
      (differ : problem.refusal ≠ failure.code) :
      Parted (.error problem) (.error failure)

/-- The data of an event has one verdict, unless the event is split. -/
theorem data_sameVerdict {event : DashboardEvent}
    {validator : DashboardEvent → Except Problem StateEvent}
    (chosen : boundaryValidator event.kind = some validator)
    (distinct : (Value.keys event.data).Nodup)
    (real : ¬RealTelemetry number event) (foreign : ¬ForeignSector event)
    (split : ¬TimelineSplit accepts event) :
    SameVerdict (validator event)
      (kindData number accepts event.kind (.text event.eventClass.text)
        event.data (eventDocument event)) := by
  generalize kind : event.kind = name at chosen
  unfold boundaryValidator at chosen
  split at chosen
  · cases chosen
    exact mission_sameVerdict _ distinct
  · cases chosen
    exact connectivity_sameVerdict _ distinct
  · cases chosen
    by_cases plain : ∀ name ∈ telemetryNumbers,
        NotReal (Value.get name event.data)
    · exact telemetry_sameVerdict _ distinct plain
    · simp only [NotReal, not_forall, ne_eq, not_not] at plain
      rcases plain with ⟨name, listed, repr, held⟩
      rcases validateTelemetryEvent_real listed held with
        ⟨problem, refused, malformed⟩
      rw [refused]
      cases read : kindData number accepts "droneTelemetry"
          (.text event.eventClass.text) event.data (eventDocument event) with
      | error failure =>
          have code : EventDataFailure failure :=
            classed_eventData rfl failure read
          exact .refused (malformed.trans code.symm)
      | ok stateEvent =>
          simp only [kindData, bind_eq_ok, ensure_eq_ok,
            present_eq_ok] at read
          rcases read with ⟨_, class_, accepted⟩
          exact absurd
            ⟨kind, (@eventClass_text _ .telemetry).1 class_,
              by rw [accepted]; rfl, name, listed, repr, held⟩ real
  · cases chosen
    exact sector_sameVerdict _ distinct fun held => foreign ⟨kind, held⟩
  · rcases Option.map_eq_some_iff.1 chosen with ⟨expected, listed, rfl⟩
    rw [← kind] at listed ⊢
    refine timeline_sameVerdict _ listed ?_
    by_contra parted
    exact split ⟨expected, listed, parted⟩

/-- The data of an event that is split has two verdicts. -/
theorem data_parted {event : DashboardEvent}
    {validator : DashboardEvent → Except Problem StateEvent}
    (chosen : boundaryValidator event.kind = some validator)
    (distinct : (Value.keys event.data).Nodup)
    (split : RealTelemetry number event ∨ ForeignSector event ∨
      TimelineSplit accepts event) :
    Parted (validator event)
      (kindData number accepts event.kind (.text event.eventClass.text)
        event.data (eventDocument event)) := by
  rcases split with ⟨kind, class_, accepted, name, listed, repr, held⟩ |
    ⟨kind, foreign⟩ | ⟨expected, listed, parted⟩
  · rw [kind] at chosen ⊢
    cases chosen
    rcases validateTelemetryEvent_real listed held with
      ⟨problem, refused, malformed⟩
    rcases Option.isSome_iff_exists.1 accepted with ⟨stateEvent, read⟩
    have text : isText (.text event.eventClass.text) "TELEMETRY" = true :=
      (@eventClass_text _ .telemetry).2 class_
    have browser : kindData number accepts "droneTelemetry"
        (.text event.eventClass.text) event.data (eventDocument event) =
          .ok stateEvent := by
      simp only [kindData, bind_eq_ok, ensure_eq_ok, present_eq_ok]
      exact ⟨(), text, read⟩
    rw [refused, browser]
    exact .browserAccepts malformed
  · rw [kind] at chosen ⊢
    cases chosen
    rcases @sector_foreign number accepts _ (eventDocument event) distinct
        foreign with
      ⟨⟨problem, refused, first⟩, failure, other, second⟩
    rw [refused, other]
    refine .codes ?_
    rw [first, second]
    decide
  · have validated : validator event = validateTimelineEvent event expected := by
      generalize event.kind = name at chosen listed
      unfold boundaryValidator at chosen
      split at chosen
      · cases listed
      · cases listed
      · cases listed
      · cases listed
      · rw [listed] at chosen
        cases chosen
        rfl
    rw [validated, kindData_timeline listed, validateTimelineEvent,
      requireEventClass]
    unfold ensure
    by_cases class_ : event.eventClass = expected
    · have refused :
          ¬accepts (timelineCandidate (eventDocument event)) = true :=
        fun held => parted (iff_of_true class_ held)
      rw [if_pos class_, if_neg refused]
      exact .contractsAccept rfl
    · have accepted :
          accepts (timelineCandidate (eventDocument event)) = true := by
        by_contra refused
        exact parted (iff_of_false class_ refused)
      rw [if_neg class_, if_pos accepted]
      exact .browserAccepts rfl

/-! ## The verdicts of the boundaries -/

theorem SameVerdict.ensure {α : Type} {left : Except Problem α}
    {right : Except ReducerFailure α} {condition : Prop}
    [Decidable condition] {problem : Problem} {failure : ReducerFailure}
    (code : problem.refusal = failure.code)
    (rest : condition → SameVerdict left right) :
    SameVerdict (ensure condition problem >>= fun _ => left)
      (ensure condition failure >>= fun _ => right) := by
  unfold AerialRescue.Lib.Guard.ensure
  by_cases holds : condition
  · rw [if_pos holds, if_pos holds]
    exact rest holds
  · rw [if_neg holds, if_neg holds]
    exact .refused code

theorem SameVerdict.map {α β : Type} {left : Except Problem α}
    {right : Except ReducerFailure α} {change : α → β}
    (same : SameVerdict left right) :
    SameVerdict (left.map change) (right.map change) := by
  cases same with
  | accepted value => exact .accepted _
  | refused code => exact .refused code

theorem SameVerdict.bind {α β : Type} {left : Except Problem α}
    {right : Except ReducerFailure α} {next : α → Except Problem β}
    {other : α → Except ReducerFailure β} (first : SameVerdict left right)
    (rest : ∀ value, left = .ok value →
      SameVerdict (next value) (other value)) :
    SameVerdict (left >>= next) (right >>= other) := by
  cases first with
  | accepted value => exact rest value rfl
  | refused code => exact .refused code

theorem map_bind {α β γ : Type} {body : Except Problem α}
    {next : α → Except Problem β} {change : β → γ} :
    (body >>= next).map change = body >>= fun value =>
      (next value).map change := by
  cases body <;> rfl

/-- An event that has no split passes both boundaries alike. -/
theorem boundary_sameVerdict {ordered : OrderedDashboardEvent}
    (distinct : (Value.keys ordered.event.data).Nodup)
    (united : ¬Divides number accepts ordered) :
    SameVerdict
      ((validateOrderedEventBoundary ordered).map (boundEvent ordered))
      (orderedEventBoundary number accepts (documentOf ordered)) := by
  rw [orderedEventBoundary_documentOf, validateOrderedEventBoundary, map_bind]
  refine .ensure rfl fun ordinal => ?_
  cases chosen : boundaryValidator ordered.event.kind with
  | none =>
      have unlisted : ordered.event.kind ∉ dashboardEventKinds := by
        rw [← boundaryValidator_isSome, chosen]
        decide
      rw [ensure_eq_error.2 ⟨unlisted, rfl⟩]
      exact .refused rfl
  | some validator =>
      have listed : ordered.event.kind ∈ dashboardEventKinds :=
        boundaryValidator_isSome.1 (by rw [chosen]; rfl)
      rw [ensure_of listed]
      simp only [present, bind, Except.bind]
      change SameVerdict
        (Except.map _
          (ensure _ _ >>= fun _ => ensure _ _ >>= fun _ => validator _))
        (ensure _ _ >>= fun _ => ensure _ _ >>= fun _ => _)
      rw [map_bind]
      refine .ensure rfl fun mission => ?_
      rw [map_bind]
      refine .ensure rfl fun time => ?_
      have enveloped : Enveloped ordered := ⟨ordinal, mission, time⟩
      exact (data_sameVerdict chosen distinct
        (fun real => united ⟨enveloped, .inl real⟩)
        (fun foreign => united ⟨enveloped, .inr (.inl foreign)⟩)
        (fun split => united ⟨enveloped, .inr (.inr split)⟩)).map

/-- A split event meets two verdicts at the boundaries. -/
theorem boundary_parted {ordered : OrderedDashboardEvent}
    (distinct : (Value.keys ordered.event.data).Nodup)
    (divides : Divides number accepts ordered) :
    Parted (validateOrderedEventBoundary ordered)
      (orderedEventBoundary number accepts (documentOf ordered)) := by
  have chosen : ∃ validator,
      boundaryValidator ordered.event.kind = some validator := by
    rcases divides.split with ⟨kind, _⟩ | ⟨kind, _⟩ | ⟨_, listed, _⟩
    · exact ⟨_, by rw [kind]; rfl⟩
    · exact ⟨_, by rw [kind]; rfl⟩
    · exact Option.isSome_iff_exists.1
        (boundaryValidator_isSome.2 (timelineEventClass_listed listed))
  rcases chosen with ⟨validator, chosen⟩
  have listed : ordered.event.kind ∈ dashboardEventKinds :=
    boundaryValidator_isSome.1 (by rw [chosen]; rfl)
  have parted := @data_parted number accepts _ _ chosen distinct
    divides.split
  have envelope := divides.enveloped
  rw [orderedEventBoundary_documentOf, validateOrderedEventBoundary, chosen]
  simp only [ensure_of envelope.ordinal, ensure_of envelope.mission,
    ensure_of envelope.time, ensure_of listed, present, bind, Except.bind]
  generalize validator ordered.event = verdict at parted ⊢
  generalize kindData number accepts ordered.event.kind
    (.text ordered.event.eventClass.text) ordered.event.data
    (eventDocument ordered.event) = other at parted ⊢
  cases parted with
  | browserAccepts malformed => exact .browserAccepts malformed
  | contractsAccept malformed => exact .contractsAccept malformed
  | codes differ => exact .codes differ

end AerialRescue.Dashboard.ReducerParity
