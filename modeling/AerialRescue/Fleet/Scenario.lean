import AerialRescue.Contracts.Topics
import AerialRescue.Domain.Connectivity
import AerialRescue.Lib.Mapping
import Mathlib.Data.List.Sort

/-!
# Fleet scenarios

The frozen value that one run of the fleet folds: the roster with the leg each
drone flies, the connectivity counts, the ticks a sector takes to sweep, and
the ticks at which a drone's heartbeat is absent.  The value is checked once,
when it is built.
-/

namespace AerialRescue.Fleet.Scenario

open AerialRescue.Contracts.Topics
open AerialRescue.Domain.Connectivity
open AerialRescue.Lib
open AerialRescue.Lib.Guard

/-! ## Bounds -/

/-- One inclusive integer range of the committed schema. -/
structure Bound where
  low : Int
  high : Int
deriving DecidableEq

/-- `Bound.holds` -/
def Bound.Holds (bound : Bound) (value : Int) : Prop :=
  bound.low ≤ value ∧ value ≤ bound.high

instance (bound : Bound) (value : Int) : Decidable (bound.Holds value) :=
  inferInstanceAs (Decidable (_ ∧ _))

/-- `LATITUDE_MICRODEGREES` -/
def latitudeMicrodegrees : Bound := ⟨-90000000, 90000000⟩

/-- `LONGITUDE_MICRODEGREES` -/
def longitudeMicrodegrees : Bound := ⟨-180000000, 180000000⟩

/-- `ALTITUDE_METRES` -/
def altitudeMetres : Bound := ⟨-500, 20000⟩

/-- `HEADING_DEGREES` -/
def headingDegrees : Bound := ⟨0, 359⟩

/-- `GROUND_SPEED_CENTIMETRES_PER_SECOND` -/
def groundSpeedCentimetresPerSecond : Bound := ⟨0, 10000⟩

/-- `PERCENT` -/
def percent : Bound := ⟨0, 100⟩

/-- `PERMILLE_PER_PERCENT` -/
def permillePerPercent : Int := 10

/-- `BATTERY_PERMILLE` -/
def batteryPermille : Bound :=
  ⟨percent.low * permillePerPercent, percent.high * permillePerPercent⟩

/-- `NORTH_MICRODEGREES_PER_TICK` -/
def northMicrodegreesPerTick : Bound :=
  ⟨-latitudeMicrodegrees.high, latitudeMicrodegrees.high⟩

/-- `EAST_MICRODEGREES_PER_TICK` -/
def eastMicrodegreesPerTick : Bound :=
  ⟨-longitudeMicrodegrees.high, longitudeMicrodegrees.high⟩

/-! ## Refusals -/

/-- `ScenarioRefusal`, why a scenario cannot be built. -/
inductive ScenarioRefusal where
  | emptyRoster
  | duplicateDrone
  | duplicateSector
  | identifierForm
  | outOfRange
  | nonPositive
  | motionDisagreement
  | unknownDrone
  | negativeTick
deriving DecidableEq

/-- What a refused scenario is refused about. -/
inductive ScenarioSubject where
  | nothing
  | named (text : String)
  | tick (ordinal : Int)
deriving DecidableEq

/-- `ScenarioError` -/
structure ScenarioError where
  refusal : ScenarioRefusal
  subject : ScenarioSubject
deriving DecidableEq

/-- `_identifier` -/
def checkIdentifier (value member : String) : Except ScenarioError Unit :=
  ensure (isIdentifier value = true) ⟨.identifierForm, .named member⟩

/-- `_bounded` -/
def checkBounded (value : Int) (bound : Bound) (member : String) :
    Except ScenarioError Unit :=
  ensure (bound.Holds value) ⟨.outOfRange, .named member⟩

/-- `_positive` -/
def checkPositive (value : Int) (member : String) :
    Except ScenarioError Unit :=
  ensure (1 ≤ value) ⟨.nonPositive, .named member⟩

/-! ## One drone -/

/-- The members of a roster entry. -/
structure DroneEntry where
  droneId : String
  sectorId : String
  latitudeMicrodegrees : Int
  longitudeMicrodegrees : Int
  altitudeMetres : Int
  headingDegrees : Int
  groundSpeedCentimetresPerSecond : Int
  batteryPermille : Int
  northMicrodegreesPerTick : Int
  eastMicrodegreesPerTick : Int
  batteryDrainPermillePerTick : Int
deriving DecidableEq

/-- `displaces` -/
def DroneEntry.displaces (entry : DroneEntry) : Bool :=
  entry.northMicrodegreesPerTick ≠ 0 || entry.eastMicrodegreesPerTick ≠ 0

/-- `_bounded_members` -/
def boundedMembers (entry : DroneEntry) : List (String × Int × Bound) :=
  [ ("latitude_microdegrees", entry.latitudeMicrodegrees,
      latitudeMicrodegrees),
    ("longitude_microdegrees", entry.longitudeMicrodegrees,
      longitudeMicrodegrees),
    ("altitude_metres", entry.altitudeMetres, altitudeMetres),
    ("heading_degrees", entry.headingDegrees, headingDegrees),
    ("ground_speed_centimetres_per_second",
      entry.groundSpeedCentimetresPerSecond,
      groundSpeedCentimetresPerSecond),
    ("battery_permille", entry.batteryPermille, batteryPermille),
    ("battery_drain_permille_per_tick", entry.batteryDrainPermillePerTick,
      batteryPermille),
    ("north_microdegrees_per_tick", entry.northMicrodegreesPerTick,
      northMicrodegreesPerTick),
    ("east_microdegrees_per_tick", entry.eastMicrodegreesPerTick,
      eastMicrodegreesPerTick) ]

/-- `_check_drone` -/
def checkDrone (entry : DroneEntry) : Except ScenarioError Unit := do
  checkIdentifier entry.droneId "drone_id"
  checkIdentifier entry.sectorId "sector_id"
  (boundedMembers entry).forM fun member =>
    checkBounded member.2.1 member.2.2 member.1
  ensure
    (entry.displaces = decide (0 < entry.groundSpeedCentimetresPerSecond))
    ⟨.motionDisagreement, .named entry.droneId⟩

/-- `DroneStart` -/
structure DroneStart extends DroneEntry where
  valid : checkDrone toDroneEntry = .ok ()
deriving DecidableEq

/-! ## The scenario -/

/-- The members of a scenario. -/
structure ScenarioEntry where
  missionId : String
  drones : List DroneStart
  tickIntervalMilliseconds : Int
  thresholds : ConnectivityThresholds
  ticksToSweep : Int
  absentHeartbeats : Mapping String (List Int)

/-- The loop of `_check_roster`, with the drones and sectors seen so far. -/
def checkRosterFrom (seen held : List String) :
    List DroneStart → Except ScenarioError (List String)
  | [] => .ok seen
  | drone :: rest => do
      ensure (drone.droneId ∉ seen) ⟨.duplicateDrone, .named drone.droneId⟩
      ensure (drone.sectorId ∉ held)
        ⟨.duplicateSector, .named drone.sectorId⟩
      checkRosterFrom (drone.droneId :: seen) (drone.sectorId :: held) rest

/-- `_check_roster`: the known drones of a roster. -/
def checkRoster (drones : List DroneStart) :
    Except ScenarioError (List String) := do
  ensure (drones ≠ []) ⟨.emptyRoster, .nothing⟩
  checkRosterFrom [] [] drones

/-- `_check_schedule` -/
def checkSchedule (schedule : Mapping String (List Int))
    (known : List String) : Except ScenarioError Unit :=
  schedule.rows.forM fun row => do
    ensure (row.1 ∈ known) ⟨.unknownDrone, .named row.1⟩
    (row.2.insertionSort fun left right => left ≤ right).forM fun tick =>
      ensure (0 ≤ tick) ⟨.negativeTick, .tick tick⟩

/-- `_check_scenario` -/
def checkScenario (entry : ScenarioEntry) : Except ScenarioError Unit := do
  checkIdentifier entry.missionId "mission_id"
  let known ← checkRoster entry.drones
  checkPositive entry.tickIntervalMilliseconds "tick_interval_milliseconds"
  checkPositive entry.ticksToSweep "ticks_to_sweep"
  checkSchedule entry.absentHeartbeats known

/-- `FleetScenario`, a scenario that passed its checks. -/
structure FleetScenario extends ScenarioEntry where
  valid : checkScenario toScenarioEntry = .ok ()

/-- `ordered_drones` -/
def orderedDrones (scenario : FleetScenario) : List DroneStart :=
  scenario.drones.insertionSort fun left right => left.droneId ≤ right.droneId

/-- The ticks at which a drone's heartbeat is absent. -/
def FleetScenario.absentTicks (scenario : FleetScenario) (droneId : String) :
    List Int :=
  (scenario.absentHeartbeats.get? droneId).getD []

/-! ## What the checks leave -/

/-- Drones and sectors of an accepted roster are all different. -/
theorem checkRosterFrom_ok {drones : List DroneStart}
    {seen held known : List String}
    (accepted : checkRosterFrom seen held drones = .ok known) :
    (drones.map fun drone => drone.droneId).Nodup ∧
      (drones.map fun drone => drone.sectorId).Nodup ∧
      ∀ drone ∈ drones, drone.droneId ∉ seen ∧ drone.sectorId ∉ held := by
  induction drones generalizing seen held with
  | nil =>
      refine ⟨List.nodup_nil, List.nodup_nil, ?_⟩
      intro drone member
      cases member
  | cons drone rest inductionHypothesis =>
      simp only [checkRosterFrom, bind_eq_ok, ensure_eq_ok,
        exists_const] at accepted
      rcases accepted with ⟨freshDrone, freshSector, later⟩
      rcases inductionHypothesis later with ⟨drones, sectors, unseen⟩
      refine ⟨List.nodup_cons.2 ⟨?_, drones⟩,
        List.nodup_cons.2 ⟨?_, sectors⟩, ?_⟩
      · intro repeated
        rcases List.mem_map.1 repeated with ⟨other, member, same⟩
        exact (unseen other member).1 (same ▸ List.mem_cons_self)
      · intro repeated
        rcases List.mem_map.1 repeated with ⟨other, member, same⟩
        exact (unseen other member).2 (same ▸ List.mem_cons_self)
      · intro other member
        rcases List.mem_cons.1 member with rfl | among
        · exact ⟨freshDrone, freshSector⟩
        · rcases unseen other among with ⟨first, second⟩
          exact ⟨fun old => first (List.mem_cons_of_mem _ old),
            fun old => second (List.mem_cons_of_mem _ old)⟩

namespace FleetScenario

variable (scenario : FleetScenario)

theorem roster :
    (scenario.drones.map fun drone => drone.droneId).Nodup ∧
      (scenario.drones.map fun drone => drone.sectorId).Nodup := by
  have valid := scenario.valid
  simp only [checkScenario, bind_eq_ok, checkRoster] at valid
  rcases valid with ⟨_, _, known, ⟨_, _, accepted⟩, _⟩
  rcases checkRosterFrom_ok accepted with ⟨drones, sectors, _⟩
  exact ⟨drones, sectors⟩

theorem ticksToSweep_positive : 1 ≤ scenario.ticksToSweep := by
  have valid := scenario.valid
  simp only [checkScenario, bind_eq_ok, checkPositive, ensure_eq_ok] at valid
  rcases valid with ⟨_, _, _, _, _, _, _, positive, _⟩
  exact positive

/-- One more than the largest scheduled absent tick, or zero. -/
def absenceEnd : Int :=
  ((scenario.absentHeartbeats.rows.flatMap Prod.snd).max?).elim 0
    fun largest => largest + 1

/-- No scheduled tick is before the run starts. -/
theorem scheduled_nonneg {tick : Int}
    (scheduled :
      tick ∈ scenario.absentHeartbeats.rows.flatMap Prod.snd) :
    0 ≤ tick := by
  have valid := scenario.valid
  simp only [checkScenario, bind_eq_ok, checkSchedule, forM_eq_ok,
    ensure_eq_ok] at valid
  rcases valid with ⟨_, _, _, _, _, _, _, _, schedule⟩
  rcases List.mem_flatMap.1 scheduled with ⟨row, member, among⟩
  rcases schedule row member with ⟨_, _, ticks⟩
  exact ticks tick ((List.perm_insertionSort _ row.2).mem_iff.2 among)

theorem absenceEnd_nonneg : 0 ≤ scenario.absenceEnd := by
  unfold absenceEnd
  cases latest : (scenario.absentHeartbeats.rows.flatMap Prod.snd).max? with
  | none => exact Int.le_refl 0
  | some largest =>
      have early :=
        scenario.scheduled_nonneg (List.max?_eq_some_iff.1 latest).1
      exact Int.add_nonneg early (by decide)

/-- After the end of the schedule no heartbeat is absent. -/
theorem not_absent {tick : Int} (quiet : scenario.absenceEnd ≤ tick)
    (droneId : String) : tick ∉ scenario.absentTicks droneId := by
  intro absent
  have scheduled :
      tick ∈ scenario.absentHeartbeats.rows.flatMap Prod.snd := by
    unfold absentTicks at absent
    cases held : scenario.absentHeartbeats.get? droneId with
    | none => simp [held] at absent
    | some ticks =>
        rw [held, Option.getD_some] at absent
        exact List.mem_flatMap.2
          ⟨(droneId, ticks), Mapping.get?_eq_some.1 held, absent⟩
  unfold absenceEnd at quiet
  cases latest : (scenario.absentHeartbeats.rows.flatMap Prod.snd).max? with
  | none =>
      rw [List.max?_eq_none_iff] at latest
      rw [latest] at scheduled
      exact List.not_mem_nil scheduled
  | some largest =>
      have bounded :=
        (List.max?_eq_some_iff.1 latest).2 tick scheduled
      rw [latest, Option.elim_some] at quiet
      omega

theorem orderedDrones_perm :
    (orderedDrones scenario).Perm scenario.drones :=
  List.perm_insertionSort _ scenario.drones

theorem mem_orderedDrones {drone : DroneStart} :
    drone ∈ orderedDrones scenario ↔ drone ∈ scenario.drones :=
  scenario.orderedDrones_perm.mem_iff

theorem orderedDrones_droneId :
    ((orderedDrones scenario).map fun drone => drone.droneId).Nodup :=
  (scenario.orderedDrones_perm.map _).nodup_iff.2 scenario.roster.1

theorem orderedDrones_sectorId :
    ((orderedDrones scenario).map fun drone => drone.sectorId).Nodup :=
  (scenario.orderedDrones_perm.map _).nodup_iff.2 scenario.roster.2

end FleetScenario

end AerialRescue.Fleet.Scenario
