import AerialRescue.Domain.Mission
import AerialRescue.Domain.Sectors
import AerialRescue.Fleet.Scenario

/-!
# The tick of the fleet

One tick is one observation of every drone, in ascending identifier order: its
link takes the scheduled heartbeat or miss, its leg moves it, and the sector it
holds takes the edge that its link implies and one tick of sweeping.  The
mission is exhausted once every sector is searched.
-/

namespace AerialRescue.Fleet.Simulation

open AerialRescue.Domain.Connectivity
open AerialRescue.Domain.Mission (MissionState MissionEvent)
open AerialRescue.Domain.Sectors (SectorState SectorEvent)
open AerialRescue.Fleet.Scenario
open AerialRescue.Lib
open AerialRescue.Lib.Guard

/-! ## Flight -/

/-- One drone's simulated physical state between ticks. -/
structure DroneState where
  latitudeMicrodegrees : Int
  longitudeMicrodegrees : Int
  batteryPermille : Int
deriving DecidableEq

/-- `FlightError`, the drone whose step leaves the coordinate range. -/
structure FlightError where
  droneId : String
deriving DecidableEq

/-- `initial_state` -/
def initialState (start : DroneStart) : DroneState where
  latitudeMicrodegrees := start.latitudeMicrodegrees
  longitudeMicrodegrees := start.longitudeMicrodegrees
  batteryPermille := start.batteryPermille

/-- `advance` -/
def advance (state : DroneState) (start : DroneStart) :
    Except FlightError DroneState := do
  let latitude := state.latitudeMicrodegrees + start.northMicrodegreesPerTick
  let longitude :=
    state.longitudeMicrodegrees + start.eastMicrodegreesPerTick
  ensure
    (latitudeMicrodegrees.Holds latitude ∧
      longitudeMicrodegrees.Holds longitude)
    ⟨start.droneId⟩
  let drained := state.batteryPermille - start.batteryDrainPermillePerTick
  pure ⟨latitude, longitude, max batteryPermille.low drained⟩

/-- `battery_percent` -/
def batteryPercent (state : DroneState) : Int :=
  state.batteryPermille / permillePerPercent

/-! ## The state of the fleet -/

/-- One drone's telemetry for one tick. -/
structure Reading where
  droneId : String
  latitudeMicrodegrees : Int
  longitudeMicrodegrees : Int
  altitudeMetres : Int
  headingDegrees : Int
  groundSpeedCentimetresPerSecond : Int
  batteryPercent : Int
deriving DecidableEq

/-- One drone's physical state with the state of its link. -/
structure DroneRuntime where
  state : DroneState
  connectivity : ConnectivityStatus
deriving DecidableEq

/-- One sector's state with the ticks its holder has swept it for. -/
structure SectorRuntime where
  state : SectorState
  sweptTicks : Int
deriving DecidableEq

/-- Everything one run carries between ticks. -/
structure FleetState where
  tick : Int
  mission : MissionState
  drones : Mapping String DroneRuntime
  sectors : Mapping String SectorRuntime

/-- The state one tick reached, with its readings. -/
structure Tick where
  state : FleetState
  readings : List Reading

/-- What folding every drone produced. -/
structure Stepped where
  drones : Mapping String DroneRuntime
  readings : List Reading
  events : Mapping String SectorEvent

/-- What stops a tick. -/
inductive TickFailure where
  /-- `MISSION_ENDED` -/
  | missionEnded (mission : MissionState)
  | flight (error : FlightError)
  | sector (state : SectorState) (event : SectorEvent)
  | mission (state : MissionState) (event : MissionEvent)
  /-- A mapping without the key, `KeyError` in the source. -/
  | missing (name : String)
deriving DecidableEq

/-- `initial_fleet` -/
def initialFleet (scenario : FleetScenario) : FleetState where
  tick := 0
  mission := .planned
  drones := Mapping.ofList (scenario.drones.map fun drone =>
    (drone.droneId, ⟨initialState drone, initialStatus⟩))
  sectors := Mapping.ofList (scenario.drones.map fun drone =>
    (drone.sectorId, ⟨.unassigned, 0⟩))

/-! ## The steps of a tick -/

/-- `_reading` -/
def reading (start : DroneStart) (state : DroneState) : Reading where
  droneId := start.droneId
  latitudeMicrodegrees := state.latitudeMicrodegrees
  longitudeMicrodegrees := state.longitudeMicrodegrees
  altitudeMetres := start.altitudeMetres
  headingDegrees := start.headingDegrees
  groundSpeedCentimetresPerSecond := start.groundSpeedCentimetresPerSecond
  batteryPercent := batteryPercent state

/-- `_observe` -/
def observe (status : ConnectivityStatus) (scenario : FleetScenario)
    (start : DroneStart) (tick : Int) : ConnectivityStatus :=
  observeInterval (decide (tick ∈ scenario.absentTicks start.droneId)) status
    scenario.thresholds

/-- `_sector_event` -/
def sectorEvent (before after : ConnectivityState) (sector : SectorState) :
    Option SectorEvent :=
  if Domain.Sectors.isTerminal sector then none
  else if after = .offline ∧ before ≠ .offline then some .imperil
  else if before = .offline ∧ after ≠ .offline then some .recover
  else none

/-- A sector moved along one edge of the domain's table. -/
def moveSector (event : SectorEvent) (runtime : SectorRuntime) :
    Except TickFailure SectorRuntime := do
  let reached ← present (Domain.Sectors.transition runtime.state event)
    (.sector runtime.state event)
  pure ⟨reached, runtime.sweptTicks⟩

/-- A mission moved along one edge of the domain's table. -/
def moveMission (event : MissionEvent) (mission : MissionState) :
    Except TickFailure MissionState :=
  present (Domain.Mission.transition mission event) (.mission mission event)

/-- `_open_the_search` -/
def openTheSearch (state : FleetState) :
    Except TickFailure (MissionState × Mapping String SectorRuntime) := do
  if state.mission ≠ .planned then
    pure (state.mission, state.sectors)
  else
    let assigned ← state.sectors.rows.mapM fun row => do
      let moved ← moveSector .assign row.2
      pure (row.1, moved)
    let mission ← moveMission .start state.mission
    pure (mission, Mapping.ofList assigned)

/-- One turn of the loop of `_step_drones`. -/
def stepDrone (scenario : FleetScenario) (state : FleetState)
    (sectors : Mapping String SectorRuntime) (stepped : Stepped)
    (start : DroneStart) : Except TickFailure Stepped := do
  let was ← present (state.drones.get? start.droneId)
    (.missing start.droneId)
  let observed := observe was.connectivity scenario start state.tick
  let flown ← recast TickFailure.flight (advance was.state start)
  let held ← present (sectors.get? start.sectorId) (.missing start.sectorId)
  let event :=
    sectorEvent was.connectivity.state observed.state held.state
  pure
    { drones := stepped.drones.put start.droneId ⟨flown, observed⟩
      readings := stepped.readings ++ [reading start flown]
      events :=
        event.elim stepped.events fun event =>
          stepped.events.put start.sectorId event }

/-- `_step_drones` -/
def stepDrones (scenario : FleetScenario) (state : FleetState)
    (sectors : Mapping String SectorRuntime) : Except TickFailure Stepped :=
  (orderedDrones scenario).foldlM (stepDrone scenario state sectors)
    ⟨Table.empty, [], Table.empty⟩

/-- `_apply_events` -/
def applyEvents (sectors : Mapping String SectorRuntime)
    (events : Mapping String SectorEvent) :
    Except TickFailure (Mapping String SectorRuntime) :=
  Mapping.amendEach Prod.fst TickFailure.missing
    (fun row runtime => moveSector row.2 runtime) events.rows sectors

/-- The sweep of one sector; the source leaves the others as they are. -/
def sweepSector (scenario : FleetScenario)
    (drones : Mapping String DroneRuntime) (start : DroneStart)
    (runtime : SectorRuntime) : Except TickFailure SectorRuntime := do
  let holder ← present (drones.get? start.droneId) (.missing start.droneId)
  if runtime.state ≠ .assigned ∨ holder.connectivity.state = .offline then
    pure runtime
  else
    let swept := runtime.sweptTicks + 1
    if scenario.ticksToSweep ≤ swept then
      moveSector .sweep ⟨runtime.state, swept⟩
    else pure ⟨runtime.state, swept⟩

/-- `_sweep` -/
def sweep (scenario : FleetScenario) (sectors : Mapping String SectorRuntime)
    (drones : Mapping String DroneRuntime) :
    Except TickFailure (Mapping String SectorRuntime) :=
  Mapping.amendEach (fun start : DroneStart => start.sectorId)
    TickFailure.missing (sweepSector scenario drones)
    (orderedDrones scenario) sectors

/-- `_mission_after` -/
def missionAfter (mission : MissionState)
    (sectors : Mapping String SectorRuntime) :
    Except TickFailure MissionState :=
  let searched :=
    sectors.rows.all fun row => Domain.Sectors.isTerminal row.2.state
  if mission = .searching ∧ searched = true then
    moveMission .exhaust mission
  else pure mission

/-- `advance_tick` -/
def advanceTick (scenario : FleetScenario) (state : FleetState) :
    Except TickFailure Tick := do
  ensure (Domain.Mission.isTerminal state.mission = false)
    (.missionEnded state.mission)
  let opened ← openTheSearch state
  let stepped ← stepDrones scenario state opened.2
  let moved ← applyEvents opened.2 stepped.events
  let swept ← sweep scenario moved stepped.drones
  let mission ← missionAfter opened.1 swept
  pure ⟨⟨state.tick + 1, mission, stepped.drones, swept⟩, stepped.readings⟩

/-- The state after a number of ticks, folded from the initial fleet. -/
def foldTicks (scenario : FleetScenario) : Nat → Except TickFailure FleetState
  | 0 => .ok (initialFleet scenario)
  | ticks + 1 => do
      let state ← foldTicks scenario ticks
      let tick ← advanceTick scenario state
      pure tick.state

end AerialRescue.Fleet.Simulation
