import AerialRescue.Domain.ConnectivityHistory
import AerialRescue.Fleet.Simulation

/-!
# Every run of the fleet ends

No drone affects another: each drone's leg, its link and the sector it holds
follow from its own roster entry and its own schedule.  The fold of the ticks
carries exactly these tracks, and each of them finishes its sector once the
schedule is quiet, the link has recovered and the sector has been swept.
-/

namespace AerialRescue.Fleet.Endings

open AerialRescue.Domain.Connectivity
open AerialRescue.Domain.Sectors (SectorState SectorEvent transition)
open AerialRescue.Fleet.Scenario
open AerialRescue.Fleet.Simulation
open AerialRescue.Lib
open AerialRescue.Lib.Guard

variable (scenario : FleetScenario)

/-! ## One drone on its own -/

/-- Where a drone is after a number of ticks of its leg. -/
def flightAfter (start : DroneStart) : Nat → DroneState
  | 0 => initialState start
  | ticks + 1 =>
      let state := flightAfter start ticks
      { latitudeMicrodegrees :=
          state.latitudeMicrodegrees + start.northMicrodegreesPerTick
        longitudeMicrodegrees :=
          state.longitudeMicrodegrees + start.eastMicrodegreesPerTick
        batteryPermille :=
          max batteryPermille.low
            (state.batteryPermille - start.batteryDrainPermillePerTick) }

/-- A drone's link after a number of ticks of its schedule. -/
def linkAfter (start : DroneStart) : Nat → ConnectivityStatus
  | 0 => initialStatus
  | ticks + 1 => observe (linkAfter start ticks) scenario start ticks

/-- A sector that the search has opened. -/
def openedSector (runtime : SectorRuntime) : SectorRuntime where
  state :=
    if runtime.state = .unassigned then .assigned else runtime.state
  sweptTicks := runtime.sweptTicks

/-- A sector after the edge that its holder's link implies. -/
def movedSector (event : Option SectorEvent) (runtime : SectorRuntime) :
    SectorRuntime where
  state :=
    event.elim runtime.state fun event =>
      (transition runtime.state event).getD runtime.state
  sweptTicks := runtime.sweptTicks

/-- A sector after one tick of sweeping. -/
def sweptSector (link : ConnectivityState) (runtime : SectorRuntime) :
    SectorRuntime :=
  if runtime.state ≠ .assigned ∨ link = .offline then runtime
  else if scenario.ticksToSweep ≤ runtime.sweptTicks + 1 then
    ⟨.searched, runtime.sweptTicks + 1⟩
  else ⟨.assigned, runtime.sweptTicks + 1⟩

/-- A drone's sector after a number of ticks. -/
def sectorAfter (start : DroneStart) : Nat → SectorRuntime
  | 0 => ⟨.unassigned, 0⟩
  | ticks + 1 =>
      let opened := openedSector (sectorAfter start ticks)
      sweptSector scenario (linkAfter scenario start (ticks + 1)).state
        (movedSector
          (sectorEvent (linkAfter scenario start ticks).state
            (linkAfter scenario start (ticks + 1)).state opened.state)
          opened)

/-- A drone with its link after a number of ticks. -/
def droneAfter (start : DroneStart) (ticks : Nat) : DroneRuntime :=
  ⟨flightAfter start ticks, linkAfter scenario start ticks⟩

/-- The edge that a drone's link implies for its sector in the next tick. -/
def eventAfter (start : DroneStart) (ticks : Nat) : Option SectorEvent :=
  sectorEvent (linkAfter scenario start ticks).state
    (linkAfter scenario start (ticks + 1)).state
    (openedSector (sectorAfter scenario start ticks)).state

/-- Every sector of the roster is searched. -/
def Searched (ticks : Nat) : Prop :=
  ∀ start ∈ scenario.drones,
    (sectorAfter scenario start ticks).state = .searched

instance (ticks : Nat) : Decidable (Searched scenario ticks) :=
  List.decidableBAll _ scenario.drones

/-- A drone's leg is inside the coordinate range after a number of ticks. -/
def InRange (start : DroneStart) (ticks : Nat) : Prop :=
  latitudeMicrodegrees.Holds
      (start.latitudeMicrodegrees + ticks * start.northMicrodegreesPerTick) ∧
    longitudeMicrodegrees.Holds
      (start.longitudeMicrodegrees + ticks * start.eastMicrodegreesPerTick)

instance (start : DroneStart) (ticks : Nat) :
    Decidable (InRange start ticks) :=
  inferInstanceAs (Decidable (_ ∧ _))

theorem flightAfter_position (start : DroneStart) (ticks : Nat) :
    (flightAfter start ticks).latitudeMicrodegrees =
        start.latitudeMicrodegrees +
          ticks * start.northMicrodegreesPerTick ∧
      (flightAfter start ticks).longitudeMicrodegrees =
        start.longitudeMicrodegrees +
          ticks * start.eastMicrodegreesPerTick := by
  induction ticks with
  | zero => simp [flightAfter, initialState]
  | succ ticks inductionHypothesis =>
      simp only [flightAfter, inductionHypothesis.1, inductionHypothesis.2,
        Int.natCast_add, Int.natCast_one, Int.add_mul, Int.one_mul,
        Int.add_assoc, and_self]

/-- A leg that stays in range is flown. -/
theorem advance_flightAfter {start : DroneStart} {ticks : Nat}
    (inRange : InRange start (ticks + 1)) :
    advance (flightAfter start ticks) start =
      .ok (flightAfter start (ticks + 1)) := by
  have position := flightAfter_position start (ticks + 1)
  simp only [flightAfter] at position
  simp only [advance, bind_eq_ok, ensure_eq_ok, pure_eq_ok, flightAfter,
    position.1, position.2]
  exact ⟨(), inRange, trivial⟩

/-! ## A sector and the link of its holder -/

/-- An opened sector is at risk exactly while its holder is lost. -/
def Held (link : ConnectivityState) (sector : SectorState) : Prop :=
  sector = .searched ∨ sector = .assigned ∧ link ≠ .offline ∨
    sector = .atRisk ∧ link = .offline

instance (link : ConnectivityState) (sector : SectorState) :
    Decidable (Held link sector) :=
  inferInstanceAs (Decidable (_ ∨ _))

/-- The edge that the links imply is one the domain's table has. -/
theorem sectorEvent_legal {before after : ConnectivityState}
    {sector : SectorState} {event : SectorEvent} (held : Held before sector)
    (implied : sectorEvent before after sector = some event) :
    ∃ reached, transition sector event = some reached ∧
      Held after reached := by
  rcases held with rfl | ⟨rfl, online⟩ | ⟨rfl, rfl⟩
  · cases implied
  · have lost : after = .offline ∧ event = .imperil := by
      simpa [sectorEvent, Domain.Sectors.isTerminal, online, eq_comm]
        using implied
    rcases lost with ⟨rfl, rfl⟩
    exact ⟨.atRisk, rfl, Or.inr (Or.inr ⟨rfl, rfl⟩)⟩
  · have found : after ≠ .offline ∧ event = .recover := by
      simpa [sectorEvent, Domain.Sectors.isTerminal, eq_comm] using implied
    rcases found with ⟨online, rfl⟩
    exact ⟨.assigned, rfl, Or.inr (Or.inl ⟨rfl, online⟩)⟩

/-- Without an edge the sector stays in step with its holder's link. -/
theorem sectorEvent_none {before after : ConnectivityState}
    {sector : SectorState} (held : Held before sector)
    (quiet : sectorEvent before after sector = none) : Held after sector := by
  rcases held with rfl | ⟨rfl, online⟩ | ⟨rfl, rfl⟩
  · exact Or.inl rfl
  · have stays : after ≠ .offline := by
      simpa [sectorEvent, Domain.Sectors.isTerminal, online] using quiet
    exact Or.inr (Or.inl ⟨rfl, stays⟩)
  · have stays : after = .offline := by
      simpa [sectorEvent, Domain.Sectors.isTerminal] using quiet
    exact Or.inr (Or.inr ⟨rfl, stays⟩)

theorem Held.event {before after : ConnectivityState} {event : SectorEvent}
    {runtime : SectorRuntime} (held : Held before runtime.state)
    (implied : sectorEvent before after runtime.state = some event) :
    moveSector event runtime = .ok (movedSector (some event) runtime) := by
  rcases sectorEvent_legal held implied with ⟨reached, legal, _⟩
  simp [moveSector, movedSector, legal, present]

theorem Held.moves {before : ConnectivityState} {runtime : SectorRuntime}
    (held : Held before runtime.state) (after : ConnectivityState) :
    Held after
      (movedSector (sectorEvent before after runtime.state)
        runtime).state := by
  cases implied : sectorEvent before after runtime.state with
  | none => exact sectorEvent_none held implied
  | some event =>
      rcases sectorEvent_legal held implied with ⟨reached, legal, stays⟩
      simpa [movedSector, legal] using stays

/-- Sweeping keeps the sector and its holder's link in step. -/
theorem Held.swept {link : ConnectivityState} {runtime : SectorRuntime}
    (held : Held link runtime.state) :
    Held link (sweptSector scenario link runtime).state := by
  unfold sweptSector
  split
  · exact held
  · rename_i sweeping
    rw [not_or, not_not] at sweeping
    split
    · exact Or.inl rfl
    · exact Or.inr (Or.inl ⟨rfl, sweeping.2⟩)

theorem Held.assigned {link : ConnectivityState} {runtime : SectorRuntime}
    (held : Held link runtime.state) : openedSector runtime = runtime := by
  rcases runtime with ⟨state, swept⟩
  rcases held with same | ⟨same, _⟩ | ⟨same, _⟩ <;> dsimp only at same <;>
    subst same <;> rfl

/-- An opened sector and its holder's link are in step before any tick. -/
theorem held_openedSector (start : DroneStart) (ticks : Nat) :
    Held (linkAfter scenario start ticks).state
      (openedSector (sectorAfter scenario start ticks)).state := by
  induction ticks with
  | zero =>
      refine Or.inr (Or.inl ⟨rfl, ?_⟩)
      rw [linkAfter]
      decide
  | succ ticks inductionHypothesis =>
      have held :
          Held (linkAfter scenario start (ticks + 1)).state
            (sectorAfter scenario start (ticks + 1)).state :=
        (inductionHypothesis.moves _).swept scenario
      rw [held.assigned]
      exact held

/-- After any tick a sector and its holder's link are in step. -/
theorem held_sectorAfter (start : DroneStart) (ticks : Nat) :
    Held (linkAfter scenario start (ticks + 1)).state
      (sectorAfter scenario start (ticks + 1)).state :=
  ((held_openedSector scenario start ticks).moves _).swept scenario

/-! ## The fold carries the tracks -/

/-- The state carries the track of every drone after a number of ticks. -/
structure Tracks (state : FleetState) (ticks : Nat) : Prop where
  tick : state.tick = ticks
  drones :
    state.drones.Tabulates scenario.drones (fun start => start.droneId)
      fun start => droneAfter scenario start ticks
  sectors :
    state.sectors.Tabulates scenario.drones (fun start => start.sectorId)
      fun start => sectorAfter scenario start ticks

/-- The mission while sectors are left to search. -/
def runningMission (ticks : Nat) : Domain.Mission.MissionState :=
  if ticks = 0 then .planned else .searching

variable {scenario}

theorem initialFleet_tracks :
    Tracks scenario (initialFleet scenario) 0 where
  tick := rfl
  drones := Mapping.ofList_tabulates scenario.roster.1
  sectors := Mapping.ofList_tabulates scenario.roster.2

/-- The first tick opens every sector; later ticks find them opened. -/
theorem openTheSearch_ok {state : FleetState} {ticks : Nat}
    (tracks : Tracks scenario state ticks)
    (mission : state.mission = runningMission ticks) :
    ∃ opened, openTheSearch state = .ok (.searching, opened) ∧
      opened.Tabulates scenario.drones (fun start => start.sectorId)
        fun start => openedSector (sectorAfter scenario start ticks) := by
  cases ticks with
  | zero =>
      have moved :
          state.sectors.rows.mapM (fun row => do
              let moved ← moveSector .assign row.2
              pure (row.1, moved)) =
            .ok (state.sectors.rows.map fun row =>
              (row.1, openedSector row.2)) := by
        refine mapM_eq_ok_map fun row member => ?_
        rcases tracks.sectors.row member with ⟨start, _, rfl⟩
        rfl
      refine ⟨Mapping.ofList (state.sectors.rows.map fun row =>
        (row.1, openedSector row.2)), ?_, tracks.sectors.map openedSector⟩
      simp only [openTheSearch, mission, runningMission, if_true, ne_eq,
        not_true_eq_false, if_false, moved]
      rfl
  | succ ticks =>
      refine ⟨state.sectors, ?_, ?_⟩
      · rw [openTheSearch, mission]
        rfl
      · refine tracks.sectors.congr fun start _ => ?_
        exact (held_sectorAfter scenario start ticks).assigned.symm

theorem stepDrone_ok {state : FleetState} {ticks : Nat}
    {sectors : Mapping String SectorRuntime} {start : DroneStart}
    (tracks : Tracks scenario state ticks)
    (opened :
      sectors.Tabulates scenario.drones (fun start => start.sectorId)
        fun start => openedSector (sectorAfter scenario start ticks))
    (member : start ∈ scenario.drones) (inRange : InRange start (ticks + 1))
    (before : Stepped) :
    stepDrone scenario state sectors before start =
      .ok
        { drones := before.drones.put start.droneId
            (droneAfter scenario start (ticks + 1))
          readings := before.readings ++
            [reading start (flightAfter start (ticks + 1))]
          events :=
            (eventAfter scenario start ticks).elim before.events fun event =>
              before.events.put start.sectorId event } := by
  simp only [stepDrone, tracks.tick, bind_eq_ok, present_eq_ok,
    recast_eq_ok, pure_eq_ok]
  exact ⟨_, tracks.drones.found start member, _, advance_flightAfter inRange,
    _, opened.found start member, rfl⟩

/-- Every drone is folded on its own. -/
theorem stepDrones_ok {state : FleetState} {ticks : Nat}
    {sectors : Mapping String SectorRuntime}
    (tracks : Tracks scenario state ticks)
    (opened :
      sectors.Tabulates scenario.drones (fun start => start.sectorId)
        fun start => openedSector (sectorAfter scenario start ticks))
    (inRange : ∀ start ∈ scenario.drones, InRange start (ticks + 1)) :
    ∃ stepped, stepDrones scenario state sectors = .ok stepped ∧
      stepped.drones.Tabulates scenario.drones (fun start => start.droneId)
          (fun start => droneAfter scenario start (ticks + 1)) ∧
      (∀ start ∈ scenario.drones,
        stepped.events.get? start.sectorId =
          eventAfter scenario start ticks) ∧
      ∀ other, other ∉ scenario.drones.map (fun start => start.sectorId) →
        stepped.events.get? other = none := by
  have general (starts : List DroneStart)
      (among : ∀ start ∈ starts, start ∈ scenario.drones)
      (before : Stepped) :
      ∃ readings,
        starts.foldlM (stepDrone scenario state sectors) before =
          .ok
            { drones := before.drones.putEach (fun start => start.droneId)
                (fun start => some (droneAfter scenario start (ticks + 1)))
                starts
              readings
              events := before.events.putEach (fun start => start.sectorId)
                (fun start => eventAfter scenario start ticks) starts } := by
    induction starts generalizing before with
    | nil => exact ⟨before.readings, rfl⟩
    | cons start rest inductionHypothesis =>
        have member := among start List.mem_cons_self
        rw [List.foldlM_cons,
          stepDrone_ok tracks opened member (inRange start member)]
        exact inductionHypothesis
          (fun later held => among later (List.mem_cons_of_mem _ held)) _
  rcases general (orderedDrones scenario)
    (fun start member => scenario.mem_orderedDrones.1 member)
    ⟨Table.empty, [], Table.empty⟩ with ⟨readings, folded⟩
  refine ⟨_, folded, ?_, ?_⟩
  · exact (Mapping.putEach_tabulates scenario.orderedDrones_droneId).perm
      scenario.orderedDrones_perm
  · rcases Mapping.get?_putEach scenario.orderedDrones_sectorId
      (fun start => eventAfter scenario start ticks) Table.empty with
      ⟨written, untouched⟩
    constructor
    · intro start member
      exact (written start (scenario.mem_orderedDrones.2 member)).trans
        (by simp)
    · intro other unnamed
      refine untouched other fun named => unnamed ?_
      exact (scenario.orderedDrones_perm.map _).mem_iff.1 named

/-- The edges of a tick move every sector as its holder's link implies. -/
theorem applyEvents_ok {ticks : Nat}
    {sectors : Mapping String SectorRuntime}
    {events : Mapping String SectorEvent}
    (opened :
      sectors.Tabulates scenario.drones (fun start => start.sectorId)
        fun start => openedSector (sectorAfter scenario start ticks))
    (implied :
      ∀ start ∈ scenario.drones,
        events.get? start.sectorId = eventAfter scenario start ticks)
    (nothing :
      ∀ other, other ∉ scenario.drones.map (fun start => start.sectorId) →
        events.get? other = none) :
    ∃ moved, applyEvents sectors events = .ok moved ∧
      moved.Tabulates scenario.drones (fun start => start.sectorId)
        fun start => movedSector (eventAfter scenario start ticks)
          (openedSector (sectorAfter scenario start ticks)) := by
  let held := fun row : String × SectorEvent =>
    (sectors.get? row.1).getD ⟨.unassigned, 0⟩
  have holder :
      ∀ row ∈ events.rows, ∃ start ∈ scenario.drones,
        row.1 = start.sectorId ∧
          eventAfter scenario start ticks = some row.2 ∧
          held row = openedSector (sectorAfter scenario start ticks) := by
    intro row member
    have found : events.get? row.1 = some row.2 :=
      Mapping.get?_eq_some.2 member
    have named :
        row.1 ∈ scenario.drones.map fun start => start.sectorId := by
      by_contra other
      rw [nothing row.1 other] at found
      cases found
    rcases List.mem_map.1 named with ⟨start, among, same⟩
    refine ⟨start, among, same.symm, ?_, ?_⟩
    · rw [← implied start among, same, found]
    · dsimp only [held]
      rw [← same, opened.found start among, Option.getD_some]
  have loop :
      ∃ moved, applyEvents sectors events = .ok moved ∧
        (∀ row ∈ events.rows,
          moved.get? row.1 = some (movedSector (some row.2) (held row))) ∧
        ∀ other, other ∉ events.rows.map Prod.fst →
          moved.get? other = sectors.get? other := by
    have stands :
        ∀ row ∈ events.rows, sectors.get? row.1 = some (held row) := by
      intro row member
      rcases holder row member with ⟨start, among, same, _, is⟩
      rw [is, same, opened.found start among]
    have moves :
        ∀ row ∈ events.rows,
          moveSector row.2 (held row) =
            .ok (movedSector (some row.2) (held row)) := by
      intro row member
      rcases holder row member with ⟨start, among, _, event, is⟩
      rw [is]
      exact (held_openedSector scenario start ticks).event event
    exact Mapping.amendEach_ok events.distinct stands moves
  rcases loop with ⟨moved, applied, changed, untouched⟩
  refine ⟨moved, applied, fun start among => ?_, fun other unnamed => ?_⟩
  · cases event : eventAfter scenario start ticks with
    | none =>
        have quiet : start.sectorId ∉ events.rows.map Prod.fst := by
          intro listed
          rcases List.mem_map.1 listed with ⟨row, member, same⟩
          have found : events.get? row.1 = some row.2 :=
            Mapping.get?_eq_some.2 member
          rw [same, implied start among, event] at found
          cases found
        rw [untouched _ quiet, opened.found start among]
        rfl
    | some event' =>
        have listed : (start.sectorId, event') ∈ events.rows :=
          Mapping.get?_eq_some.1 ((implied start among).trans event)
        rw [changed _ listed]
        dsimp only [held]
        rw [opened.found start among, Option.getD_some]
  · rw [untouched other, opened.absent other unnamed]
    intro listed
    rcases List.mem_map.1 listed with ⟨row, member, same⟩
    have found : events.get? row.1 = some row.2 :=
      Mapping.get?_eq_some.2 member
    rw [same, nothing other unnamed] at found
    cases found

/-- The sweep of one sector, by the link of its holder. -/
theorem sweepSector_ok {drones : Mapping String DroneRuntime}
    {start : DroneStart} {holder : DroneRuntime} (runtime : SectorRuntime)
    (held : drones.get? start.droneId = some holder) :
    sweepSector scenario drones start runtime =
      .ok (sweptSector scenario holder.connectivity.state runtime) := by
  unfold sweepSector sweptSector
  rw [held]
  simp only [bind_eq_ok, present_eq_ok, Option.some.injEq, exists_eq_left']
  split
  · rfl
  · rename_i sweeping
    rw [not_or, not_not] at sweeping
    rw [sweeping.1]
    split <;> rfl

theorem isTerminal_eq_true {sector : SectorState} :
    Domain.Sectors.isTerminal sector = true ↔ sector = .searched := by
  cases sector <;> decide

/-- One tick carries every track one tick further. -/
theorem advanceTick_ok {state : FleetState} {ticks : Nat}
    (tracks : Tracks scenario state ticks)
    (mission : state.mission = runningMission ticks)
    (inRange : ∀ start ∈ scenario.drones, InRange start (ticks + 1)) :
    ∃ tick, advanceTick scenario state = .ok tick ∧
      Tracks scenario tick.state (ticks + 1) ∧
      tick.state.mission =
        if Searched scenario (ticks + 1) then .exhausted else .searching := by
  rcases openTheSearch_ok tracks mission with ⟨opened, opens, sectors⟩
  rcases stepDrones_ok tracks sectors inRange with
    ⟨stepped, steps, drones, implied, nothing⟩
  rcases applyEvents_ok sectors implied nothing with ⟨moved, applies, edges⟩
  have sweeps :
      ∃ swept, sweep scenario moved stepped.drones = .ok swept ∧
        (∀ start ∈ orderedDrones scenario,
          swept.get? start.sectorId =
            some (sectorAfter scenario start (ticks + 1))) ∧
        ∀ other,
          other ∉ (orderedDrones scenario).map
              (fun start => start.sectorId) →
            swept.get? other = moved.get? other := by
    refine Mapping.amendEach_ok scenario.orderedDrones_sectorId
      (fun start member =>
        edges.found start (scenario.mem_orderedDrones.1 member))
      fun start member => ?_
    exact sweepSector_ok _
      (drones.found start (scenario.mem_orderedDrones.1 member))
  rcases sweeps with ⟨swept, sweeps, found, untouched⟩
  have after :
      swept.Tabulates scenario.drones (fun start => start.sectorId)
        fun start => sectorAfter scenario start (ticks + 1) := by
    refine ⟨fun start member =>
      found start (scenario.mem_orderedDrones.2 member),
      fun other unnamed => ?_⟩
    rw [untouched other, edges.absent other unnamed]
    intro named
    exact unnamed ((scenario.orderedDrones_perm.map _).mem_iff.1 named)
  have ends :
      missionAfter .searching swept =
        .ok (if Searched scenario (ticks + 1) then .exhausted
          else .searching) := by
    have all := after.all_rows fun runtime =>
      Domain.Sectors.isTerminal runtime.state
    have searched :
        (swept.rows.all fun row =>
            Domain.Sectors.isTerminal row.2.state) = true ↔
          Searched scenario (ticks + 1) := by
      rw [all]
      exact forall₂_congr fun start _ => isTerminal_eq_true
    simp only [missionAfter, true_and, searched]
    split <;> rfl
  refine
    ⟨⟨⟨state.tick + 1,
        if Searched scenario (ticks + 1) then .exhausted else .searching,
        stepped.drones, swept⟩, stepped.readings⟩,
      ?_, ⟨?_, drones, after⟩, rfl⟩
  · have running : Domain.Mission.isTerminal state.mission = false := by
      rw [mission, runningMission]
      split <;> rfl
    simp only [advanceTick, bind_eq_ok, ensure_eq_ok, pure_eq_ok]
    exact ⟨(), running, _, opens, _, steps, _, applies, _, sweeps, _, ends,
      rfl⟩
  · rw [tracks.tick]
    rfl

/-! ## Progress -/

theorem linkAfter_streak_nonneg (start : DroneStart) (ticks : Nat) :
    0 ≤ (linkAfter scenario start ticks).consecutiveHeartbeats := by
  induction ticks with
  | zero => exact Int.le_refl 0
  | succ ticks inductionHypothesis =>
      rw [linkAfter, observe, observeInterval]
      split
      · exact Int.le_refl 0
      · exact Int.add_nonneg inductionHypothesis (by decide)

/-- A tick after the end of the schedule has its heartbeat. -/
theorem linkAfter_quiet {ticks : Nat} (start : DroneStart)
    (quiet : scenario.absenceEnd ≤ ticks) :
    linkAfter scenario start (ticks + 1) =
      heartbeatReceived (linkAfter scenario start ticks)
        scenario.thresholds := by
  have present := scenario.not_absent quiet start.droneId
  simp only [linkAfter, observe, observeInterval, present, decide_false,
    Bool.false_eq_true, if_false]

/-- After the end of the schedule every tick adds a heartbeat in a row. -/
theorem linkAfter_streak {ticks : Nat} (start : DroneStart)
    (quiet : scenario.absenceEnd ≤ ticks) :
    ticks - scenario.absenceEnd ≤
      (linkAfter scenario start ticks).consecutiveHeartbeats := by
  have reaches (more : Nat) :
      more ≤ (linkAfter scenario start
        (scenario.absenceEnd.toNat + more)).consecutiveHeartbeats := by
    have begins := scenario.absenceEnd_nonneg
    induction more with
    | zero => exact linkAfter_streak_nonneg start _
    | succ more inductionHypothesis =>
        rw [← Nat.add_assoc, linkAfter_quiet start (by omega)]
        exact Int.add_le_add_right inductionHypothesis 1
  have begins := scenario.absenceEnd_nonneg
  have split :
      ticks = scenario.absenceEnd.toNat +
        (ticks - scenario.absenceEnd.toNat) := by
    omega
  have reached := reaches (ticks - scenario.absenceEnd.toNat)
  rw [← split] at reached
  omega

/-- The link has recovered once the heartbeats suffice. -/
theorem linkAfter_connected {ticks : Nat} (start : DroneStart)
    (recovered :
      scenario.absenceEnd + scenario.thresholds.heartbeatsToRecover ≤
        ticks) :
    (linkAfter scenario start ticks).state = .connected := by
  have positive := scenario.thresholds.ordered.2.2
  have begins := scenario.absenceEnd_nonneg
  cases ticks with
  | zero => omega
  | succ ticks =>
      have streak :
          ticks - scenario.absenceEnd ≤
            (linkAfter scenario start ticks).consecutiveHeartbeats :=
        linkAfter_streak start (by omega)
      have enough :
          scenario.thresholds.heartbeatsToRecover ≤
            (linkAfter scenario start ticks).consecutiveHeartbeats + 1 := by
        omega
      rw [linkAfter_quiet start (by omega)]
      simp only [heartbeatReceived, enough, if_true]

theorem sectorAfter_swept_nonneg (start : DroneStart) (ticks : Nat) :
    0 ≤ (sectorAfter scenario start ticks).sweptTicks := by
  induction ticks with
  | zero => exact Int.le_refl 0
  | succ ticks inductionHypothesis =>
      rw [sectorAfter, sweptSector]
      split
      · exact inductionHypothesis
      · split <;> exact Int.add_nonneg inductionHypothesis (by decide)

/-- A searched sector stays searched. -/
theorem sectorAfter_searched {start : DroneStart} {ticks : Nat}
    (searched : (sectorAfter scenario start ticks).state = .searched) :
    sectorAfter scenario start (ticks + 1) =
      sectorAfter scenario start ticks := by
  rcases after : sectorAfter scenario start ticks with ⟨state, swept⟩
  rw [after] at searched
  dsimp only at searched
  subst searched
  rw [sectorAfter, after]
  rfl

/-- While its holder is linked a sector is searched or swept once more. -/
theorem sectorAfter_step {start : DroneStart} {ticks : Nat}
    (linked :
      (linkAfter scenario start (ticks + 1)).state = .connected) :
    (sectorAfter scenario start (ticks + 1)).state = .searched ∨
      (sectorAfter scenario start (ticks + 1)).sweptTicks =
          (sectorAfter scenario start ticks).sweptTicks + 1 ∧
        (sectorAfter scenario start (ticks + 1)).sweptTicks <
          scenario.ticksToSweep := by
  have held := (held_openedSector scenario start ticks).moves
    (linkAfter scenario start (ticks + 1)).state
  rw [sectorAfter, sweptSector]
  rw [linked] at held ⊢
  rcases held with same | ⟨same, _⟩ | ⟨_, lost⟩
  · rw [if_pos (Or.inl (by rw [same]; decide))]
    exact Or.inl same
  · rw [if_neg (by rw [same]; decide)]
    split
    · exact Or.inl rfl
    · rename_i unfinished
      exact Or.inr ⟨rfl, Int.not_le.1 unfinished⟩
  · cases lost

/-- After the link has recovered, every tick sweeps the sector. -/
theorem sectorAfter_progress {start : DroneStart} {ticks : Nat}
    (more : Nat)
    (elapsed :
      (ticks : Int) =
        scenario.absenceEnd + scenario.thresholds.heartbeatsToRecover +
          more) :
    (sectorAfter scenario start ticks).state = .searched ∨
      more + 1 ≤ (sectorAfter scenario start ticks).sweptTicks ∧
        (sectorAfter scenario start ticks).sweptTicks <
          scenario.ticksToSweep := by
  have positive := scenario.thresholds.ordered.2.2
  have begins := scenario.absenceEnd_nonneg
  induction more generalizing ticks with
  | zero =>
      cases ticks with
      | zero => omega
      | succ ticks =>
          have swept :
              0 ≤ (sectorAfter scenario start ticks).sweptTicks :=
            sectorAfter_swept_nonneg start ticks
          have linked :
              (linkAfter scenario start (ticks + 1)).state = .connected :=
            linkAfter_connected start (by omega)
          rcases sectorAfter_step linked with done | ⟨once, unfinished⟩
          · exact Or.inl done
          · exact Or.inr ⟨by omega, unfinished⟩
  | succ more inductionHypothesis =>
      cases ticks with
      | zero => omega
      | succ ticks =>
          have linked :
              (linkAfter scenario start (ticks + 1)).state = .connected :=
            linkAfter_connected start (by omega)
          have earlier :
              (ticks : Int) =
                scenario.absenceEnd +
                  scenario.thresholds.heartbeatsToRecover + more := by
            omega
          rcases inductionHypothesis earlier with done | ⟨swept, _⟩
          · rw [sectorAfter_searched done]
            exact Or.inl done
          · rcases sectorAfter_step linked with done | ⟨once, unfinished⟩
            · exact Or.inl done
            · exact Or.inr ⟨by omega, unfinished⟩

/-- The tick by which every sector of a scenario is searched. -/
theorem searched_by {ticks : Nat}
    (elapsed :
      (ticks : Int) + 1 =
        scenario.absenceEnd + scenario.thresholds.heartbeatsToRecover +
          scenario.ticksToSweep) :
    Searched scenario ticks := by
  intro start _
  have positive := scenario.ticksToSweep_positive
  have recovered :
      (ticks : Int) =
        scenario.absenceEnd + scenario.thresholds.heartbeatsToRecover +
          (scenario.ticksToSweep.toNat - 1 : Nat) := by
    omega
  rcases sectorAfter_progress (scenario.ticksToSweep.toNat - 1)
    recovered with done | ⟨swept, unfinished⟩
  · exact done
  · omega

/-! ## The ending -/

/-- The fold has ended the mission, or carries the tracks on. -/
theorem foldTicks_ok (ticks : Nat)
    (inRange :
      ∀ start ∈ scenario.drones, ∀ tick ≤ ticks, InRange start tick) :
    (∃ earlier ≤ ticks, ∃ state, foldTicks scenario earlier = .ok state ∧
        state.mission = .exhausted) ∨
      ∃ state, foldTicks scenario ticks = .ok state ∧
        Tracks scenario state ticks ∧
        state.mission = runningMission ticks ∧
        (ticks ≠ 0 → ¬Searched scenario ticks) := by
  induction ticks with
  | zero =>
      exact Or.inr ⟨_, rfl, initialFleet_tracks, rfl,
        fun begun => absurd rfl begun⟩
  | succ ticks inductionHypothesis =>
      rcases inductionHypothesis fun start member tick within =>
        inRange start member tick (Nat.le_succ_of_le within) with
        ⟨earlier, within, ended⟩ | ⟨state, folded, tracks, mission, _⟩
      · exact Or.inl ⟨earlier, Nat.le_succ_of_le within, ended⟩
      rcases advanceTick_ok tracks mission fun start member =>
        inRange start member (ticks + 1) (Nat.le_refl _) with
        ⟨tick, advances, next, reached⟩
      have folds : foldTicks scenario (ticks + 1) = .ok tick.state := by
        rw [foldTicks, folded]
        simp only [bind_eq_ok, pure_eq_ok]
        exact ⟨state, rfl, tick, advances, rfl⟩
      by_cases searched : Searched scenario (ticks + 1)
      · rw [if_pos searched] at reached
        exact Or.inl ⟨ticks + 1, Nat.le_refl _, _, folds, reached⟩
      · rw [if_neg searched] at reached
        exact Or.inr ⟨_, folds, next, reached, fun _ => searched⟩

/--
Every run of an accepted scenario whose legs stay in range is exhausted by the
end of the schedule, one recovery and one sweep.
-/
theorem run_exhausted (scenario : FleetScenario)
    (inRange :
      ∀ start ∈ scenario.drones, ∀ tick : Nat,
        (tick : Int) ≤ scenario.absenceEnd +
            scenario.thresholds.heartbeatsToRecover +
            scenario.ticksToSweep →
          InRange start tick) :
    ∃ ticks : Nat,
      (ticks : Int) ≤ scenario.absenceEnd +
          scenario.thresholds.heartbeatsToRecover +
          scenario.ticksToSweep ∧
        ∃ state, foldTicks scenario ticks = .ok state ∧
          state.mission = .exhausted := by
  have recovery := scenario.thresholds.ordered.2.2
  have begins := scenario.absenceEnd_nonneg
  have sweeps := scenario.ticksToSweep_positive
  let bound := (scenario.absenceEnd +
    scenario.thresholds.heartbeatsToRecover + scenario.ticksToSweep - 1).toNat
  have elapsed :
      (bound : Int) + 1 =
        scenario.absenceEnd + scenario.thresholds.heartbeatsToRecover +
          scenario.ticksToSweep := by
    dsimp only [bound]
    omega
  rcases foldTicks_ok bound fun start member tick within =>
    inRange start member tick (by omega) with
    ⟨ticks, within, ended⟩ | ⟨_, _, _, _, unsearched⟩
  · exact ⟨ticks, by omega, ended⟩
  · exact absurd (searched_by elapsed) (unsearched (by omega))

/-- One drone that flies north over its sector. -/
def sampleStart : DroneStart where
  droneId := "drone-1"
  sectorId := "sector-1"
  latitudeMicrodegrees := 47000000
  longitudeMicrodegrees := -122000000
  altitudeMetres := 120
  headingDegrees := 0
  groundSpeedCentimetresPerSecond := 500
  batteryPermille := 1000
  northMicrodegreesPerTick := 45
  eastMicrodegreesPerTick := 0
  batteryDrainPermillePerTick := 1
  valid := by decide +kernel

/-- The drone is lost for three ticks. -/
def sampleScenario : FleetScenario where
  missionId := "mission-1"
  drones := [sampleStart]
  tickIntervalMilliseconds := 1000
  thresholds := ⟨⟨2, 3, 2⟩, by decide⟩
  ticksToSweep := 3
  absentHeartbeats := Mapping.ofList [("drone-1", [1, 2, 3])]
  valid := by decide +kernel

/-- The sample run is exhausted within nine ticks. -/
theorem run_exhausted_sample :
    ∃ ticks : Nat, (ticks : Int) ≤ 9 ∧
      ∃ state, foldTicks sampleScenario ticks = .ok state ∧
        state.mission = .exhausted := by
  have bound :
      sampleScenario.absenceEnd +
          sampleScenario.thresholds.heartbeatsToRecover +
          sampleScenario.ticksToSweep =
        9 := by
    decide +kernel
  have ends := run_exhausted sampleScenario fun start member tick within => by
    rw [bound] at within
    rw [List.mem_singleton.1 member]
    refine ⟨⟨?_, ?_⟩, ⟨?_, ?_⟩⟩ <;>
      simp only [sampleStart, latitudeMicrodegrees, longitudeMicrodegrees] <;>
      omega
  rw [bound] at ends
  exact ends

end AerialRescue.Fleet.Endings
