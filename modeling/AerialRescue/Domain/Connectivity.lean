import AerialRescue.Lib.Guard

/-!
# Drone connectivity

A drone's link counted in consecutive heartbeat intervals.  A miss never
improves the state and a heartbeat never worsens it; the adapter applies one of
the two in every interval.
-/

namespace AerialRescue.Domain.Connectivity

open AerialRescue.Lib.Guard

/-- Where a drone's link stands, from healthy to lost. -/
inductive ConnectivityState where
  | connected
  | degraded
  | offline
deriving DecidableEq

/-- Why a threshold record cannot be built. -/
inductive ConnectivityRefusal where
  | missThresholds
  | recoveryCount
deriving DecidableEq

/-- The three counts as they are injected. -/
structure ThresholdCounts where
  missesToDegraded : Int
  missesToOffline : Int
  heartbeatsToRecover : Int
deriving DecidableEq

/-- `_check_thresholds` -/
def checkThresholds (counts : ThresholdCounts) :
    Except ConnectivityRefusal Unit := do
  ensure
    (1 ≤ counts.missesToDegraded ∧
      counts.missesToDegraded < counts.missesToOffline)
    .missThresholds
  ensure (1 ≤ counts.heartbeatsToRecover) .recoveryCount

/-- Counts that the machine accepts. -/
structure ConnectivityThresholds extends ThresholdCounts where
  valid : checkThresholds toThresholdCounts = .ok ()
deriving DecidableEq

/-- One drone's link state with the streak that produced it. -/
structure ConnectivityStatus where
  state : ConnectivityState
  consecutiveMisses : Int
  consecutiveHeartbeats : Int
deriving DecidableEq

/-- `INITIAL_STATUS` -/
def initialStatus : ConnectivityStatus :=
  ⟨.connected, 0, 0⟩

/-- `heartbeat_missed` -/
def heartbeatMissed (status : ConnectivityStatus)
    (thresholds : ConnectivityThresholds) : ConnectivityStatus :=
  let misses := status.consecutiveMisses + 1
  let state :=
    if status.state = .offline ∨ thresholds.missesToOffline ≤ misses then
      .offline
    else if status.state = .degraded ∨
        thresholds.missesToDegraded ≤ misses then
      .degraded
    else
      .connected
  ⟨state, misses, 0⟩

/-- `heartbeat_received` -/
def heartbeatReceived (status : ConnectivityStatus)
    (thresholds : ConnectivityThresholds) : ConnectivityStatus :=
  let heartbeats := status.consecutiveHeartbeats + 1
  let state :=
    if thresholds.heartbeatsToRecover ≤ heartbeats then .connected
    else status.state
  ⟨state, 0, heartbeats⟩

/-- One interval, with a heartbeat or without. -/
def observeInterval (absent : Bool) (status : ConnectivityStatus)
    (thresholds : ConnectivityThresholds) : ConnectivityStatus :=
  if absent then heartbeatMissed status thresholds
  else heartbeatReceived status thresholds

theorem ConnectivityThresholds.two_misses
    (thresholds : ConnectivityThresholds) :
    1 < thresholds.missesToOffline := by
  have valid := thresholds.valid
  simp only [checkThresholds, bind_eq_ok, ensure_eq_ok,
    exists_const] at valid
  omega

/-- One interval is too short to lose a drone. -/
theorem observeInterval_initial (absent : Bool)
    (thresholds : ConnectivityThresholds) :
    (observeInterval absent initialStatus thresholds).state ≠ .offline := by
  have twoMisses := thresholds.two_misses
  cases absent with
  | false =>
      simp only [observeInterval, heartbeatReceived, initialStatus,
        Bool.false_eq_true, if_false]
      split_ifs <;> simp
  | true =>
      have few : ¬thresholds.missesToOffline ≤ 0 + 1 := by omega
      simp only [observeInterval, heartbeatMissed, initialStatus, if_true,
        reduceCtorEq, false_or, few, if_false]
      split <;> simp

end AerialRescue.Domain.Connectivity
