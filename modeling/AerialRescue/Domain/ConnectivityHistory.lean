import AerialRescue.Domain.Connectivity
import AerialRescue.Lib.Run
import AerialRescue.Lib.Streaks

/-!
# Connectivity from the history

The state of a drone's link read off its whole history of heartbeat intervals:
what counts is the longest run of misses since the link last recovered, which
is the last point at which the heartbeats had come in a row often enough.  The
machine, which keeps two counters and its state, computes the same.
-/

namespace AerialRescue.Domain.Connectivity

open AerialRescue.Lib.Guard
open AerialRescue.Lib.Run
open AerialRescue.Lib.Streaks

/-- An interval of a history: whether its heartbeat was missed. -/
abbrev Interval := Bool

/-- An interval with a heartbeat. -/
def heard (missed : Interval) : Bool :=
  !missed

/-- The status after a history of intervals. -/
def statusAfter (thresholds : ConnectivityThresholds)
    (history : List Interval) : ConnectivityStatus :=
  run (fun status missed => observeInterval missed status thresholds)
    initialStatus history

/-- The history ends with enough heartbeats in a row. -/
def Recovers (thresholds : ConnectivityThresholds)
    (history : List Interval) : Prop :=
  thresholds.heartbeatsToRecover ≤ trailing heard history

instance (thresholds : ConnectivityThresholds) :
    DecidablePred (Recovers thresholds) :=
  fun history => inferInstanceAs
    (Decidable (thresholds.heartbeatsToRecover ≤ trailing heard history))

/-- The longest run of misses since the link last recovered. -/
def worstMisses (thresholds : ConnectivityThresholds)
    (history : List Interval) : Nat :=
  longest id (since (Recovers thresholds) history)

/-- The state that a number of misses in a row leads to. -/
def stateOf (thresholds : ConnectivityThresholds) (misses : Nat) :
    ConnectivityState :=
  if thresholds.missesToOffline ≤ misses then .offline
  else if thresholds.missesToDegraded ≤ misses then .degraded
  else .connected

/-! ## One more interval -/

theorem ConnectivityThresholds.ordered (thresholds : ConnectivityThresholds) :
    1 ≤ thresholds.missesToDegraded ∧
      thresholds.missesToDegraded < thresholds.missesToOffline ∧
      1 ≤ thresholds.heartbeatsToRecover := by
  have valid := thresholds.valid
  simp only [checkThresholds, bind_eq_ok, ensure_eq_ok,
    exists_const] at valid
  exact ⟨valid.1.1, valid.1.2, valid.2⟩

theorem stateOf_zero (thresholds : ConnectivityThresholds) :
    stateOf thresholds 0 = .connected := by
  have ordered := thresholds.ordered
  rw [stateOf, if_neg (by omega), if_neg (by omega)]

/-- A state is the worse one of two runs of misses. -/
theorem stateOf_max (thresholds : ConnectivityThresholds)
    (earlier now : Nat) :
    stateOf thresholds (max earlier now) =
      if stateOf thresholds earlier = .offline ∨
          thresholds.missesToOffline ≤ now then .offline
      else if stateOf thresholds earlier = .degraded ∨
          thresholds.missesToDegraded ≤ now then .degraded
      else .connected := by
  have ordered := thresholds.ordered
  unfold stateOf
  grind

/-- A link that recovers has just been heard. -/
theorem Recovers.quiet {thresholds : ConnectivityThresholds}
    {history : List Interval} (recovers : Recovers thresholds history) :
    trailing id history = 0 := by
  have ordered := thresholds.ordered
  unfold Recovers at recovers
  refine trailing_eq_zero heard (fun missed heartbeat => ?_) (by omega)
  exact Bool.not_eq_true' missed ▸ heartbeat

theorem statusAfter_concat (thresholds : ConnectivityThresholds)
    (history : List Interval) (missed : Interval) :
    statusAfter thresholds (history ++ [missed]) =
      observeInterval missed (statusAfter thresholds history) thresholds := by
  rw [statusAfter, run_append]
  rfl

/-- A heartbeat clears the runs of misses or leaves the longest one. -/
theorem worstMisses_heard (thresholds : ConnectivityThresholds)
    (history : List Interval) :
    worstMisses thresholds (history ++ [false]) =
      if thresholds.heartbeatsToRecover ≤ trailing heard history + 1 then 0
      else worstMisses thresholds history := by
  have streak : trailing heard (history ++ [false]) =
      trailing heard history + 1 := trailing_concat heard history false
  split
  · rename_i enough
    have recovers : Recovers thresholds (history ++ [false]) := by
      unfold Recovers
      rw [streak]
      exact_mod_cast enough
    rw [worstMisses, since_of _ recovers, longest_nil]
  · rename_i few
    have fails : ¬Recovers thresholds (history ++ [false]) := by
      unfold Recovers
      rw [streak]
      exact_mod_cast few
    rw [worstMisses, since_concat _ fails, longest_concat, trailing_concat]
    exact max_eq_left (Nat.zero_le _)

/-- A miss makes the run of misses at the end longer. -/
theorem worstMisses_missed (thresholds : ConnectivityThresholds)
    (history : List Interval) :
    worstMisses thresholds (history ++ [true]) =
      max (worstMisses thresholds history) (trailing id history + 1) := by
  have ordered := thresholds.ordered
  have fails : ¬Recovers thresholds (history ++ [true]) := by
    have streak : trailing heard (history ++ [true]) = 0 :=
      trailing_concat heard history true
    unfold Recovers
    rw [streak]
    omega
  rw [worstMisses, since_concat _ fails, longest_concat, trailing_concat,
    trailing_since id _ fun _ recovers => recovers.quiet]
  rfl

/-! ## Whole histories -/

/--
After any history the state is the one of the longest run of misses since the
link last recovered, and the counters are the runs that the history ends with,
of which one is empty.
-/
theorem statusAfter_eq (thresholds : ConnectivityThresholds)
    (history : List Interval) :
    statusAfter thresholds history =
        ⟨stateOf thresholds (worstMisses thresholds history),
          trailing id history, trailing heard history⟩ ∧
      (trailing id history = 0 ∨ trailing heard history = 0) := by
  constructor
  · induction history using List.reverseRecOn with
    | nil =>
        rw [worstMisses, since, List.drop_nil, longest_nil, stateOf_zero]
        rfl
    | append_singleton rest missed inductionHypothesis =>
        rw [statusAfter_concat, inductionHypothesis, trailing_concat,
          trailing_concat]
        cases missed with
        | false =>
            rw [worstMisses_heard]
            simp only [observeInterval, heartbeatReceived, heard,
              Bool.false_eq_true, if_false, id, Bool.not_false, if_true]
            split
            · rw [stateOf_zero]
              rfl
            · rfl
        | true =>
            rw [worstMisses_missed, stateOf_max]
            simp only [observeInterval, heartbeatMissed, if_true, id, heard,
              Bool.not_true, Bool.false_eq_true, if_false]
            rfl
  · by_cases missing : trailing id history = 0
    · exact .inl missing
    · refine .inr (trailing_eq_zero id (fun missed miss => ?_)
        (Nat.pos_of_ne_zero missing))
      rw [heard, show missed = true from miss]
      rfl

/--
The state is `OFFLINE`, `DEGRADED` or `CONNECTED` as the longest run of misses
since the link last recovered reaches both thresholds, the first one, or none;
and the counters are the two runs at the end of the history.
-/
theorem connectivity_of_history (thresholds : ConnectivityThresholds)
    (history : List Interval) :
    let status := statusAfter thresholds history
    let misses := worstMisses thresholds history
    (status.state = .offline ↔ thresholds.missesToOffline ≤ misses) ∧
      (status.state = .degraded ↔
        thresholds.missesToDegraded ≤ misses ∧
          misses < thresholds.missesToOffline) ∧
      (status.state = .connected ↔ misses < thresholds.missesToDegraded) ∧
      status.consecutiveMisses = trailing id history ∧
      status.consecutiveHeartbeats = trailing heard history ∧
      (status.consecutiveMisses = 0 ∨ status.consecutiveHeartbeats = 0) := by
  have ordered := thresholds.ordered
  rcases statusAfter_eq thresholds history with ⟨same, apart⟩
  dsimp only
  rw [same]
  refine ⟨?_, ?_, ?_, rfl, rfl, ?_⟩
  · unfold stateOf
    split_ifs <;> simp <;> omega
  · unfold stateOf
    split_ifs <;> simp <;> omega
  · unfold stateOf
    split_ifs <;> simp <;> omega
  · exact apart.imp (fun none => by rw [none]; rfl)
      (fun none => by rw [none]; rfl)

end AerialRescue.Domain.Connectivity
