import AerialRescue.Domain.CommandRuns
import AerialRescue.Gateway.Progression

/-!
# The retry schedule

The wait between two sends of a command, and the timeout that either schedules
another send or abandons the command.  The budget of the domain, the domain of
the wait and the cap of the store are separate limits; over every run of a
command they fit together.
-/

namespace AerialRescue.Gateway

open AerialRescue.Domain.Commands
open AerialRescue.Lib
open AerialRescue.Lib.Guard
open AerialRescue.Lib.Run
open AerialRescue.Lib.Transaction
open AerialRescue.Store

/-! ## The schedule -/

/-- `MAX_COMMAND_SENDS` -/
def maxCommandSends : Nat := 5

/-- `ACKNOWLEDGEMENT_TIMEOUT_SECONDS` -/
def acknowledgementTimeoutSeconds : Int := 6

/-- `BACKOFF_BASE_SECONDS` -/
def backoffBaseSeconds : Int := acknowledgementTimeoutSeconds

/-- `JITTER_BOUND_MILLISECONDS` -/
def jitterBoundMilliseconds : Int := backoffBaseSeconds * 1000

/-- `BACKOFF_FACTOR` -/
def backoffFactor : Int := 2

/-- `REQUIRED_DRAWS` -/
def requiredDraws : Nat := maxCommandSends - 1

/-- Why a schedule cannot be computed. -/
inductive ScheduleRefusal where
  | timeoutCount
  | jitterRange
  | drawCount
deriving DecidableEq

/-- `_checked_draw` -/
def checkedDraw (value : Int) : Except ScheduleRefusal Int := do
  ensure (0 ≤ value ∧ value < jitterBoundMilliseconds) .jitterRange
  pure value

/-- A backoff after it was doubled a number of times. -/
def doubled : Nat → Int → Int
  | 0, backoff => backoff
  | count + 1, backoff => doubled count (backoff * backoffFactor)

/-- `wait_milliseconds` -/
def waitMilliseconds (timeouts : Nat) (jitterMilliseconds : Int) :
    Except ScheduleRefusal Int := do
  ensure (1 ≤ timeouts ∧ timeouts < maxCommandSends) .timeoutCount
  let backoff := doubled (timeouts - 1) (backoffBaseSeconds * 1000)
  let draw ← checkedDraw jitterMilliseconds
  pure (backoff + draw)

/-- The waits of consecutive timeouts, summed. -/
def waitingFrom (timeouts : Nat) : List Int → Except ScheduleRefusal Int
  | [] => pure 0
  | draw :: rest => do
      let wait ← waitMilliseconds timeouts draw
      let later ← waitingFrom (timeouts + 1) rest
      pure (wait + later)

/-- `abandon_instant_milliseconds` -/
def abandonInstantMilliseconds (jitterMilliseconds : List Int) :
    Except ScheduleRefusal Int := do
  ensure (jitterMilliseconds.length = requiredDraws) .drawCount
  let acknowledging :=
    maxCommandSends * acknowledgementTimeoutSeconds * 1000
  let waiting ← waitingFrom 1 jitterMilliseconds
  pure (acknowledging + waiting)

/-! ## Timeouts -/

/-- Whether a timeout scheduled another send or spent the budget. -/
inductive TimeoutOutcome where
  | retry
  | abandoned
deriving DecidableEq

/-- Durable timeout progress and the wait before another send. -/
structure TimeoutResult where
  outcome : TimeoutOutcome
  progress : StoredCommandProgress
  waitMilliseconds : Option Int

/-- What escapes `record_timeout`. -/
inductive TimeoutFailure where
  | store (failure : StoreFailure)
  | schedule (refusal : ScheduleRefusal)

/-- `record_timeout`, with the wait before another send. -/
def recordTimeoutResult (current : StoredCommandProgress)
    (updatedAt : String) (jitterMilliseconds : Int) :
    Tx Database TimeoutFailure TimeoutResult := do
  let became ← rethrow TimeoutFailure.store (recordTimeout current updatedAt)
  if became.progress.state = .abandoned then
    pure
      { outcome := .abandoned
        progress := became
        waitMilliseconds := none }
  else do
    let waiting ← lift TimeoutFailure.schedule
      (waitMilliseconds current.progress.sends jitterMilliseconds)
    pure
      { outcome := .retry
        progress := became
        waitMilliseconds := some waiting }

/-! ## The limits fit together -/

/-- A wait is defined for each timeout before the last, and each draw. -/
theorem waitMilliseconds_isOk {timeouts : Nat} {jitter : Int} :
    (∃ wait, waitMilliseconds timeouts jitter = .ok wait) ↔
      (1 ≤ timeouts ∧ timeouts < maxCommandSends) ∧
        0 ≤ jitter ∧ jitter < jitterBoundMilliseconds := by
  simp only [waitMilliseconds, checkedDraw, bind_eq_ok, ensure_eq_ok,
    exists_const, pure_eq_ok]
  constructor
  · rintro ⟨wait, timed, draw, ⟨within, rfl⟩, rfl⟩
    exact ⟨timed, within⟩
  · rintro ⟨timed, within⟩
    exact ⟨_, timed, _, ⟨within, rfl⟩, rfl⟩

theorem waitMilliseconds_ok {timeouts : Nat} {jitter wait : Int}
    (waits : waitMilliseconds timeouts jitter = .ok wait) :
    doubled (timeouts - 1) 6000 ≤ wait ∧
      wait < doubled (timeouts - 1) 6000 + 6000 := by
  simp only [waitMilliseconds, checkedDraw, bind_eq_ok, ensure_eq_ok,
    exists_const, pure_eq_ok] at waits
  rcases waits with ⟨_, draw, ⟨within, rfl⟩, rfl⟩
  have bound : jitterBoundMilliseconds = 6000 := rfl
  have base : backoffBaseSeconds * 1000 = 6000 := rfl
  rw [base]
  omega

/-- A command is abandoned at least 120 and less than 144 seconds on. -/
theorem abandonInstant_window {draws : List Int} {instant : Int}
    (computed : abandonInstantMilliseconds draws = .ok instant) :
    120000 ≤ instant ∧ instant < 144000 := by
  simp only [abandonInstantMilliseconds, bind_eq_ok, ensure_eq_ok,
    exists_const, pure_eq_ok] at computed
  rcases computed with ⟨count, waiting, summed, rfl⟩
  cases draws with
  | nil => cases count
  | cons first rest =>
      rcases List.length_eq_three.1 (Nat.succ.inj count) with
        ⟨second, third, fourth, rfl⟩
      simp only [waitingFrom, bind_eq_ok, pure_eq_ok] at summed
      rcases summed with ⟨one, ones, _, ⟨two, twos, _, ⟨three, threes, _,
        ⟨four, fours, _, rfl, rfl⟩, rfl⟩, rfl⟩, rfl⟩
      have spans := And.intro (waitMilliseconds_ok ones)
        (And.intro (waitMilliseconds_ok twos)
          (And.intro (waitMilliseconds_ok threes)
            (waitMilliseconds_ok fours)))
      simp only [doubled, backoffFactor, maxCommandSends,
        acknowledgementTimeoutSeconds, Nat.sub_self] at spans ⊢
      omega

/-- A row whose progress a run of the domain can reach. -/
def Reached (budget : SendBudget) (row : StoredCommandProgress) : Prop :=
  ∃ events, row.progress = run (advanced budget) initialProgress events

theorem Reached.withinBudget {budget : SendBudget}
    {row : StoredCommandProgress} (reached : Reached budget row) :
    WithinBudget budget row.progress := by
  rcases reached with ⟨events, same⟩
  rw [same]
  exact run_withinBudget budget events

/-- Under a budget of five the store records what the domain accepts. -/
theorem recordTransition_reached {budget : SendBudget}
    (small : budget.maxSends ≤ maximumSendCount)
    {current : StoredCommandProgress} (reached : Reached budget current)
    {event : CommandEvent} {became : CommandProgress}
    (accepts : advance current.progress event budget = some became)
    (facts : TransitionFacts) {before : Database}
    (found : before.progress.find? current.key = some current) :
    ∃ after, exec (recordTransition current event budget facts) before =
      (.ok (transitioned current became facts), after) := by
  have within := reached.withinBudget
  exact ⟨_, recordTransition_of found (within.sends_le.trans small) accepts
    ((within.advance accepts).sends_le.trans small)⟩

/-- What one recorded timeout returns, from what it leads to. -/
theorem recordTimeoutResult_eq_ok {current : StoredCommandProgress}
    {updatedAt : String} {jitter : Int} {before after : Database}
    {result : TimeoutResult} :
    exec (recordTimeoutResult current updatedAt jitter) before =
        (.ok result, after) ↔
      ∃ became,
        exec (recordTimeout current updatedAt) before = (.ok became, after) ∧
        if became.progress.state = .abandoned then
          result = ⟨.abandoned, became, none⟩
        else ∃ wait,
          waitMilliseconds current.progress.sends jitter = .ok wait ∧
            result = ⟨.retry, became, some wait⟩ := by
  simp only [recordTimeoutResult, exec_bind_eq_ok, exec_rethrow_eq_ok]
  constructor
  · rintro ⟨became, middle, recorded, rest⟩
    rw [exec_ite] at rest
    split at rest
    · next abandoned =>
        cases rest
        exact ⟨became, recorded, by rw [if_pos abandoned]⟩
    · next waiting =>
        simp only [exec_bind_eq_ok, exec_lift_eq_ok, exec_pure,
          Prod.mk.injEq, Except.ok.injEq] at rest
        rcases rest with ⟨wait, _, ⟨waits, rfl⟩, rfl, rfl⟩
        refine ⟨became, recorded, ?_⟩
        rw [if_neg waiting]
        exact ⟨wait, waits, rfl⟩
  · rintro ⟨became, recorded, rest⟩
    refine ⟨became, after, recorded, ?_⟩
    rw [exec_ite]
    split at rest
    · next abandoned =>
        rw [if_pos abandoned, rest]
        rfl
    · next waiting =>
        rcases rest with ⟨wait, waits, rfl⟩
        rw [if_neg waiting]
        simp only [exec_bind_eq_ok, exec_lift_eq_ok, exec_pure,
          Prod.mk.injEq, Except.ok.injEq]
        exact ⟨wait, after, ⟨waits, rfl⟩, rfl, rfl⟩

/-- A timeout of a command in flight is recorded, whatever is drawn. -/
theorem recordTimeoutResult_reached {current : StoredCommandProgress}
    (reached : Reached sendBudget current) (updatedAt : String)
    {jitter : Int} (drawn : 0 ≤ jitter ∧ jitter < jitterBoundMilliseconds)
    {before : Database}
    (found : before.progress.find? current.key = some current)
    (flying : current.progress.state = .inFlight) :
    ∃ result after,
      exec (recordTimeoutResult current updatedAt jitter) before =
        (.ok result, after) ∧
      (result.outcome = .retry ↔
        current.progress.sends < sendBudget.maxSends) := by
  have within := reached.withinBudget
  have sent : 1 ≤ current.progress.sends := by
    unfold WithinBudget at within
    rw [flying] at within
    exact within.1
  have accepts : ∃ became,
      advance current.progress .timeOut sendBudget = some became := by
    unfold advance
    rw [flying]
    exact ⟨_, rfl⟩
  rcases accepts with ⟨became, accepts⟩
  rcases recordTransition_reached (Nat.le_refl _) reached accepts
    { lastSentAt := current.lastSentAt
      deadlineAt := none
      resultId := current.resultId
      updatedAt } found with ⟨after, recorded⟩
  rcases advance_cases accepts with
    ⟨send, _⟩ | ⟨_, _, spent, rfl⟩ | ⟨_, _, left, rfl⟩ | ⟨other, _⟩ |
      ⟨other, _⟩ | ⟨other, _⟩
  · cases send
  · have returned : exec (recordTimeoutResult current updatedAt jitter)
        before = (.ok ⟨.abandoned, _, none⟩, after) :=
      recordTimeoutResult_eq_ok.2 ⟨_, recorded, rfl⟩
    exact ⟨_, after, returned,
      iff_of_false nofun (Nat.not_lt_of_le spent)⟩
  · rcases waitMilliseconds_isOk.2 ⟨⟨sent, left⟩, drawn⟩ with ⟨wait, waits⟩
    have returned : exec (recordTimeoutResult current updatedAt jitter)
        before = (.ok ⟨.retry, _, some wait⟩, after) :=
      recordTimeoutResult_eq_ok.2 ⟨_, recorded, wait, waits, rfl⟩
    exact ⟨_, after, returned, iff_of_true rfl left⟩
  · cases other
  · cases other
  · cases other

/-! ## The budget of a command -/

/-- A command after its fifth timeout, under a budget of six sends. -/
def sixthSend : StoredCommandProgress where
  identity := ⟨"command-1", "mission-1", "drone-1"⟩
  progress := ⟨.accepted, 5⟩
  lastSentAt := none
  deadlineAt := none
  resultId := none
  updatedAt := "2026-01-01T00:00:00.000Z"

/-- Under a budget of six the store refuses a send that the domain accepts. -/
theorem sixthSend_refused :
    Reached ⟨6, by decide⟩ sixthSend ∧
      advance sixthSend.progress .send ⟨6, by decide⟩ =
        some ⟨.inFlight, 6⟩ ∧
      (exec (recordTransition sixthSend .send ⟨6, by decide⟩
        ⟨none, none, none, sixthSend.updatedAt⟩) Database.empty).1 =
        .error (.progress .sendCountOutOfRange) :=
  ⟨⟨[.send, .timeOut, .send, .timeOut, .send, .timeOut, .send, .timeOut,
    .send, .timeOut], by decide⟩, by decide, by rfl⟩

/--
In every run of a command its send count is the number of sends accepted and
within the budget; it is abandoned only by a timeout that finds the budget
spent; and an ending refuses every event.  A retry has the wait that the
schedule defines, a timeout of a command in flight is recorded whatever is
drawn, and under a budget of at most five sends, as the gateway's is, the store
records every transition that the domain accepts.
-/
theorem command_budget :
    (∀ (budget : SendBudget) (events : List CommandEvent),
      let progress := run (advanced budget) initialProgress events
      progress.sends = acceptedSends budget initialProgress events ∧
      progress.sends ≤ budget.maxSends ∧
      (∀ event, progress.state ≠ .abandoned →
        (advanced budget progress event).state = .abandoned →
          event = .timeOut ∧ progress.sends = budget.maxSends) ∧
      (isTerminal progress.state = true → ∀ event,
        advance progress event budget = none ∧
          advanced budget progress event = progress)) ∧
    (∀ (current : StoredCommandProgress) (updatedAt : String) (jitter : Int)
      (before after : Database) (result : TimeoutResult),
      exec (recordTimeoutResult current updatedAt jitter) before =
        (.ok result, after) → result.outcome = .retry → ∃ wait,
          result.waitMilliseconds = some wait ∧
            waitMilliseconds current.progress.sends jitter = .ok wait) ∧
    (∀ (current : StoredCommandProgress) (updatedAt : String) (jitter : Int)
      (before : Database), Reached sendBudget current →
        current.progress.state = .inFlight →
        before.progress.find? current.key = some current →
        0 ≤ jitter ∧ jitter < jitterBoundMilliseconds →
        ∃ result after,
          exec (recordTimeoutResult current updatedAt jitter) before =
            (.ok result, after) ∧
          (result.outcome = .retry ↔
            current.progress.sends < sendBudget.maxSends)) ∧
    (sendBudget.maxSends ≤ maximumSendCount ∧
      ∀ (budget : SendBudget) (current : StoredCommandProgress)
        (event : CommandEvent) (became : CommandProgress)
        (facts : TransitionFacts) (before : Database),
        budget.maxSends ≤ maximumSendCount → Reached budget current →
        before.progress.find? current.key = some current →
        advance current.progress event budget = some became →
        ∃ after, exec (recordTransition current event budget facts) before =
          (.ok (transitioned current became facts), after)) := by
  refine ⟨fun budget events => ⟨?_, ?_, fun event before after => ?_,
    fun terminal event => ?_⟩, ?_, ?_, Nat.le_refl _, ?_⟩
  · exact (run_sends initialProgress events).trans (Nat.zero_add _)
  · exact (run_withinBudget budget events).sends_le
  · rcases advanced_abandoned (run_withinBudget budget events) before after
      with ⟨timedOut, _, spent⟩
    exact ⟨timedOut, spent⟩
  · have refused : advance (run (advanced budget) initialProgress events)
        event budget = none := advance_terminal terminal event
    exact ⟨refused, advanced_refused refused⟩
  · intro current updatedAt jitter before after result returned retry
    rcases recordTimeoutResult_eq_ok.1 returned with
      ⟨became, _, returned⟩
    split at returned
    · rw [returned] at retry
      cases retry
    · rcases returned with ⟨wait, waits, rfl⟩
      exact ⟨wait, rfl, waits⟩
  · intro current updatedAt jitter before reached flying found drawn
    exact recordTimeoutResult_reached reached updatedAt drawn found flying
  · intro budget current event became facts before small reached found
      accepts
    exact recordTransition_reached small reached accepts facts found

end AerialRescue.Gateway
