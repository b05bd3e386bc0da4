import AerialRescue.Domain.Commands
import AerialRescue.Lib.Run

/-!
# Runs of the dispatch lifecycle

Every order in which events can reach one command.  A refused event changes
nothing, the send count is the number of sends that were accepted, and what the
count can be in each state keeps it within the budget.
-/

namespace AerialRescue.Domain.Commands

open AerialRescue.Lib.Run

/-- `CommandEvent`, in the order of the source. -/
def commandEvents : List CommandEvent :=
  [.send, .timeOut, .acknowledge, .succeed, .fail]

/-- `is_terminal`: a state that no row of the table starts from. -/
def isTerminal (state : CommandState) : Bool :=
  commandEvents.all fun event => (commandTarget state event).isNone

/-- The progress after an event was applied, or refused. -/
def advanced (budget : SendBudget) (progress : CommandProgress)
    (event : CommandEvent) : CommandProgress :=
  (advance progress event budget).getD progress

/-- How many sends of a run were accepted. -/
def acceptedSends (budget : SendBudget) :
    CommandProgress → List CommandEvent → Nat
  | _, [] => 0
  | progress, event :: rest =>
      (if event = .send ∧ (advance progress event budget).isSome then 1
        else 0) +
        acceptedSends budget (advanced budget progress event) rest

/-- How many sends each state admits. -/
def WithinBudget (budget : SendBudget) (progress : CommandProgress) : Prop :=
  match progress.state with
  | .accepted => progress.sends < budget.maxSends
  | .abandoned => progress.sends = budget.maxSends
  | _ => 1 ≤ progress.sends ∧ progress.sends ≤ budget.maxSends

variable {budget : SendBudget} {progress : CommandProgress}

/-! ## One event -/

theorem isTerminal_iff {state : CommandState} :
    isTerminal state = true ↔ ∀ event, commandTarget state event = none := by
  constructor
  · intro terminal event
    cases state <;> cases event <;>
      first | rfl | exact absurd terminal (by decide)
  · intro stuck
    simp only [isTerminal, List.all_eq_true, Option.isNone_iff_eq_none]
    exact fun event _ => stuck event

/-- An ending refuses every event. -/
theorem advance_terminal (terminal : isTerminal progress.state = true)
    (event : CommandEvent) : advance progress event budget = none := by
  rw [advance, isTerminal_iff.1 terminal event]
  rfl

theorem advanced_refused {event : CommandEvent}
    (refused : advance progress event budget = none) :
    advanced budget progress event = progress := by
  rw [advanced, refused]
  rfl

/-- What one accepted event leads to. -/
theorem advance_cases {event : CommandEvent} {next : CommandProgress}
    (advances : advance progress event budget = some next) :
    (event = .send ∧ progress.state = .accepted ∧
        next = ⟨.inFlight, progress.sends + 1⟩) ∨
      (event = .timeOut ∧ progress.state = .inFlight ∧
        budget.maxSends ≤ progress.sends ∧
        next = ⟨.abandoned, progress.sends⟩) ∨
      (event = .timeOut ∧ progress.state = .inFlight ∧
        progress.sends < budget.maxSends ∧
        next = ⟨.accepted, progress.sends⟩) ∨
      (event = .acknowledge ∧ progress.state = .inFlight ∧
        next = ⟨.acknowledged, progress.sends⟩) ∨
      (event = .succeed ∧ progress.state = .acknowledged ∧
        next = ⟨.succeeded, progress.sends⟩) ∨
      (event = .fail ∧ progress.state = .acknowledged ∧
        next = ⟨.failed, progress.sends⟩) := by
  rcases progress with ⟨state, sends⟩
  cases state <;> cases event <;>
    simp [advance, commandTarget] at advances ⊢
  case accepted.send => exact advances.symm
  case inFlight.timeOut =>
    split at advances
    · exact Or.inl ⟨‹_›, advances.symm⟩
    · exact Or.inr ⟨Nat.lt_of_not_le ‹_›, advances.symm⟩
  case inFlight.acknowledge => exact advances.symm
  case acknowledged.succeed => exact advances.symm
  case acknowledged.fail => exact advances.symm

/-- Every accepted event keeps the count within what the state admits. -/
theorem WithinBudget.advance (within : WithinBudget budget progress)
    {event : CommandEvent} {next : CommandProgress}
    (advances : Commands.advance progress event budget = some next) :
    WithinBudget budget next := by
  unfold WithinBudget at within
  rcases advance_cases advances with
    ⟨rfl, state, rfl⟩ | ⟨rfl, state, spent, rfl⟩ | ⟨rfl, state, left, rfl⟩ |
      ⟨rfl, state, rfl⟩ | ⟨rfl, state, rfl⟩ | ⟨rfl, state, rfl⟩
  · rw [state] at within
    exact ⟨Nat.le_add_left 1 _, within⟩
  · rw [state] at within
    exact Nat.le_antisymm within.2 spent
  · exact left
  · rw [state] at within
    exact within
  · rw [state] at within
    exact within
  · rw [state] at within
    exact within

theorem WithinBudget.advanced (within : WithinBudget budget progress)
    (event : CommandEvent) :
    WithinBudget budget (Commands.advanced budget progress event) := by
  cases advances : Commands.advance progress event budget with
  | none => rwa [advanced_refused advances]
  | some next =>
      rw [Commands.advanced, advances]
      exact within.advance advances

theorem WithinBudget.sends_le (within : WithinBudget budget progress) :
    progress.sends ≤ budget.maxSends := by
  unfold WithinBudget at within
  split at within
  · exact Nat.le_of_lt within
  · exact Nat.le_of_eq within
  · exact within.2

/-- The count grows by one with a send that is accepted, and only then. -/
theorem advanced_sends (event : CommandEvent) :
    (advanced budget progress event).sends =
      progress.sends +
        if event = .send ∧ (advance progress event budget).isSome then 1
        else 0 := by
  cases advances : advance progress event budget with
  | none =>
      rw [advanced_refused advances, if_neg]
      · rfl
      · exact fun both => Bool.noConfusion both.2
  | some next =>
      rw [advanced, advances]
      rcases advance_cases advances with
        ⟨rfl, _, rfl⟩ | ⟨rfl, _, _, rfl⟩ | ⟨rfl, _, _, rfl⟩ | ⟨rfl, _, rfl⟩ |
          ⟨rfl, _, rfl⟩ | ⟨rfl, _, rfl⟩ <;> rfl

/-- Only a timeout of the last send abandons a command. -/
theorem advanced_abandoned (within : WithinBudget budget progress)
    {event : CommandEvent} (before : progress.state ≠ .abandoned)
    (after : (advanced budget progress event).state = .abandoned) :
    event = .timeOut ∧ progress.state = .inFlight ∧
      progress.sends = budget.maxSends := by
  cases advances : advance progress event budget with
  | none =>
      rw [advanced_refused advances] at after
      exact absurd after before
  | some next =>
      rw [advanced, advances] at after
      rcases advance_cases advances with
        ⟨rfl, _, rfl⟩ | ⟨rfl, state, spent, rfl⟩ | ⟨rfl, _, _, rfl⟩ |
          ⟨rfl, _, rfl⟩ | ⟨rfl, _, rfl⟩ | ⟨rfl, _, rfl⟩
      · cases after
      · exact ⟨rfl, state, Nat.le_antisymm within.sends_le spent⟩
      · cases after
      · cases after
      · cases after
      · cases after

/-! ## Runs -/

theorem withinBudget_initial (budget : SendBudget) :
    WithinBudget budget initialProgress :=
  budget.allowsOne

theorem run_withinBudget (budget : SendBudget) (events : List CommandEvent) :
    WithinBudget budget (run (advanced budget) initialProgress events) := by
  have keeps : ∀ progress event, WithinBudget budget progress →
      WithinBudget budget (advanced budget progress event) :=
    fun _ event within => within.advanced event
  exact run_keeps_always keeps events (withinBudget_initial budget)

theorem run_sends (progress : CommandProgress) (events : List CommandEvent) :
    (run (advanced budget) progress events).sends =
      progress.sends + acceptedSends budget progress events := by
  induction events generalizing progress with
  | nil => rfl
  | cons event rest inductionHypothesis =>
      rw [run_cons, inductionHypothesis, advanced_sends, acceptedSends,
        Nat.add_assoc]

/-- No run leaves an ending. -/
theorem run_terminal (terminal : isTerminal progress.state = true)
    (events : List CommandEvent) :
    run (advanced budget) progress events = progress := by
  induction events with
  | nil => rfl
  | cons event rest inductionHypothesis =>
      rw [run_cons, advanced_refused (advance_terminal terminal event),
        inductionHypothesis]

end AerialRescue.Domain.Commands
