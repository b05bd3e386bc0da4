import Mathlib.Tactic.Common

/-!
# Runs of a step function

A component that takes one action after another is a step function on its
state.  This module has the runs of such a function, the condition that every
step of a run meets in the state it is taken from, and the rules that carry an
invariant from one step to a whole run.

The module is generic in the states, the actions and the step function.
-/

namespace AerialRescue.Lib.Run

variable {σ α : Type} (step : σ → α → σ)

/-- The state after taking every action in order. -/
def run (start : σ) (actions : List α) : σ :=
  actions.foldl step start

@[simp]
theorem run_nil (start : σ) : run step start [] = start :=
  rfl

@[simp]
theorem run_cons (start : σ) (action : α) (rest : List α) :
    run step start (action :: rest) = run step (step start action) rest :=
  rfl

theorem run_append (start : σ) (first second : List α) :
    run step start (first ++ second) =
      run step (run step start first) second :=
  List.foldl_append

/-- Each step of the run meets a condition in the state it is taken from. -/
def Along (condition : σ → α → Prop) : σ → List α → Prop
  | _, [] => True
  | state, action :: rest =>
      condition state action ∧ Along condition (step state action) rest

instance Along.decidable (condition : σ → α → Prop)
    [∀ state action, Decidable (condition state action)] :
    ∀ (start : σ) (actions : List α),
      Decidable (Along step condition start actions)
  | _, [] => inferInstanceAs (Decidable True)
  | start, action :: rest =>
      have := Along.decidable condition (step start action) rest
      inferInstanceAs
        (Decidable
          (condition start action ∧
            Along step condition (step start action) rest))

variable {step}

theorem Along.split {condition : σ → α → Prop} {start : σ}
    {first second : List α}
    (along : Along step condition start (first ++ second)) :
    Along step condition start first ∧
      Along step condition (run step start first) second := by
  induction first generalizing start with
  | nil => exact ⟨trivial, along⟩
  | cons action rest inductionHypothesis =>
      rcases along with ⟨here, later⟩
      rcases inductionHypothesis later with ⟨before, after⟩
      exact ⟨⟨here, before⟩, after⟩

theorem Along.append {condition : σ → α → Prop} {start : σ}
    {first second : List α} (before : Along step condition start first)
    (after : Along step condition (run step start first) second) :
    Along step condition start (first ++ second) := by
  induction first generalizing start with
  | nil => exact after
  | cons action rest inductionHypothesis =>
      exact ⟨before.1, inductionHypothesis before.2 after⟩

theorem Along.of_forall {condition : σ → α → Prop}
    (always : ∀ state action, condition state action)
    (start : σ) (actions : List α) :
    Along step condition start actions := by
  induction actions generalizing start with
  | nil => trivial
  | cons action rest inductionHypothesis =>
      exact ⟨always start action, inductionHypothesis _⟩

theorem Along.of_mem {condition : σ → α → Prop} {actions : List α}
    (admissible : ∀ action ∈ actions, ∀ state, condition state action)
    (start : σ) : Along step condition start actions := by
  induction actions generalizing start with
  | nil => trivial
  | cons action rest inductionHypothesis =>
      refine ⟨admissible action List.mem_cons_self start, ?_⟩
      exact inductionHypothesis
        (fun later member => admissible later (List.mem_cons_of_mem _ member))
        (step start action)

/--
The invariant rule: what every admissible step keeps, every admissible run
keeps.
-/
theorem run_keeps {invariant : σ → Prop} {condition : σ → α → Prop}
    (keeps :
      ∀ state action, condition state action → invariant state →
        invariant (step state action))
    {start : σ} {actions : List α}
    (along : Along step condition start actions)
    (initial : invariant start) : invariant (run step start actions) := by
  induction actions generalizing start with
  | nil => exact initial
  | cons action rest inductionHypothesis =>
      rcases along with ⟨here, later⟩
      exact inductionHypothesis later (keeps start action here initial)

/-- Conditions that agree wherever an invariant holds agree along a run. -/
theorem Along.iff_of_invariant {invariant : σ → Prop}
    {left right : σ → α → Prop}
    (keeps :
      ∀ state action, invariant state → invariant (step state action))
    (agree :
      ∀ state action, invariant state →
        (left state action ↔ right state action))
    {start : σ} (actions : List α) (initial : invariant start) :
    Along step left start actions ↔ Along step right start actions := by
  induction actions generalizing start with
  | nil => exact Iff.rfl
  | cons action rest inductionHypothesis =>
      exact and_congr (agree start action initial)
        (inductionHypothesis (keeps start action initial))

/-- The invariant rule for steps that are always admissible. -/
theorem run_keeps_always {invariant : σ → Prop}
    (keeps :
      ∀ state action, invariant state → invariant (step state action))
    {start : σ} (actions : List α) (initial : invariant start) :
    invariant (run step start actions) := by
  have along : Along step (fun _ _ => True) start actions :=
    Along.of_forall (fun _ _ => trivial) start actions
  exact run_keeps (fun state action _ => keeps state action) along initial

end AerialRescue.Lib.Run
