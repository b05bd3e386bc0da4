import Mathlib.Data.Finset.Lattice.Fold
import Mathlib.Data.Nat.Find
import Mathlib.Order.Lattice.Nat
import Mathlib.Tactic.Common

/-!
# Streaks in a history

The run of selected items a history ends with, the longest such run anywhere
in it, and the last point of a history at which a condition on what had
happened by then held.  Each is defined from the whole history; the lemmas say
how it changes when one more item is added at the end.

The module is generic in the items and the condition.
-/

namespace AerialRescue.Lib.Streaks

variable {α : Type} (selects : α → Bool)

/-- The number of selected items that a history ends with. -/
def trailing (history : List α) : Nat :=
  (history.reverse.takeWhile selects).length

/-- The longest run of selected items in a history. -/
def longest (history : List α) : Nat :=
  (Finset.range (history.length + 1)).sup fun count =>
    trailing selects (history.take count)

/-- The last point at which a condition held, or the start. -/
def lastPoint (condition : List α → Prop) [DecidablePred condition]
    (history : List α) : Nat :=
  Nat.findGreatest (fun count => condition (history.take count))
    history.length

/-- What has happened since the last point at which a condition held. -/
def since (condition : List α → Prop) [DecidablePred condition]
    (history : List α) : List α :=
  history.drop (lastPoint condition history)

@[simp]
theorem trailing_nil : trailing selects [] = 0 :=
  rfl

@[simp]
theorem longest_nil : longest selects [] = 0 :=
  rfl

theorem trailing_concat (history : List α) (item : α) :
    trailing selects (history ++ [item]) =
      if selects item then trailing selects history + 1 else 0 := by
  unfold trailing
  rw [List.reverse_concat, List.takeWhile_cons]
  split <;> rfl

theorem longest_concat (history : List α) (item : α) :
    longest selects (history ++ [item]) =
      max (longest selects history)
        (trailing selects (history ++ [item])) := by
  have earlier :
      ((Finset.range (history.length + 1)).sup fun count =>
        trailing selects ((history ++ [item]).take count)) =
        longest selects history := by
    refine Finset.sup_congr rfl fun count inside => ?_
    rw [Finset.mem_range] at inside
    rw [List.take_append_of_le_length (by omega)]
  have whole : (history ++ [item]).take (history.length + 1) =
      history ++ [item] :=
    List.take_of_length_le (by simp)
  rw [longest, List.length_append, List.length_singleton,
    Finset.range_add_one, Finset.sup_insert, earlier, whole, max_comm]

/-- After a history that does not end with a selected item, the run at the end
is one of what follows. -/
theorem trailing_append {first second : List α}
    (quiet : trailing selects first = 0) :
    trailing selects (first ++ second) = trailing selects second := by
  induction second using List.reverseRecOn with
  | nil => rw [List.append_nil, quiet, trailing_nil]
  | append_singleton rest item inductionHypothesis =>
      rw [← List.append_assoc, trailing_concat, trailing_concat,
        inductionHypothesis]

/-- A history that ends with an item of one kind ends with none of another. -/
theorem trailing_eq_zero {other : α → Bool} {history : List α}
    (apart : ∀ item, selects item = true → other item = false)
    (some_item : 0 < trailing selects history) :
    trailing other history = 0 := by
  induction history using List.reverseRecOn with
  | nil => exact absurd some_item (Nat.lt_irrefl 0)
  | append_singleton rest item _ =>
      rw [trailing_concat] at some_item ⊢
      split at some_item
      · rename_i selected
        rw [apart item selected]
        rfl
      · exact absurd some_item (Nat.lt_irrefl 0)

section Since

variable (condition : List α → Prop) [DecidablePred condition]

theorem lastPoint_le (history : List α) :
    lastPoint condition history ≤ history.length :=
  Nat.findGreatest_le history.length

/-- The last point is the start, or the condition held there. -/
theorem lastPoint_spec (history : List α) :
    lastPoint condition history = 0 ∨
      condition (history.take (lastPoint condition history)) := by
  by_cases start : lastPoint condition history = 0
  · exact .inl start
  · exact .inr (Nat.findGreatest_of_ne_zero rfl start)

theorem lastPoint_concat (history : List α) (item : α) :
    lastPoint condition (history ++ [item]) =
      if condition (history ++ [item]) then history.length + 1
      else lastPoint condition history := by
  have whole : (history ++ [item]).take (history.length + 1) =
      history ++ [item] :=
    List.take_of_length_le (by simp)
  rw [lastPoint, List.length_append, List.length_singleton,
    Nat.findGreatest_succ, whole]
  split
  · rfl
  · have earlier (count : Nat) (inside : count ≤ history.length) :
        (history ++ [item]).take count = history.take count :=
      List.take_append_of_le_length inside
    rcases Nat.findGreatest_eq_iff.1
      (rfl : lastPoint condition history = _) with ⟨bound, held, later⟩
    refine Nat.findGreatest_eq_iff.2 ⟨bound, fun start => ?_,
      fun count above inside => ?_⟩
    · rw [earlier _ bound]
      exact held start
    · rw [earlier _ inside]
      exact later above inside

/-- When the condition holds, nothing has happened since. -/
theorem since_of {history : List α} (holds : condition history) :
    since condition history = [] := by
  have last : lastPoint condition history = history.length :=
    Nat.findGreatest_eq (by rwa [List.take_length])
  rw [since, last, List.drop_length]

theorem since_concat {history : List α} {item : α}
    (fails : ¬condition (history ++ [item])) :
    since condition (history ++ [item]) =
      since condition history ++ [item] := by
  rw [since, lastPoint_concat, if_neg fails,
    List.drop_append_of_le_length (lastPoint_le condition history)]
  rfl

/-- The run at the end of a history has happened since a point at which there
was none. -/
theorem trailing_since (quiet : ∀ history, condition history →
    trailing selects history = 0) (history : List α) :
    trailing selects (since condition history) =
      trailing selects history := by
  have before :
      trailing selects (history.take (lastPoint condition history)) = 0 := by
    rcases lastPoint_spec condition history with start | held
    · rw [start]
      rfl
    · exact quiet _ held
  have split := List.take_append_drop (lastPoint condition history) history
  calc
    trailing selects (since condition history) =
        trailing selects (history.take (lastPoint condition history) ++
          since condition history) := (trailing_append selects before).symm
    _ = trailing selects history := by rw [since, split]

end Since

end AerialRescue.Lib.Streaks
