import Mathlib.Tactic.Common

/-!
# Prefix-free framing

Encodings whose results can be split off the front of a longer text.  A text
that never holds its end mark is framed by the mark, behind any constant lead.
-/

namespace AerialRescue.Lib.Framing

variable {α β : Type}

/-- An encoding that can be split off the front of any longer text. -/
def PrefixFree (encoding : α → List β) : Prop :=
  ∀ left right first second,
    encoding left ++ first = encoding right ++ second →
      left = right ∧ first = second

/-- Texts that end at the first mark are split off the front. -/
theorem append_mark {mark : α} {left right first second : List α}
    (unmarked : mark ∉ left) (clean : mark ∉ right)
    (same : left ++ mark :: first = right ++ mark :: second) :
    left = right ∧ first = second := by
  induction left generalizing right with
  | nil =>
      cases right with
      | nil =>
          cases same
          exact ⟨rfl, rfl⟩
      | cons head rest =>
          cases same
          exact absurd List.mem_cons_self clean
  | cons head rest inductionHypothesis =>
      cases right with
      | nil =>
          cases same
          exact absurd List.mem_cons_self unmarked
      | cons other later =>
          rw [List.cons_append, List.cons_append, List.cons.injEq] at same
          rcases inductionHypothesis
            (fun member => unmarked (List.mem_cons_of_mem _ member))
            (fun member => clean (List.mem_cons_of_mem _ member))
            same.2 with ⟨rfl, rfl⟩
          rw [same.1]
          exact ⟨rfl, rfl⟩

/-- An encoding that never holds its end mark is prefix-free with it. -/
theorem prefixFree_marked {encoding : α → List β} (mark : β)
    (lead : List β) (injective : Function.Injective encoding)
    (unmarked : ∀ value, mark ∉ encoding value) :
    PrefixFree fun value => lead ++ encoding value ++ [mark] := by
  intro left right first second same
  simp only [List.append_assoc, List.append_cancel_left_eq,
    List.singleton_append] at same
  rcases append_mark (unmarked left) (unmarked right) same with
    ⟨equal, rest⟩
  exact ⟨injective equal, rest⟩

end AerialRescue.Lib.Framing
