import Mathlib.Data.List.Basic
import Mathlib.Tactic.Common

/-!
# Bounded reads of terminated lines

A line is a list of symbols without the terminator, and its text ends with the
terminator.  A bounded read takes symbols up to and including the first
terminator, but no more than its limit; this module says what it takes of the
text of a line, and what it leaves.

The module is generic in the symbols and the terminator.
-/

namespace AerialRescue.Lib.Lines

variable {α : Type} [DecidableEq α] (terminator : α)

/-- The symbols up to and including the first terminator, at most `limit`. -/
def readLine : Nat → List α → List α
  | 0, _ => []
  | _ + 1, [] => []
  | limit + 1, symbol :: rest =>
      if symbol = terminator then [symbol]
      else symbol :: readLine limit rest

/-- A line without its terminator. -/
structure Line where
  content : List α
  unterminated : terminator ∉ content

/-- A line as it is written. -/
def Line.text {terminator : α} (line : Line terminator) : List α :=
  line.content ++ [terminator]

/-- Lines as they are written one after another. -/
def textOf (lines : List (Line terminator)) : List α :=
  lines.flatMap Line.text

variable {terminator}

@[simp]
theorem readLine_nil (limit : Nat) :
    readLine terminator limit [] = [] := by
  cases limit <;> rfl

omit [DecidableEq α] in
@[simp]
theorem textOf_nil : textOf terminator [] = [] :=
  rfl

omit [DecidableEq α] in
theorem textOf_cons (line : Line terminator)
    (rest : List (Line terminator)) :
    textOf terminator (line :: rest) =
      line.content ++ terminator :: textOf terminator rest := by
  simp [textOf, Line.text]

omit [DecidableEq α] in
theorem textOf_append (first second : List (Line terminator)) :
    textOf terminator (first ++ second) =
      textOf terminator first ++ textOf terminator second :=
  List.flatMap_append

omit [DecidableEq α] in
theorem textOf_eq_nil {lines : List (Line terminator)} :
    textOf terminator lines = [] ↔ lines = [] := by
  cases lines with
  | nil => simp
  | cons line rest => simp [textOf_cons]

theorem readLine_prefix (limit : Nat) (symbols : List α) :
    readLine terminator limit symbols <+: symbols := by
  induction symbols generalizing limit with
  | nil => simp
  | cons symbol rest inductionHypothesis =>
      rcases limit with _ | limit
      · exact List.nil_prefix
      · rw [readLine]
        split
        · exact List.prefix_append [symbol] rest
        · exact (List.prefix_cons_inj symbol).2 (inductionHypothesis limit)

/-- A line that fits is read whole. -/
theorem readLine_whole {content : List α} {limit : Nat}
    (unterminated : terminator ∉ content) (fits : content.length < limit)
    (rest : List α) :
    readLine terminator limit (content ++ terminator :: rest) =
      content ++ [terminator] := by
  induction content generalizing limit with
  | nil =>
      rcases Nat.exists_eq_add_of_lt fits with ⟨more, rfl⟩
      simp [readLine]
  | cons symbol content inductionHypothesis =>
      rcases limit with _ | limit
      · cases fits
      · rw [List.mem_cons, not_or] at unterminated
        rw [List.cons_append, readLine, if_neg (Ne.symm unterminated.1)]
        have shorter := Nat.lt_of_succ_lt_succ fits
        rw [inductionHypothesis unterminated.2 shorter]
        rfl

/-- A line that does not fit is read up to the limit. -/
theorem readLine_cut {content : List α} {limit : Nat}
    (unterminated : terminator ∉ content) (long : limit ≤ content.length)
    (rest : List α) :
    readLine terminator limit (content ++ terminator :: rest) =
      content.take limit := by
  induction content generalizing limit with
  | nil =>
      rw [Nat.le_zero.1 long]
      rfl
  | cons symbol content inductionHypothesis =>
      rcases limit with _ | limit
      · rfl
      · rw [List.mem_cons, not_or] at unterminated
        rw [List.cons_append, readLine, if_neg (Ne.symm unterminated.1)]
        have shorter := Nat.le_of_succ_le_succ long
        rw [inductionHypothesis unterminated.2 shorter]
        rfl

end AerialRescue.Lib.Lines
