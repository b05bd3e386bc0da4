import Mathlib.Data.List.Nodup

/-!
# Keyed tables

A table is a list of rows in insertion order whose keys are distinct: the
primary key is carried by the type, so that no sequence of statements can
build two rows with one key.  The three statements of the development are a
lookup by key, an insert that refuses a taken key, and an update of the one
row with a given key which leaves that key alone.

The module is generic in the rows and in the key.
-/

namespace AerialRescue.Lib

/-- Rows with distinct keys, oldest first. -/
@[ext]
structure Table {ρ κ : Type} (key : ρ → κ) where
  rows : List ρ
  distinct : (rows.map key).Nodup

namespace Table

variable {ρ κ : Type} {key : ρ → κ}

/-- The table with no row. -/
def empty : Table key where
  rows := []
  distinct := List.nodup_nil

@[simp]
theorem empty_rows : (empty : Table key).rows = [] :=
  rfl

/-- Two rows of one table with one key are the same row. -/
theorem eq_of_key {table : Table key} {left right : ρ}
    (leftMember : left ∈ table.rows) (rightMember : right ∈ table.rows)
    (sameKey : key left = key right) : left = right :=
  List.inj_on_of_nodup_map table.distinct leftMember rightMember sameKey

variable [DecidableEq κ]

/-- The row with a key, if there is one. -/
def find? (table : Table key) (wanted : κ) : Option ρ :=
  table.rows.find? fun row => decide (key row = wanted)

/-- Append a row, or refuse because its key is taken. -/
def insert? (table : Table key) (row : ρ) : Option (Table key) :=
  if fresh : key row ∈ table.rows.map key then
    none
  else
    some
      { rows := table.rows ++ [row]
        distinct := by
          rw [List.map_append, List.map_singleton]
          exact List.nodup_append.2
            ⟨table.distinct, List.nodup_singleton _, by
              rintro taken member _ equal rfl
              rw [List.mem_singleton] at equal
              exact fresh (equal ▸ member)⟩ }

/-- Change the row with a key through a function that keeps the key. -/
def amend (table : Table key) (wanted : κ) (change : ρ → ρ)
    (keeps : ∀ row, key (change row) = key row) : Table key where
  rows :=
    table.rows.map fun row =>
      if key row = wanted then change row else row
  distinct := by
    have same :
        (table.rows.map fun row =>
            if key row = wanted then change row else row).map key =
          table.rows.map key := by
      rw [List.map_map]
      apply List.map_congr_left
      intro row _
      by_cases chosen : key row = wanted
      · simp [chosen, keeps row]
      · simp [chosen]
    rw [same]
    exact table.distinct

/-- Change every row through a function that keeps the key. -/
def amendAll (table : Table key) (change : ρ → ρ)
    (keeps : ∀ row, key (change row) = key row) : Table key where
  rows := table.rows.map change
  distinct := by
    have same : (table.rows.map change).map key = table.rows.map key := by
      rw [List.map_map]
      exact List.map_congr_left fun row _ => keeps row
    rw [same]
    exact table.distinct

/-! ## Lookup -/

theorem find?_mem {table : Table key} {wanted : κ} {row : ρ}
    (found : table.find? wanted = some row) : row ∈ table.rows :=
  List.mem_of_find?_eq_some found

theorem find?_key {table : Table key} {wanted : κ} {row : ρ}
    (found : table.find? wanted = some row) : key row = wanted := by
  simpa using List.find?_some found

theorem find?_eq_none {table : Table key} {wanted : κ} :
    table.find? wanted = none ↔ wanted ∉ table.rows.map key := by
  simp [find?]

theorem find?_eq_some {table : Table key} {wanted : κ} {row : ρ} :
    table.find? wanted = some row ↔ row ∈ table.rows ∧ key row = wanted := by
  constructor
  · intro found
    exact ⟨find?_mem found, find?_key found⟩
  · rintro ⟨member, rfl⟩
    cases found : table.find? (key row) with
    | none =>
        rw [find?_eq_none] at found
        exact absurd (List.mem_map_of_mem member) found
    | some other =>
        rw [eq_of_key (find?_mem found) member (find?_key found)]

@[simp]
theorem find?_empty (wanted : κ) : (empty : Table key).find? wanted = none :=
  rfl

/-- A row that is there stays there while rows are appended. -/
theorem find?_of_grown {table next : Table key} {wanted : κ} {row : ρ}
    (grown : table.rows <+: next.rows)
    (found : table.find? wanted = some row) :
    next.find? wanted = some row := by
  rcases find?_eq_some.1 found with ⟨member, same⟩
  exact find?_eq_some.2 ⟨grown.subset member, same⟩

/-! ## Insertion -/

/-- An insert succeeds exactly when the key is free. -/
theorem insert?_eq_some {table next : Table key} {row : ρ} :
    table.insert? row = some next ↔
      table.find? (key row) = none ∧ next.rows = table.rows ++ [row] := by
  unfold insert?
  split
  · rename_i taken
    simp only [reduceCtorEq, false_iff, not_and]
    intro free
    exact absurd taken (find?_eq_none.1 free)
  · rename_i fresh
    simp only [Option.some.injEq]
    constructor
    · rintro rfl
      exact ⟨find?_eq_none.2 fresh, rfl⟩
    · rintro ⟨_, rows⟩
      exact Table.ext rows.symm

theorem insert?_eq_none {table : Table key} {row : ρ} :
    table.insert? row = none ↔ ∃ held, table.find? (key row) = some held := by
  unfold insert?
  split
  · rename_i taken
    simp only [true_iff]
    cases found : table.find? (key row) with
    | none => exact absurd taken (find?_eq_none.1 found)
    | some held => exact ⟨held, rfl⟩
  · rename_i fresh
    simp only [reduceCtorEq, false_iff, not_exists]
    intro held found
    exact fresh (find?_key found ▸ List.mem_map_of_mem (find?_mem found))

theorem insert?_rows {table next : Table key} {row : ρ}
    (inserted : table.insert? row = some next) :
    next.rows = table.rows ++ [row] :=
  (insert?_eq_some.1 inserted).2

theorem exists_insert? {table : Table key} {row : ρ}
    (free : table.find? (key row) = none) :
    ∃ next, table.insert? row = some next := by
  cases inserted : table.insert? row with
  | none =>
      rcases insert?_eq_none.1 inserted with ⟨held, found⟩
      rw [free] at found
      cases found
  | some next => exact ⟨next, rfl⟩

theorem find?_insert? {table next : Table key} {row : ρ}
    (inserted : table.insert? row = some next) (wanted : κ) :
    next.find? wanted =
      if key row = wanted then some row else table.find? wanted := by
  rcases insert?_eq_some.1 inserted with ⟨free, rows⟩
  by_cases same : key row = wanted
  · rw [if_pos same, find?_eq_some, rows]
    exact ⟨by simp, same⟩
  · rw [if_neg same]
    unfold find?
    rw [rows, List.find?_append]
    simp [same]

@[simp]
theorem find?_insert?_self {table next : Table key} {row : ρ}
    (inserted : table.insert? row = some next) :
    next.find? (key row) = some row := by
  simp [find?_insert? inserted]

theorem find?_insert?_of_ne {table next : Table key} {row : ρ} {wanted : κ}
    (inserted : table.insert? row = some next) (other : key row ≠ wanted) :
    next.find? wanted = table.find? wanted := by
  simp [find?_insert? inserted, other]

/-- An insert never disturbs a row that is already there. -/
theorem find?_insert?_of_some {table next : Table key} {row held : ρ}
    {wanted : κ} (inserted : table.insert? row = some next)
    (found : table.find? wanted = some held) :
    next.find? wanted = some held := by
  rw [find?_insert?_of_ne inserted, found]
  rintro rfl
  rw [(insert?_eq_some.1 inserted).1] at found
  cases found

/-! ## Amendment -/

section Amend

variable (table : Table key) (wanted : κ) (change : ρ → ρ)
  (keeps : ∀ row, key (change row) = key row)

@[simp]
theorem amend_rows :
    (table.amend wanted change keeps).rows =
      table.rows.map fun row =>
        if key row = wanted then change row else row :=
  rfl

theorem find?_amend (other : κ) :
    (table.amend wanted change keeps).find? other =
      if other = wanted then (table.find? other).map change
      else table.find? other := by
  unfold find?
  rw [amend_rows, List.find?_map]
  have sameTest :
      ((fun row => decide (key row = other)) ∘ fun row =>
          if key row = wanted then change row else row) =
        fun row => decide (key row = other) := by
    funext row
    by_cases chosen : key row = wanted
    · simp [chosen, keeps row]
    · simp [chosen]
  rw [sameTest]
  cases found : table.rows.find? fun row => decide (key row = other) with
  | none => simp
  | some row =>
      have rowKey : key row = other := by simpa using List.find?_some found
      by_cases same : other = wanted
      · simp [rowKey, same]
      · simp [rowKey, same]

/-- An amended table has the keys it had. -/
theorem isSome_find?_amend (other : κ) :
    ((table.amend wanted change keeps).find? other).isSome =
      (table.find? other).isSome := by
  rw [find?_amend]
  split
  · exact Option.isSome_map
  · rfl

@[simp]
theorem find?_amend_self :
    (table.amend wanted change keeps).find? wanted =
      (table.find? wanted).map change := by
  simp [find?_amend]

theorem find?_amend_of_ne {other : κ} (distinctKeys : other ≠ wanted) :
    (table.amend wanted change keeps).find? other = table.find? other := by
  simp [find?_amend, distinctKeys]

/-- An amended table holds the changed row and the rows of other keys. -/
theorem mem_amend {row : ρ} :
    row ∈ (table.amend wanted change keeps).rows ↔
      (∃ held, table.find? wanted = some held ∧ row = change held) ∨
        row ∈ table.rows ∧ key row ≠ wanted := by
  rw [amend_rows, List.mem_map]
  constructor
  · rintro ⟨held, member, rfl⟩
    by_cases chosen : key held = wanted
    · rw [if_pos chosen]
      exact .inl ⟨held, find?_eq_some.2 ⟨member, chosen⟩, rfl⟩
    · rw [if_neg chosen]
      exact .inr ⟨member, chosen⟩
  · rintro (⟨held, found, rfl⟩ | ⟨member, other⟩)
    · exact ⟨held, find?_mem found, if_pos (find?_key found)⟩
    · exact ⟨row, member, if_neg other⟩

/-- A change that a view does not see leaves the view of every row. -/
theorem amend_map {β : Type} {view : ρ → β}
    (unseen : ∀ row, view (change row) = view row) :
    (table.amend wanted change keeps).rows.map view =
      table.rows.map view := by
  rw [amend_rows, List.map_map]
  apply List.map_congr_left
  intro row _
  simp only [Function.comp_apply]
  split
  · exact unseen row
  · rfl

/-- Changing the row that was just inserted leaves the others alone. -/
theorem amend_insert?_rows {next : Table key} {row : ρ}
    (inserted : table.insert? row = some next) :
    (next.amend (key row) change keeps).rows =
      table.rows ++ [change row] := by
  rcases insert?_eq_some.1 inserted with ⟨free, rows⟩
  rw [amend_rows, rows, List.map_append]
  have untouched :
      (table.rows.map fun held =>
          if key held = key row then change held else held) =
        table.rows := by
    rw [List.map_congr_left (g := id)]
    · exact List.map_id _
    · intro held member
      have other : key held ≠ key row := by
        intro same
        exact find?_eq_none.1 free
          (same ▸ List.mem_map_of_mem member)
      simp [other]
  rw [untouched]
  simp

theorem find?_amendAll (other : κ) :
    (table.amendAll change keeps).find? other =
      (table.find? other).map change := by
  unfold find? amendAll
  rw [List.find?_map]
  have sameTest : ((fun row => decide (key row = other)) ∘ change) =
      fun row => decide (key row = other) := by
    funext row
    simp [keeps row]
  rw [sameTest]

end Amend

end Table

end AerialRescue.Lib
