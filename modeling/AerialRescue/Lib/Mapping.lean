import AerialRescue.Lib.Guard
import AerialRescue.Lib.Table

/-!
# Mappings

A mapping holds one value under each of its names, in the order the names were
first written.  Two mappings are the same when every name finds the same value,
whatever the order.  The rules of this module say what a loop over the names
leaves under each of them.

The module is generic in the names and in the values.
-/

namespace AerialRescue.Lib

open AerialRescue.Lib.Guard

/-- Values under distinct names. -/
abbrev Mapping (κ ν : Type) :=
  Table (Prod.fst : κ × ν → κ)

namespace Mapping

variable {κ ν α ε : Type} [DecidableEq κ]

/-- `mapping.get(name)` -/
def get? (mapping : Mapping κ ν) (name : κ) : Option ν :=
  (mapping.find? name).map Prod.snd

/-- `mapping[name] = value` -/
def put (mapping : Mapping κ ν) (name : κ) (value : ν) : Mapping κ ν :=
  match mapping.insert? (name, value) with
  | some grown => grown
  | none => mapping.amend name (fun row => (row.1, value)) (fun _ => rfl)

/-- `del mapping[name]`, if the name is there. -/
def remove (mapping : Mapping κ ν) (name : κ) : Mapping κ ν where
  rows := mapping.rows.filter fun row => row.1 ≠ name
  distinct :=
    mapping.distinct.sublist (List.filter_sublist.map Prod.fst)

/-- The mapping of a list of pairs; a later pair replaces an earlier one. -/
def ofList (pairs : List (κ × ν)) : Mapping κ ν :=
  pairs.foldl (fun mapping pair => mapping.put pair.1 pair.2) Table.empty

/-- `left == right`: every name finds the same value. -/
def Same (left right : Mapping κ ν) : Prop :=
  ∀ name, left.get? name = right.get? name

/-! ## Lookup -/

@[simp]
theorem get?_empty (name : κ) :
    get? (Table.empty : Mapping κ ν) name = none :=
  rfl

theorem get?_eq_some {mapping : Mapping κ ν} {name : κ} {value : ν} :
    mapping.get? name = some value ↔ (name, value) ∈ mapping.rows := by
  rw [get?, Option.map_eq_some_iff]
  constructor
  · rintro ⟨row, found, rfl⟩
    rcases Table.find?_eq_some.1 found with ⟨member, rfl⟩
    exact member
  · intro member
    exact ⟨(name, value), Table.find?_eq_some.2 ⟨member, rfl⟩, rfl⟩

@[simp]
theorem get?_put (mapping : Mapping κ ν) (name other : κ) (value : ν) :
    (mapping.put name value).get? other =
      if other = name then some value else mapping.get? other := by
  unfold put
  split
  · rename_i grown inserted
    rw [get?, Table.find?_insert? inserted]
    by_cases same : other = name
    · simp [same]
    · simp [same, Ne.symm same, get?]
  · rename_i taken
    rcases Table.insert?_eq_none.1 taken with ⟨held, found⟩
    rw [get?, Table.find?_amend]
    by_cases same : other = name
    · simp only at found
      simp [same, found]
    · simp [same, get?]

@[simp]
theorem get?_remove (mapping : Mapping κ ν) (name other : κ) :
    (mapping.remove name).get? other =
      if other = name then none else mapping.get? other := by
  have removed (value : ν) :
      (mapping.remove name).get? other = some value ↔
        mapping.get? other = some value ∧ other ≠ name := by
    simp [get?_eq_some, remove]
  by_cases same : other = name
  · rw [if_pos same, Option.eq_none_iff_forall_ne_some]
    intro value found
    exact ((removed value).1 found).2 same
  · rw [if_neg same]
    apply Option.ext
    intro value
    rw [removed, and_iff_left same]

/-! ## Mappings given by a function -/

/-- The mapping holds one value for each item, and nothing else. -/
structure Tabulates (mapping : Mapping κ ν) (items : List α)
    (name : α → κ) (value : α → ν) : Prop where
  found : ∀ item ∈ items, mapping.get? (name item) = some (value item)
  absent : ∀ other, other ∉ items.map name → mapping.get? other = none

variable {items : List α} {name : α → κ} {value : α → ν}

/-- Every row is the value of some item. -/
theorem Tabulates.row {mapping : Mapping κ ν}
    (tabulates : mapping.Tabulates items name value) {row : κ × ν}
    (member : row ∈ mapping.rows) :
    ∃ item ∈ items, row = (name item, value item) := by
  have found : mapping.get? row.1 = some row.2 := get?_eq_some.2 member
  have named : row.1 ∈ items.map name := by
    by_contra other
    rw [tabulates.absent _ other] at found
    cases found
  rcases List.mem_map.1 named with ⟨item, inItems, same⟩
  rw [← same, tabulates.found item inItems, Option.some.injEq] at found
  exact ⟨item, inItems, Prod.ext same.symm found.symm⟩

/-- A test of every value is a test of every item. -/
theorem Tabulates.all_rows {mapping : Mapping κ ν}
    (tabulates : mapping.Tabulates items name value) (test : ν → Bool) :
    (mapping.rows.all fun row => test row.2) = true ↔
      ∀ item ∈ items, test (value item) = true := by
  rw [List.all_eq_true]
  constructor
  · intro every item member
    exact every _ (get?_eq_some.1 (tabulates.found item member))
  · intro every row member
    rcases tabulates.row member with ⟨item, inItems, rfl⟩
    exact every item inItems

/-- One function tabulated twice gives the same mapping. -/
theorem Tabulates.same {left right : Mapping κ ν} {others : List α}
    (first : left.Tabulates items name value)
    (second : right.Tabulates others name value)
    (sameItems : ∀ item, item ∈ items ↔ item ∈ others) : left.Same right := by
  intro other
  by_cases named : other ∈ items.map name
  · rcases List.mem_map.1 named with ⟨item, member, rfl⟩
    rw [first.found item member, second.found item ((sameItems item).1 member)]
  · have unnamed : other ∉ others.map name := by
      simp only [List.mem_map, sameItems] at named ⊢
      exact named
    rw [first.absent other named, second.absent other unnamed]

/-- The order of the items does not matter. -/
theorem Tabulates.perm {mapping : Mapping κ ν} {others : List α}
    (tabulates : mapping.Tabulates items name value)
    (perm : items.Perm others) : mapping.Tabulates others name value where
  found item member := tabulates.found item (perm.mem_iff.2 member)
  absent other unnamed :=
    tabulates.absent other fun named =>
      unnamed ((perm.map name).mem_iff.1 named)

theorem Tabulates.congr {mapping : Mapping κ ν} {next : α → ν}
    (tabulates : mapping.Tabulates items name value)
    (equal : ∀ item ∈ items, value item = next item) :
    mapping.Tabulates items name next where
  found item member := by
    rw [tabulates.found item member, equal item member]
  absent := tabulates.absent

/-! ## Loops that write a value for some items -/

/-- Write under the name of each item the value it has, if any. -/
def putEach (name : α → κ) (value : α → Option ν) (items : List α)
    (mapping : Mapping κ ν) : Mapping κ ν :=
  items.foldl
    (fun mapping item =>
      (value item).elim mapping fun found => mapping.put (name item) found)
    mapping

/-- A loop over distinct names leaves what it wrote, and the rest alone. -/
theorem get?_putEach (distinct : (items.map name).Nodup)
    (written : α → Option ν) (mapping : Mapping κ ν) :
    (∀ item ∈ items,
      (mapping.putEach name written items).get? (name item) =
        (written item).or (mapping.get? (name item))) ∧
      ∀ other, other ∉ items.map name →
        (mapping.putEach name written items).get? other =
          mapping.get? other := by
  induction items generalizing mapping with
  | nil => exact ⟨nofun, fun _ _ => rfl⟩
  | cons first rest inductionHypothesis =>
      rw [List.map_cons, List.nodup_cons] at distinct
      have untouched (other : κ) (differs : other ≠ name first) :
          ((written first).elim mapping fun found =>
            mapping.put (name first) found).get? other =
              mapping.get? other := by
        cases written first with
        | none => rfl
        | some found => simp [differs]
      rcases inductionHypothesis distinct.2
        ((written first).elim mapping fun found =>
          mapping.put (name first) found) with ⟨holds, leaves⟩
      constructor
      · intro item member
        rcases List.mem_cons.1 member with rfl | later
        · rw [putEach, List.foldl_cons]
          refine (leaves _ distinct.1).trans ?_
          cases written item <;> simp
        · have differs : name item ≠ name first := fun same =>
            distinct.1 (same ▸ List.mem_map_of_mem later)
          rw [putEach, List.foldl_cons]
          exact (holds item later).trans (by rw [untouched _ differs])
      · intro other unnamed
        rw [List.map_cons, List.mem_cons, not_or] at unnamed
        rw [putEach, List.foldl_cons]
        exact (leaves other unnamed.2).trans (untouched other unnamed.1)

/-- A loop that writes every item from nothing leaves its table. -/
theorem putEach_tabulates (distinct : (items.map name).Nodup) :
    (putEach name (fun item => some (value item)) items
      Table.empty).Tabulates items name value := by
  rcases get?_putEach distinct (fun item => some (value item))
    (Table.empty : Mapping κ ν) with ⟨holds, leaves⟩
  exact ⟨fun item member => by rw [holds item member, Option.some_or],
    fun other unnamed => leaves other unnamed⟩

/-- Pairs with distinct names are what their mapping holds. -/
theorem ofList_tabulates (distinct : (items.map name).Nodup) :
    (ofList (items.map fun item => (name item, value item))).Tabulates items
      name value := by
  rw [ofList, List.foldl_map]
  exact putEach_tabulates distinct

/-- Rebuilding a mapping from its rows changes each value where it stands. -/
theorem Tabulates.map {mapping : Mapping κ ν}
    (tabulates : mapping.Tabulates items name value) (change : ν → ν) :
    (ofList (mapping.rows.map fun row => (row.1, change row.2))).Tabulates
      items name fun item => change (value item) := by
  have distinct : (mapping.rows.map Prod.fst).Nodup := mapping.distinct
  have rebuilt :
      (ofList (mapping.rows.map fun row => (row.1, change row.2))).Tabulates
        mapping.rows Prod.fst fun row => change row.2 :=
    ofList_tabulates distinct
  constructor
  · intro item member
    exact rebuilt.found _ (get?_eq_some.1 (tabulates.found item member))
  · intro other unnamed
    refine rebuilt.absent other fun named => ?_
    rcases List.mem_map.1 named with ⟨row, among, rfl⟩
    have held : mapping.get? row.1 = some row.2 := get?_eq_some.2 among
    rw [tabulates.absent row.1 unnamed] at held
    cases held

/-! ## Loops that change the value of each item -/

/-- One turn of the loop: the item's value is changed where it stands. -/
def amendOne (name : α → κ) (missing : κ → ε)
    (change : α → ν → Except ε ν) (mapping : Mapping κ ν) (item : α) :
    Except ε (Mapping κ ν) := do
  let value ← present (mapping.get? (name item)) (missing (name item))
  let changed ← change item value
  pure (mapping.put (name item) changed)

/-- The loop over the items, stopping at the first refusal. -/
def amendEach (name : α → κ) (missing : κ → ε)
    (change : α → ν → Except ε ν) (items : List α) (mapping : Mapping κ ν) :
    Except ε (Mapping κ ν) :=
  items.foldlM (amendOne name missing change) mapping

/-- A loop whose every change succeeds changes each item once. -/
theorem amendEach_ok {missing : κ → ε} {change : α → ν → Except ε ν}
    {mapping : Mapping κ ν} {before after : α → ν}
    (distinct : (items.map name).Nodup)
    (held : ∀ item ∈ items, mapping.get? (name item) = some (before item))
    (changes :
      ∀ item ∈ items, change item (before item) = .ok (after item)) :
    ∃ updated,
      amendEach name missing change items mapping = .ok updated ∧
        (∀ item ∈ items, updated.get? (name item) = some (after item)) ∧
        ∀ other, other ∉ items.map name →
          updated.get? other = mapping.get? other := by
  induction items generalizing mapping with
  | nil => exact ⟨mapping, rfl, by simp, fun _ _ => rfl⟩
  | cons first rest inductionHypothesis =>
      rw [List.map_cons, List.nodup_cons] at distinct
      have first' :
          amendOne name missing change mapping first =
            .ok (mapping.put (name first) (after first)) := by
        simp only [amendOne, bind_eq_ok, present_eq_ok, pure_eq_ok]
        exact ⟨_, held first (by simp), _, changes first (by simp), rfl⟩
      have stillHeld :
          ∀ item ∈ rest,
            (mapping.put (name first) (after first)).get? (name item) =
              some (before item) := by
        intro item member
        have other : name item ≠ name first := fun same =>
          distinct.1 (same ▸ List.mem_map_of_mem member)
        rw [get?_put, if_neg other]
        exact held item (List.mem_cons_of_mem _ member)
      rcases inductionHypothesis distinct.2 stillHeld
        (fun item member => changes item (List.mem_cons_of_mem _ member)) with
        ⟨updated, loops, found, untouched⟩
      refine ⟨updated, ?_, ?_, ?_⟩
      · rw [amendEach, List.foldlM_cons, first']
        exact loops
      · intro item member
        rcases List.mem_cons.1 member with rfl | later
        · rw [untouched _ distinct.1, get?_put, if_pos rfl]
        · exact found item later
      · intro other unnamed
        rw [List.map_cons, List.mem_cons, not_or] at unnamed
        rw [untouched other unnamed.2, get?_put, if_neg unnamed.1]

end Mapping

end AerialRescue.Lib
