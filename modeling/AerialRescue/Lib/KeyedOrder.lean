import Mathlib.Order.Lattice
import Mathlib.Data.List.Perm.Basic
import Mathlib.Tactic.Common

/-!
# The first item of each key

Sorting by a key keeps the order in which items of one key were given.  The
accepted items of which each is the first of its key, in the order of the keys,
are determined by the items they were chosen from; the lemmas say how such a
list changes when one more item is given.

The module is generic in the items, the keys and what is accepted.
-/

namespace AerialRescue.Lib.KeyedOrder

variable {α κ : Type} [LinearOrder κ] (key : α → κ) (accepts : α → Bool)

/-- The items in the order of their keys. -/
def sortOn (items : List α) : List α :=
  items.mergeSort fun left right => decide (key left ≤ key right)

/-- The accepted items, each the first of its key and of no key seen before. -/
def retainFirst : List κ → List α → List α
  | _, [] => []
  | seen, item :: rest =>
      if key item ∉ seen ∧ accepts item = true then
        item :: retainFirst (key item :: seen) rest
      else retainFirst seen rest

/-- The first accepted item of a key. -/
def firstOf (sought : κ) (items : List α) : Option α :=
  (items.filter fun item => key item = sought).find? accepts

/-- In the order of the keys, the first accepted item of each key given. -/
structure FirstOfEach (given items : List α) : Prop where
  ordered : items.Pairwise fun left right => key left < key right
  entries : ∀ item,
    item ∈ items ↔ firstOf key accepts (key item) given = some item

variable {key accepts}

/-! ## Sorting -/

theorem sortOn_perm (items : List α) : (sortOn key items).Perm items :=
  List.mergeSort_perm items _

theorem order_trans (first second third : α)
    (before : decide (key first ≤ key second) = true)
    (after : decide (key second ≤ key third) = true) :
    decide (key first ≤ key third) = true :=
  decide_eq_true ((of_decide_eq_true before).trans (of_decide_eq_true after))

theorem order_total (left right : α) :
    (decide (key left ≤ key right) || decide (key right ≤ key left)) =
      true := by
  rw [Bool.or_eq_true, decide_eq_true_eq, decide_eq_true_eq]
  exact le_total (key left) (key right)

theorem sortOn_pairwise (items : List α) :
    (sortOn key items).Pairwise fun left right => key left ≤ key right := by
  have sorted : (sortOn key items).Pairwise
      fun left right => decide (key left ≤ key right) = true :=
    List.pairwise_mergeSort order_trans order_total items
  exact sorted.imp fun before => of_decide_eq_true before

/-- Items of one key stay in the order they were given. -/
theorem filter_sortOn (items : List α) (sought : κ) :
    ((sortOn key items).filter fun item => key item = sought) =
      items.filter fun item => key item = sought := by
  have alike : (items.filter fun item => key item = sought).Pairwise
      fun left right => decide (key left ≤ key right) = true := by
    refine List.pairwise_of_forall_mem_list fun left first right second => ?_
    have leftKey := of_decide_eq_true (List.mem_filter.1 first).2
    have rightKey := of_decide_eq_true (List.mem_filter.1 second).2
    rw [decide_eq_true_eq, leftKey, rightKey]
  have kept : (items.filter fun item => key item = sought).Sublist
      (sortOn key items) :=
    List.sublist_mergeSort order_trans order_total alike List.filter_sublist
  have among := kept.filter fun item => decide (key item = sought)
  simp only [List.filter_filter, Bool.and_self] at among
  exact (among.eq_of_length
    ((sortOn_perm items).filter _).length_eq.symm).symm

@[simp]
theorem firstOf_sortOn (items : List α) (sought : κ) :
    firstOf key accepts sought (sortOn key items) =
      firstOf key accepts sought items := by
  rw [firstOf, firstOf, filter_sortOn]

/-! ## The first of a key -/

theorem firstOf_cons (item : α) (rest : List α) (sought : κ) :
    firstOf key accepts sought (item :: rest) =
      if key item = sought ∧ accepts item = true then some item
      else firstOf key accepts sought rest := by
  unfold firstOf
  by_cases same : key item = sought
  · by_cases accepted : accepts item = true
    · simp [same, accepted]
    · simp [same, accepted]
  · simp [same]

theorem firstOf_append (given added : List α) (sought : κ) :
    firstOf key accepts sought (given ++ added) =
      (firstOf key accepts sought given).or
        (firstOf key accepts sought added) := by
  rw [firstOf, List.filter_append, List.find?_append]
  rfl

theorem firstOf_some {given : List α} {sought : κ} {item : α}
    (found : firstOf key accepts sought given = some item) :
    item ∈ given ∧ key item = sought ∧ accepts item = true := by
  have listed := List.mem_filter.1 (List.mem_of_find?_eq_some found)
  exact ⟨listed.1, of_decide_eq_true listed.2, List.find?_some found⟩

theorem firstOf_isSome {given : List α} {item : α} (listed : item ∈ given)
    (accepted : accepts item = true) :
    (firstOf key accepts (key item) given).isSome = true := by
  rw [firstOf, List.find?_isSome]
  exact ⟨item, List.mem_filter.2 ⟨listed, decide_eq_true rfl⟩, accepted⟩

/-! ## Retaining the first of each key -/

theorem mem_retainFirst {seen : List κ} {items : List α} {item : α} :
    item ∈ retainFirst key accepts seen items ↔
      key item ∉ seen ∧
        firstOf key accepts (key item) items = some item := by
  induction items generalizing seen with
  | nil => simp [retainFirst, firstOf]
  | cons first rest inductionHypothesis =>
      rw [retainFirst, firstOf_cons]
      split
      · rename_i fresh
        rw [List.mem_cons, inductionHypothesis, List.mem_cons]
        by_cases same : key first = key item
        · rw [if_pos ⟨same, fresh.2⟩, Option.some.injEq]
          constructor
          · rintro (rfl | later)
            · exact ⟨fresh.1, rfl⟩
            · exact absurd (Or.inl same.symm) later.1
          · rintro ⟨_, rfl⟩
            exact Or.inl rfl
        · rw [if_neg fun both => same both.1]
          constructor
          · rintro (rfl | ⟨unseen, found⟩)
            · exact absurd rfl same
            · exact ⟨fun known => unseen (Or.inr known), found⟩
          · rintro ⟨unseen, found⟩
            refine Or.inr ⟨?_, found⟩
            rintro (known | known)
            · exact same known.symm
            · exact unseen known
      · rename_i stale
        rw [inductionHypothesis]
        refine and_congr_right fun unseen => ?_
        rw [if_neg]
        rintro ⟨same, accepted⟩
        exact stale ⟨same ▸ unseen, accepted⟩

theorem retainFirst_sublist (seen : List κ) (items : List α) :
    (retainFirst key accepts seen items).Sublist items := by
  induction items generalizing seen with
  | nil => exact List.Sublist.slnil
  | cons first rest inductionHypothesis =>
      rw [retainFirst]
      split
      · exact (inductionHypothesis _).cons_cons first
      · exact (inductionHypothesis _).cons first

theorem retainFirst_pairwise (seen : List κ) {items : List α}
    (sorted : items.Pairwise fun left right => key left ≤ key right) :
    (retainFirst key accepts seen items).Pairwise
      fun left right => key left < key right := by
  induction items generalizing seen with
  | nil => exact List.Pairwise.nil
  | cons first rest inductionHypothesis =>
      rcases List.pairwise_cons.1 sorted with ⟨least, tail⟩
      rw [retainFirst]
      split
      · refine List.pairwise_cons.2
          ⟨fun later listed => ?_, inductionHypothesis _ tail⟩
        have unseen := (mem_retainFirst.1 listed).1
        refine lt_of_le_of_ne
          (least later ((retainFirst_sublist _ rest).subset listed)) ?_
        exact fun same => unseen (same ▸ List.mem_cons_self)
      · exact inductionHypothesis _ tail

/-! ## The first of each key -/

/-- Retaining from the sorted items is one way to build the list. -/
theorem FirstOfEach.of_sortOn (given : List α) :
    FirstOfEach key accepts given
      (retainFirst key accepts [] (sortOn key given)) where
  ordered := retainFirst_pairwise [] (sortOn_pairwise given)
  entries := fun item => by
    rw [mem_retainFirst, firstOf_sortOn]
    exact and_iff_right List.not_mem_nil

/-- A list in strict order holds the first item of each of its keys. -/
theorem FirstOfEach.of_pairwise {items : List α}
    (ordered : items.Pairwise fun left right => key left < key right) :
    FirstOfEach key (fun _ => true) items items where
  ordered := ordered
  entries := fun item => by
    refine ⟨fun listed => ?_, fun found => (firstOf_some found).1⟩
    induction items with
    | nil => cases listed
    | cons first rest inductionHypothesis =>
        rcases List.pairwise_cons.1 ordered with ⟨least, tail⟩
        rw [firstOf_cons]
        rcases List.mem_cons.1 listed with rfl | later
        · exact if_pos ⟨rfl, rfl⟩
        · rw [if_neg fun both => (least item later).ne both.1]
          exact inductionHypothesis tail later

section Laws

variable {given items : List α}

/-- There is only one such list. -/
theorem FirstOfEach.unique {others : List α}
    (left : FirstOfEach key accepts given items)
    (right : FirstOfEach key accepts given others) : items = others := by
  have distinct {list : List α}
      (ordered : list.Pairwise fun left right => key left < key right) :
      list.Nodup :=
    ordered.imp fun before same => (same ▸ before).false
  have same : items.Perm others :=
    (List.perm_ext_iff_of_nodup (distinct left.ordered)
      (distinct right.ordered)).2 fun item =>
        (left.entries item).trans (right.entries item).symm
  refine same.eq_of_pairwise ?_ left.ordered right.ordered
  exact fun first second _ _ before after => (before.asymm after).elim

theorem FirstOfEach.accepted (chosen : FirstOfEach key accepts given items)
    {item : α} (listed : item ∈ items) : accepts item = true :=
  (firstOf_some ((chosen.entries item).1 listed)).2.2

/-- The entries of a key are the first one given, and nothing else. -/
theorem FirstOfEach.filter_key (chosen : FirstOfEach key accepts given items)
    (sought : κ) :
    (items.filter fun item => key item = sought) =
      (firstOf key accepts sought given).toList := by
  have alone : (items.filter fun item => key item = sought).Pairwise
      fun left right => key left < key right :=
    chosen.ordered.filter _
  have members (item : α) :
      item ∈ (items.filter fun item => key item = sought) ↔
        firstOf key accepts sought given = some item := by
    rw [List.mem_filter, decide_eq_true_eq, chosen.entries]
    constructor
    · rintro ⟨found, rfl⟩
      exact found
    · intro found
      have named := (firstOf_some found).2.1
      exact ⟨named.symm ▸ found, named⟩
  cases entries : items.filter fun item => key item = sought with
  | nil =>
      cases found : firstOf key accepts sought given with
      | none => rfl
      | some item =>
          have listed := (members item).2 found
          rw [entries] at listed
          cases listed
  | cons first rest =>
      rw [(members first).1 (entries ▸ List.mem_cons_self)]
      cases rest with
      | nil => rfl
      | cons second later =>
          rw [entries] at alone members
          have before := (List.pairwise_cons.1 alone).1 second
            List.mem_cons_self
          have one := (members first).1 List.mem_cons_self
          have two := (members second).1
            (List.mem_cons_of_mem _ List.mem_cons_self)
          rw [one] at two
          cases two
          exact (before.false).elim

/-- An item that is not accepted changes nothing. -/
theorem FirstOfEach.append_rejected
    (chosen : FirstOfEach key accepts given items) {added : α}
    (rejected : accepts added = false) :
    FirstOfEach key accepts (given ++ [added]) items where
  ordered := chosen.ordered
  entries := fun item => by
    rw [chosen.entries, firstOf_append, firstOf_cons, if_neg]
    · rw [show firstOf key accepts (key item) [] = none from rfl,
        Option.or_none]
    · rw [rejected]
      exact fun both => Bool.noConfusion both.2

/-- An item of a key that has an entry changes nothing. -/
theorem FirstOfEach.append_known
    (chosen : FirstOfEach key accepts given items) {added known : α}
    (listed : known ∈ items) (same : key known = key added) :
    FirstOfEach key accepts (given ++ [added]) items where
  ordered := chosen.ordered
  entries := fun item => by
    rw [chosen.entries, firstOf_append]
    by_cases named : key item = key added
    · rw [named, ← same, (chosen.entries known).1 listed]
      rfl
    · rw [firstOf_cons, if_neg fun both => named both.1.symm]
      rw [show firstOf key accepts (key item) [] = none from rfl,
        Option.or_none]

/-- An accepted item of a new key takes its place in the order. -/
theorem FirstOfEach.append_new
    (chosen : FirstOfEach key accepts given items) {added : α}
    (accepted : accepts added = true)
    (fresh : ∀ item ∈ items, key item ≠ key added) :
    FirstOfEach key accepts (given ++ [added])
      (sortOn key (items ++ [added])) where
  ordered := by
    have distinct : (items ++ [added]).Pairwise
        fun left right => key left ≠ key right := by
      refine List.pairwise_append.2
        ⟨chosen.ordered.imp fun before => before.ne,
          List.pairwise_singleton _ _, fun item listed other last => ?_⟩
      rw [List.mem_singleton.1 last]
      exact fresh item listed
    have apart : (sortOn key (items ++ [added])).Pairwise
        fun left right => key left ≠ key right :=
      (sortOn_perm (items ++ [added])).symm.pairwise distinct
        fun different same => different same.symm
    exact (sortOn_pairwise (items ++ [added])).and apart |>.imp
      fun both => lt_of_le_of_ne both.1 both.2
  entries := fun item => by
    have missing : firstOf key accepts (key added) given = none := by
      cases found : firstOf key accepts (key added) given with
      | none => rfl
      | some earlier =>
          have named := (firstOf_some found).2.1
          have listed := (chosen.entries earlier).2 (named.symm ▸ found)
          exact absurd named (fresh earlier listed)
    rw [(sortOn_perm _).mem_iff, List.mem_append, List.mem_singleton,
      firstOf_append, firstOf_cons, chosen.entries]
    by_cases named : key item = key added
    · rw [named, missing, if_pos ⟨rfl, accepted⟩]
      simp [eq_comm]
    · rw [if_neg fun both => named both.1.symm,
        show firstOf key accepts (key item) [] = none from rfl,
        Option.or_none]
      exact or_iff_left fun same => named (congrArg key same)

end Laws

end AerialRescue.Lib.KeyedOrder
